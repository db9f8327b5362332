import Mathlib.Logic.Function.Basic

universe u v

namespace LonStack.Lib

variable {α : Type u} {κ : Type v} {key : α → Option κ} {t t' : Nat → α} {n : Nat}

/-- The first `n` entries of a table carry different keys; an entry without a key is never
looked up. -/
def Distinct (key : α → Option κ) (t : Nat → α) (n : Nat) : Prop :=
  ∀ i j k, i < n → j < n → key (t i) = some k → key (t j) = some k → i = j

namespace Distinct

theorem zero (key : α → Option κ) (t : Nat → α) : Distinct key t 0 := by
  intro i j k hi
  exact absurd hi (Nat.not_lt_zero i)

theorem congr (h : Distinct key t n) (heq : ∀ i, i < n → key (t' i) = key (t i)) :
    Distinct key t' n := by
  intro i j k hi hj hik hjk
  exact h i j k hi hj (heq i hi ▸ hik) (heq j hj ▸ hjk)

theorem update (h : Distinct key t n) {i : Nat} {x : α} (hx : key x = key (t i)) :
    Distinct key (Function.update t i x) n := by
  apply h.congr
  intro j hj
  by_cases hji : j = i
  · rw [hji, Function.update_self, hx]
  · rw [Function.update_of_ne hji]

theorem push (h : Distinct key t n) {x : α}
    (hx : ∀ k, key x = some k → ∀ i, i < n → key (t i) ≠ some k) :
    Distinct key (Function.update t n x) (n + 1) := by
  intro i j k hi hj hik hjk
  by_cases hin : i = n
  · by_cases hjn : j = n
    · rw [hin, hjn]
    · rw [hin, Function.update_self] at hik
      rw [Function.update_of_ne hjn] at hjk
      exact absurd hjk (hx k hik j (by omega))
  · rw [Function.update_of_ne hin] at hik
    by_cases hjn : j = n
    · rw [hjn, Function.update_self] at hjk
      exact absurd hik (hx k hjk i (by omega))
    · rw [Function.update_of_ne hjn] at hjk
      exact h i j k (by omega) (by omega) hik hjk

theorem moveLast (h : Distinct key t (n + 1)) (i : Nat) :
    Distinct key (Function.update t i (t n)) n := by
  intro j l k hj hl hjk hlk
  by_cases hji : j = i
  · by_cases hli : l = i
    · rw [hji, hli]
    · rw [hji, Function.update_self] at hjk
      rw [Function.update_of_ne hli] at hlk
      have := h n l k (by omega) (by omega) hjk hlk
      omega
  · rw [Function.update_of_ne hji] at hjk
    by_cases hli : l = i
    · rw [hli, Function.update_self] at hlk
      have := h j n k (by omega) (by omega) hjk hlk
      omega
    · rw [Function.update_of_ne hli] at hlk
      exact h j l k (by omega) (by omega) hjk hlk

end Distinct

section

variable {key : α → κ} {live : α → Bool}

/-- No entry is live behind one with the same key. So an entry that is not live may keep its key
for the first search by key to revive. -/
def Shadowed (key : α → κ) (live : α → Bool) (t : Nat → α) (n : Nat) : Prop :=
  ∀ i j, i < j → j < n → key (t i) = key (t j) → live (t j) = false

namespace Shadowed

theorem zero (key : α → κ) (live : α → Bool) (t : Nat → α) : Shadowed key live t 0 := by
  intro i j _ hj
  exact absurd hj (Nat.not_lt_zero j)

theorem dead (h : ∀ j, j < n → live (t j) = false) : Shadowed key live t n :=
  fun _ j _ hj _ => h j hj

theorem distinct (h : Shadowed key live t n) :
    Distinct (fun x => if live x then some (key x) else none) t n := by
  have hle {i j : Nat} (hj : j < n) (hkey : key (t i) = key (t j)) (hlive : live (t j) = true) :
      j ≤ i := by
    by_contra hlt
    rw [h i j (by omega) hj hkey] at hlive
    exact Bool.false_ne_true hlive
  intro i j k hi hj hik hjk
  simp only [Option.ite_none_right_eq_some, Option.some.injEq] at hik hjk
  exact Nat.le_antisymm (hle hi (hjk.2.trans hik.2.symm) hik.1)
    (hle hj (hik.2.trans hjk.2.symm) hjk.1)

theorem update (h : Shadowed key live t n) {i : Nat} {x : α}
    (hbefore : ∀ j, j < i → key (t j) = key x → live x = false)
    (hbehind : ∀ j, i < j → j < n → key x = key (t j) → live (t j) = false) :
    Shadowed key live (Function.update t i x) n := by
  intro j l hjl hl hkey
  by_cases hli : l = i
  · subst hli
    rw [Function.update_self] at hkey ⊢
    rw [Function.update_of_ne (by omega)] at hkey
    exact hbefore j hjl hkey
  · rw [Function.update_of_ne hli] at hkey ⊢
    by_cases hji : j = i
    · subst hji
      rw [Function.update_self] at hkey
      exact hbehind l hjl hl hkey
    · rw [Function.update_of_ne hji] at hkey
      exact h j l hjl hl hkey

theorem keep (h : Shadowed key live t n) {i : Nat} {x : α} (hi : i < n) (hkey : key x = key (t i))
    (hlive : live (t i) = false → live x = false) :
    Shadowed key live (Function.update t i x) n :=
  h.update (fun j hj hj' => hlive (h j i hj hi (hj'.trans hkey)))
    fun j hij hj hj' => h i j hij hj (hkey.symm.trans hj')

theorem push (h : Shadowed key live t n) {x : α}
    (hbefore : ∀ j, j < n → key (t j) = key x → live x = false) :
    Shadowed key live (Function.update t n x) (n + 1) := by
  intro j l hjl hl hkey
  by_cases hln : l = n
  · subst hln
    rw [Function.update_self] at hkey ⊢
    rw [Function.update_of_ne (by omega)] at hkey
    exact hbefore j hjl hkey
  · rw [Function.update_of_ne hln] at hkey ⊢
    rw [Function.update_of_ne (by omega)] at hkey
    exact h j l hjl (by omega) hkey

end Shadowed

end

end LonStack.Lib
