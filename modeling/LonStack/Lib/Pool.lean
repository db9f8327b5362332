import Mathlib.Order.Lattice

universe u v w

namespace LonStack.Lib

variable {ι : Type u} {ρ : Type v} {κ : Type w} [LinearOrder ι] {key : ρ → κ} {used : ρ → Prop}
  {k : κ} {pool pool' : ι → ρ}

/-- A used slot with key `k` precedes every other slot with this key, also the unused ones that
still carry it. A search for the first slot with the key then finds the used one. -/
def FirstUsed (key : ρ → κ) (used : ρ → Prop) (k : κ) (pool : ι → ρ) : Prop :=
  ∀ i j, used (pool i) → key (pool i) = k → key (pool j) = k → i ≤ j

namespace FirstUsed

theorem of_unused (h : ∀ i, ¬used (pool i)) : FirstUsed key used k pool := by
  intro i j hi
  exact absurd hi (h i)

theorem unique (h : FirstUsed key used k pool) {i j : ι} (hi : used (pool i)) (hj : used (pool j))
    (hik : key (pool i) = k) (hjk : key (pool j) = k) : i = j :=
  le_antisymm (h i j hi hik hjk) (h j i hj hjk hik)

theorem shrink (h : FirstUsed key used k pool)
    (hstep : ∀ i, key (pool' i) = k → key (pool i) = k ∧ (used (pool' i) → used (pool i))) :
    FirstUsed key used k pool' := by
  intro i j hi hik hjk
  exact h i j ((hstep i hik).2 hi) (hstep i hik).1 (hstep j hjk).1

theorem assign {i : ι} (hfirst : ∀ j, key (pool j) = k → i ≤ j)
    (hfree : ∀ j, j ≠ i → key (pool j) = k → ¬used (pool j))
    (hstep : ∀ j, j ≠ i → key (pool' j) = k →
      key (pool j) = k ∧ (used (pool' j) → used (pool j))) :
    FirstUsed key used k pool' := by
  intro l j hl hlk hjk
  by_cases hli : l = i
  · by_cases hji : j = i
    · rw [hli, hji]
    · rw [hli]
      exact hfirst j (hstep j hji hjk).1
  · have hl' := hstep l hli hlk
    exact absurd (hl'.2 hl) (hfree l hli hl'.1)

theorem others_free (h : FirstUsed key used k pool) {i : ι} (hik : key (pool i) = k)
    (hfirst : ∀ j, key (pool j) = k → i ≤ j) {j : ι} (hji : j ≠ i) (hjk : key (pool j) = k) :
    ¬used (pool j) := by
  intro hj
  exact hji (le_antisymm (h j i hj hjk hik) (hfirst j hjk))

end FirstUsed

end LonStack.Lib
