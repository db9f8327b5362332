import Mathlib.Data.Finset.Basic
import Mathlib.Logic.Function.Basic

universe u v

namespace LonStack.Lib

variable {ι : Type u} {α : Type v}

/-- The set holds exactly what the slots of a table name. A slot may be empty, and two slots may
name the same. -/
def Mirrors (m : Finset α) (f : ι → Option α) : Prop := ∀ a, a ∈ m ↔ ∃ i, f i = some a

namespace Mirrors

variable {m : Finset α} {f f' : ι → Option α}

theorem unique {m' : Finset α} (h : Mirrors m f) (h' : Mirrors m' f) : m = m' :=
  Finset.ext fun a => (h a).trans (h' a).symm

theorem congr_iff (h : Mirrors m f) :
    Mirrors m f' ↔ ∀ a, (∃ i, f i = some a) ↔ ∃ i, f' i = some a :=
  forall_congr' fun a => by rw [h a]

variable [DecidableEq ι] {i : ι} {o : Option α} {a b : α}

theorem exists_update_iff {c : α} :
    (∃ j, Function.update f i o j = some c) ↔ o = some c ∨ ∃ j, j ≠ i ∧ f j = some c := by
  constructor
  · rintro ⟨j, hj⟩
    by_cases hji : j = i
    · rw [hji, Function.update_self] at hj
      exact .inl hj
    · rw [Function.update_of_ne hji] at hj
      exact .inr ⟨j, hji, hj⟩
  · rintro (ho | ⟨j, hji, hj⟩)
    · exact ⟨i, by rw [Function.update_self, ho]⟩
    · exact ⟨j, by rw [Function.update_of_ne hji, hj]⟩

theorem exists_iff {c : α} : (∃ j, f j = some c) ↔ f i = some c ∨ ∃ j, j ≠ i ∧ f j = some c := by
  rw [← exists_update_iff, Function.update_eq_self]

theorem update_iff (h : Mirrors m f) :
    Mirrors m (Function.update f i o) ↔
      (∀ c, f i = some c → o ≠ some c → ∃ j, j ≠ i ∧ f j = some c) ∧
        ∀ c, o = some c → ∃ j, f j = some c := by
  rw [h.congr_iff]
  constructor
  · intro hsame
    refine ⟨fun c hc ho => ?_, fun c hc => (hsame c).mpr (exists_update_iff.mpr (.inl hc))⟩
    exact (exists_update_iff.mp ((hsame c).mp ⟨i, hc⟩)).resolve_left ho
  · rintro ⟨hkept, hnamed⟩ c
    rw [exists_update_iff]
    constructor
    · intro hc
      by_cases ho : o = some c
      · exact .inl ho
      · exact (exists_iff.mp hc).elim (fun hi => .inr (hkept c hi ho)) .inr
    · exact fun hc => hc.elim (hnamed c) fun ⟨j, _, hj⟩ => ⟨j, hj⟩

variable [DecidableEq α]

theorem replace_iff (h : Mirrors m f) (hne : b ≠ a) :
    Mirrors (insert a (m.erase b)) (Function.update f i (some a)) ↔
      (∀ j, j ≠ i → f j ≠ some b) ∧
        ∀ c, f i = some c → c ≠ a → c ≠ b → ∃ j, j ≠ i ∧ f j = some c := by
  have hmem (c : α) : c ∈ insert a (m.erase b) ↔ c = a ∨ c ≠ b ∧ ∃ j, f j = some c := by
    rw [Finset.mem_insert, Finset.mem_erase, h c]
  constructor
  · intro hmirrors
    refine ⟨fun j hji hj => ?_, fun c hc hca hcb => ?_⟩
    · have hb := (hmem b).mp ((hmirrors b).mpr (exists_update_iff.mpr (.inr ⟨j, hji, hj⟩)))
      exact hb.elim hne fun hb => hb.1 rfl
    · have hc := (hmirrors c).mp ((hmem c).mpr (.inr ⟨hcb, i, hc⟩))
      exact (exists_update_iff.mp hc).resolve_left fun ha => hca (Option.some.inj ha).symm
  · rintro ⟨hother, hkept⟩ c
    rw [hmem, exists_update_iff, Option.some_inj, eq_comm (a := c)]
    by_cases hca : a = c
    · exact iff_of_true (.inl hca) (.inl hca)
    · refine or_congr_right ⟨fun ⟨hcb, hc⟩ => ?_, fun ⟨j, hji, hj⟩ => ⟨fun hcb => ?_, j, hj⟩⟩
      · exact (exists_iff.mp hc).elim (fun hi => hkept c hi (Ne.symm hca) hcb) id
      · exact hother j hji (hcb ▸ hj)

theorem insert_iff (h : Mirrors m f) :
    Mirrors (insert a m) (Function.update f i (some a)) ↔
      ∀ c, f i = some c → c ≠ a → ∃ j, j ≠ i ∧ f j = some c := by
  have hmem (c : α) : c ∈ insert a m ↔ c = a ∨ ∃ j, f j = some c := by
    rw [Finset.mem_insert, h c]
  constructor
  · intro hmirrors c hc hca
    have hc := (hmirrors c).mp ((hmem c).mpr (.inr ⟨i, hc⟩))
    exact (exists_update_iff.mp hc).resolve_left fun ha => hca (Option.some.inj ha).symm
  · intro hkept c
    rw [hmem, exists_update_iff, Option.some_inj, eq_comm (a := c)]
    by_cases hca : a = c
    · exact iff_of_true (.inl hca) (.inl hca)
    · exact or_congr_right ⟨fun hc => (exists_iff.mp hc).elim (fun hi => hkept c hi (Ne.symm hca)) id,
        fun ⟨j, _, hj⟩ => ⟨j, hj⟩⟩

end Mirrors

end LonStack.Lib
