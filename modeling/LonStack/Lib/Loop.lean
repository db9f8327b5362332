universe u

namespace LonStack.Lib

variable {σ : Type u} {test : σ → Bool} {body : σ → σ} {s t : σ} {m n : Nat}

/-- A while loop. `none` stands for a loop that has not ended after `n` tests. -/
def loop (test : σ → Bool) (body : σ → σ) : Nat → σ → Option σ
  | 0, _ => none
  | n + 1, s => if test s then loop test body n (body s) else some s

theorem loop_of_not (h : test s = false) : loop test body (n + 1) s = some s := by
  rw [loop, if_neg (Bool.not_eq_true _ ▸ h)]

theorem loop_of_test (h : test s = true) : loop test body (n + 1) s = loop test body n (body s) := by
  rw [loop, if_pos h]

/-- The rule for loops: what the body keeps holds in the end, and a measure that the body makes smaller
bounds the number of tests. -/
theorem loop_spec {I : σ → Prop} (measure : σ → Nat)
    (hbody : ∀ s, I s → test s = true → I (body s) ∧ measure (body s) < measure s) (hs : I s)
    (hn : measure s < n) : ∃ t, loop test body n s = some t ∧ I t ∧ test t = false := by
  induction n generalizing s with
  | zero => exact absurd hn (Nat.not_lt_zero _)
  | succ n ih =>
    cases htest : test s with
    | false => exact ⟨s, loop_of_not htest, hs, htest⟩
    | true =>
      obtain ⟨hkeep, hless⟩ := hbody s hs htest
      rw [loop_of_test htest]
      exact ih hkeep (by omega)

end LonStack.Lib
