universe u v w

namespace LonStack.Lib

variable {σ : Type u} {τ : Type v}

/-- What `f` says of each step of a history, in the order in which the steps were made. The history
has the newest step first. -/
def ledger (f : σ → List τ) : List σ → List τ
  | [] => []
  | x :: h => ledger f h ++ f x

variable {f g : σ → List τ} {x : σ} {h : List σ}

theorem map_ledger {ρ : Type w} (k : τ → ρ) :
    (ledger f h).map k = ledger (fun x => (f x).map k) h := by
  induction h with
  | nil => rfl
  | cons x h ih => rw [ledger, ledger, List.map_append, ih]

theorem ledger_balance {contents contents' start : List τ}
    (hstep : contents ++ f x = g x ++ contents')
    (hh : start ++ ledger f h = ledger g h ++ contents) :
    start ++ ledger f (x :: h) = ledger g (x :: h) ++ contents' := by
  rw [ledger, ledger, ← List.append_assoc, hh, List.append_assoc, hstep, List.append_assoc]

theorem length_ledger_le (hle : ∀ x ∈ h, (f x).length ≤ (g x).length) :
    (ledger f h).length ≤ (ledger g h).length := by
  induction h with
  | nil => exact Nat.le_refl _
  | cons x h ih =>
    rw [List.forall_mem_cons] at hle
    rw [ledger, ledger, List.length_append, List.length_append]
    exact Nat.add_le_add (ih hle.2) hle.1

theorem ledger_eq_iff (hx : ∀ x ∈ h, f x = g x ∨ (f x).length < (g x).length) :
    ledger f h = ledger g h ↔ ∀ x ∈ h, f x = g x := by
  induction h with
  | nil => simp [ledger]
  | cons x h ih =>
    rw [List.forall_mem_cons] at hx ⊢
    have hle : (ledger f h).length ≤ (ledger g h).length :=
      length_ledger_le fun y hy => (hx.2 y hy).elim (fun heq => heq ▸ Nat.le_refl _) Nat.le_of_lt
    rw [ledger, ledger, ← ih hx.2]
    constructor
    · intro heq
      rcases hx.1 with hx | hx
      · rw [hx, List.append_left_inj] at heq
        exact ⟨hx, heq⟩
      · have hlength := congrArg List.length heq
        rw [List.length_append, List.length_append] at hlength
        omega
    · rintro ⟨hx, hh⟩
      rw [hx, hh]

end LonStack.Lib
