import LonStack.Lib.Run

universe u v w

namespace LonStack.Lib

variable {α : Type u}

def appended (old new : List α) : List α := new.drop old.length

def removed (old new : List α) : List α := old.take (old.length - new.length)

theorem appended_append (l l' : List α) : appended l (l ++ l') = l' := List.drop_left

theorem appended_self (l : List α) : appended l l = [] := List.drop_length

theorem removed_cons (a : α) (l : List α) : removed (a :: l) l = [a] := by
  rw [removed, List.length_cons, Nat.add_sub_cancel_left, List.take_succ_cons, List.take_zero]

theorem appended_eq_nil {old new : List α} (h : new <:+ old) : appended old new = [] :=
  List.drop_of_length_le h.length_le

theorem removed_eq_nil {old new : List α} (h : old <+: new) : removed old new = [] := by
  rw [removed, Nat.sub_eq_zero_of_le h.length_le, List.take_zero]

theorem removed_append_eq {old new : List α} (h : new <:+ old ∨ old <+: new) :
    removed old new ++ new = old ++ appended old new := by
  cases h with
  | inl h =>
    obtain ⟨front, rfl⟩ := h
    have hlen : (front ++ new).length - new.length = front.length := by
      rw [List.length_append, Nat.add_sub_cancel]
    rw [removed, hlen, List.take_left, appended_eq_nil (List.suffix_append ..), List.append_nil]
  | inr h =>
    rw [removed_eq_nil h]
    obtain ⟨back, rfl⟩ := h
    rw [appended_append, List.nil_append]

variable {σ : Type v} {ε : Type w} (step : ε → σ → σ) (q : σ → List α)

def inputs (h : List (σ × ε)) : List (σ × α) :=
  h.reverse.flatMap fun x => (appended (q x.1) (q (step x.2 x.1))).map (x.1, ·)

def outputs (h : List (σ × ε)) : List (σ × α) :=
  h.reverse.flatMap fun x => (removed (q x.1) (q (step x.2 x.1))).map (x.1, ·)

variable {step q} {s t : σ} {e : ε} {h : List (σ × ε)} {x : σ × α}

theorem inputs_cons :
    inputs step q ((t, e) :: h) =
      inputs step q h ++ (appended (q t) (q (step e t))).map (t, ·) := by
  simp [inputs]

theorem outputs_cons :
    outputs step q ((t, e) :: h) =
      outputs step q h ++ (removed (q t) (q (step e t))).map (t, ·) := by
  simp [outputs]

theorem mem_outputs (hx : x ∈ outputs step q h) :
    ∃ e, (x.1, e) ∈ h ∧ x.2 ∈ removed (q x.1) (q (step e x.1)) := by
  obtain ⟨⟨r, e⟩, hmem, hx⟩ := List.mem_flatMap.mp hx
  obtain ⟨a, ha, rfl⟩ := List.mem_map.mp hx
  exact ⟨e, List.mem_reverse.mp hmem, ha⟩

/-- First in, first out: what a run took and what is left is what was there and what it added. -/
theorem Run.fifo (hstep : ∀ e s, q (step e s) <:+ q s ∨ q s <+: q (step e s))
    (hrun : Run step s h t) :
    (outputs step q h).map Prod.snd ++ q t = q s ++ (inputs step q h).map Prod.snd := by
  induction hrun with
  | refl => simp [inputs, outputs]
  | @next h t e hrun ih =>
    have hsnd (l : List α) : (l.map (t, ·)).map Prod.snd = l := by
      rw [List.map_map]
      exact List.map_id l
    rw [inputs_cons, outputs_cons, List.map_append, List.map_append, hsnd, hsnd, List.append_assoc,
      removed_append_eq (hstep e t), ← List.append_assoc, ih, List.append_assoc]

end LonStack.Lib
