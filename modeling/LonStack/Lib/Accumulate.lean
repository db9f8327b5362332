import Mathlib.Data.List.Induction

universe u

namespace LonStack.Lib

variable {α : Type u} (op : α → α → α)

def totals (a : α) : List α → List α
  | [] => []
  | b :: l => op a b :: totals (op a b) l

def RepeatsOrAbsorbs (l : List α) : Prop :=
  ∀ pre b post, l = pre ++ b :: post → b ∈ pre ∨ ∀ x ∈ pre, op x b = b

variable {op} {a b x : α} {l l' : List α}

theorem totals_append :
    totals op a (l ++ l') = totals op a l ++ totals op (l.foldl op a) l' := by
  induction l generalizing a with
  | nil => rfl
  | cons b l ih => rw [List.cons_append, totals, ih, totals, List.cons_append, List.foldl_cons]

theorem mem_totals_concat :
    x ∈ totals op a (l ++ [b]) ↔ x ∈ totals op a l ∨ x = op (l.foldl op a) b := by
  rw [totals_append, List.mem_append, totals, totals, List.mem_singleton]

theorem repeatsOrAbsorbs_nil : RepeatsOrAbsorbs op [] := by
  intro pre b post h
  exact absurd h.symm (List.append_ne_nil_of_right_ne_nil pre (List.cons_ne_nil b post))

theorem repeatsOrAbsorbs_concat_iff :
    RepeatsOrAbsorbs op (l ++ [b]) ↔
      RepeatsOrAbsorbs op l ∧ (b ∈ l ∨ ∀ x ∈ l, op x b = b) := by
  constructor
  · intro h
    refine ⟨fun pre c post hl => h pre c (post ++ [b]) ?_, h l b [] rfl⟩
    rw [hl, List.append_assoc, List.cons_append]
  · rintro ⟨hl, hb⟩ pre c post heq
    cases post using List.reverseRecOn with
    | nil =>
      obtain ⟨rfl, hc⟩ := List.append_inj' heq rfl
      cases hc
      exact hb
    | append_singleton post d =>
      have heq : l ++ [b] = (pre ++ c :: post) ++ [d] := by
        rw [heq, List.append_assoc, List.cons_append]
      exact hl pre c post (List.append_inj' heq rfl).1

theorem foldl_mem_totals (hl : l ≠ []) : l.foldl op a ∈ totals op a l := by
  induction l using List.reverseRecOn with
  | nil => exact absurd rfl hl
  | append_singleton l b =>
    rw [mem_totals_concat, List.foldl_append]
    exact .inr rfl

section

variable [Std.Associative op] [Std.Commutative op] [Std.IdempotentOp op]

theorem op_foldl : op x (l.foldl op a) = l.foldl op (op x a) := by
  induction l generalizing a with
  | nil => rfl
  | cons b l ih =>
    have hassoc : op x (op a b) = op (op x a) b := by ac_rfl
    rw [List.foldl_cons, List.foldl_cons, ih, hassoc]

theorem foldl_op_of_absorbs (ha : op a b = b) (h : ∀ x ∈ l, op x b = b) :
    op (l.foldl op a) b = b := by
  induction l using List.reverseRecOn with
  | nil => exact ha
  | append_singleton l c ih =>
    have hassoc : op (op (l.foldl op a) c) b = op (l.foldl op a) (op c b) := by ac_rfl
    rw [List.foldl_append, List.foldl_cons, List.foldl_nil, hassoc, h c List.mem_concat_self]
    exact ih fun x hx => h x (List.mem_append_left _ hx)

theorem op_foldl_of_mem (hx : x ∈ l) : op x (l.foldl op a) = l.foldl op a := by
  induction l generalizing a with
  | nil => exact absurd hx List.not_mem_nil
  | cons b l ih =>
    rw [List.foldl_cons]
    cases hx with
    | head =>
      have hself : op x (op a x) = op a x := by
        rw [@Std.Commutative.comm _ op _ a x]
        ac_rfl
      exact op_foldl.trans (congrArg (fun c => l.foldl op c) hself)
    | tail _ hx => exact ih hx

theorem mem_totals_iff (ha : ∀ x, op a x = x) (h : RepeatsOrAbsorbs op l) :
    x ∈ totals op a l ↔ x ∈ l := by
  induction l using List.reverseRecOn generalizing x with
  | nil => rfl
  | append_singleton l b ih =>
    obtain ⟨hl, hb⟩ := repeatsOrAbsorbs_concat_iff.mp h
    rw [mem_totals_concat, List.mem_append, List.mem_singleton, ih hl]
    cases hb with
    | inl hb =>
      have htotal : l.foldl op a ∈ l := (ih hl).mp (foldl_mem_totals (List.ne_nil_of_mem hb))
      have hlast : op (l.foldl op a) b = l.foldl op a := by
        rw [← op_foldl_of_mem hb]
        ac_rfl
      rw [hlast]
      constructor
      · exact fun hx => hx.elim .inl fun hx => .inl (hx ▸ htotal)
      · exact fun hx => hx.elim .inl fun hx => .inl (hx ▸ hb)
    | inr hb => rw [foldl_op_of_absorbs (ha b) hb]

theorem repeatsOrAbsorbs_of_subset (ha : ∀ x, op a x = x) (h : ∀ x ∈ l, x ∈ totals op a l) :
    RepeatsOrAbsorbs op l := by
  induction l using List.reverseRecOn with
  | nil => exact repeatsOrAbsorbs_nil
  | append_singleton l b ih =>
    have hl : RepeatsOrAbsorbs op l := by
      refine ih fun x hx => ?_
      cases mem_totals_concat.mp (h x (List.mem_append_left _ hx)) with
      | inl hx => exact hx
      | inr heq =>
        -- The last total is an element only when it adds nothing to the one before it.
        have hself : op (l.foldl op a) x = x := by
          rw [heq, ← @Std.Associative.assoc _ op, @Std.IdempotentOp.idempotent _ op]
        have habsorbed : op x (l.foldl op a) = l.foldl op a := op_foldl_of_mem hx
        rw [← hself, @Std.Commutative.comm _ op, habsorbed]
        exact foldl_mem_totals (List.ne_nil_of_mem hx)
    refine repeatsOrAbsorbs_concat_iff.mpr ⟨hl, ?_⟩
    cases mem_totals_concat.mp (h b List.mem_concat_self) with
    | inl hb => exact .inl ((mem_totals_iff ha hl).mp hb)
    | inr hb =>
      refine .inr fun x hx => ?_
      have hassoc : op x (op (l.foldl op a) b) = op (op x (l.foldl op a)) b := by ac_rfl
      have habsorbed : op x (l.foldl op a) = l.foldl op a := op_foldl_of_mem hx
      rw [hb, hassoc, habsorbed]

theorem repeatsOrAbsorbs_iff (ha : ∀ x, op a x = x) :
    RepeatsOrAbsorbs op l ↔ ∀ x, x ∈ totals op a l ↔ x ∈ l :=
  ⟨fun h _ => mem_totals_iff ha h, fun h => repeatsOrAbsorbs_of_subset ha fun x => (h x).mpr⟩

end

end LonStack.Lib
