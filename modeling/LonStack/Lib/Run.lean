universe u v

namespace LonStack.Lib

variable {σ : Type u} {ε : Type v} {step : ε → σ → σ} {s t r : σ} {h h' : List (σ × ε)}

/-- A run of a deterministic system from `s`. Its history lists every step, the newest first, as
the state before the step together with the event. -/
inductive Run (step : ε → σ → σ) (s : σ) : List (σ × ε) → σ → Prop
  | refl : Run step s [] s
  | next {h : List (σ × ε)} {t : σ} (e : ε) :
      Run step s h t → Run step s ((t, e) :: h) (step e t)

namespace Run

theorem single (e : ε) (s : σ) : Run step s [(s, e)] (step e s) := .next e .refl

theorem trans (hst : Run step s h t) (htr : Run step t h' r) : Run step s (h' ++ h) r := by
  induction htr with
  | refl => exact hst
  | next e _ ih => exact .next e ih

theorem of_suffix (hrun : Run step s h t) {e : ε} (hsuffix : (r, e) :: h' <:+ h) :
    Run step s h' r := by
  induction hrun with
  | refl => exact absurd (List.suffix_nil.mp hsuffix) (List.cons_ne_nil _ _)
  | next e' hrun ih =>
    cases List.suffix_cons_iff.mp hsuffix with
    | inl heq =>
      obtain ⟨hpair, rfl⟩ := List.cons_eq_cons.mp heq
      cases hpair
      exact hrun
    | inr hsuffix => exact ih hsuffix

theorem invariant {I : σ → Prop} {ok : σ × ε → Prop}
    (hstep : ∀ e t, ok (t, e) → I t → I (step e t)) (hrun : Run step s h t)
    (hok : ∀ x ∈ h, ok x) (hs : I s) : I t := by
  induction hrun with
  | refl => exact hs
  | next e _ ih =>
    rw [List.forall_mem_cons] at hok
    exact hstep e _ hok.1 (ih hok.2)

end Run

def history (step : ε → σ → σ) : σ → List ε → List (σ × ε)
  | _, [] => []
  | s, e :: es => history step (step e s) es ++ [(s, e)]

theorem Run.history (step : ε → σ → σ) (s : σ) (es : List ε) :
    Run step s (history step s es) (es.foldl (fun s e => step e s) s) := by
  induction es generalizing s with
  | nil => exact .refl
  | cons e es ih => exact (Run.single e s).trans (ih _)

def Always (P : List (σ × ε) → σ → Prop) : List (σ × ε) → σ → Prop
  | [], s => P [] s
  | (t, e) :: h, s => P ((t, e) :: h) s ∧ Always P h t

theorem Always.head {P : List (σ × ε) → σ → Prop} (h : List (σ × ε)) (s : σ)
    (hP : Always P h s) : P h s := by
  cases h with
  | nil => exact hP
  | cons => exact hP.1

theorem Run.always_iff {I : σ → Prop} {ok : σ × ε → Prop}
    (hstep : ∀ e t, I t → (I (step e t) ↔ ok (t, e))) (hrun : Run step s h t) :
    Always (fun _ => I) h t ↔ I s ∧ ∀ x ∈ h, ok x := by
  induction hrun with
  | refl => exact ⟨fun hs => ⟨hs, fun x hx => absurd hx List.not_mem_nil⟩, fun hs => hs.1⟩
  | @next h t e _ ih =>
    rw [Always, ih, List.forall_mem_cons]
    constructor
    · rintro ⟨hnext, hs, hok⟩
      have ht : I t := Always.head h t (ih.mpr ⟨hs, hok⟩)
      exact ⟨hs, (hstep e t ht).mp hnext, hok⟩
    · rintro ⟨hs, he, hok⟩
      have ht : I t := Always.head h t (ih.mpr ⟨hs, hok⟩)
      exact ⟨(hstep e t ht).mpr he, hs, hok⟩

/-- Some step satisfies `a`, and no step after it satisfies `b`. A step that satisfies both counts:
`b` opens the period in which `a` is looked for. -/
def Since (a b : σ × ε → Prop) : List (σ × ε) → Prop
  | [] => False
  | x :: h => a x ∨ (¬b x ∧ Since a b h)

instance Since.decidable {a b : σ × ε → Prop} [DecidablePred a] [DecidablePred b] :
    DecidablePred (Since a b)
  | [] => .isFalse id
  | x :: h =>
    have := Since.decidable (a := a) (b := b) h
    inferInstanceAs (Decidable (a x ∨ (¬b x ∧ Since a b h)))

theorem Since.mono {a a' b b' : σ × ε → Prop} (ha : ∀ x, a x → a' x) (hb : ∀ x, b' x → b x)
    (hs : Since a b h) : Since a' b' h := by
  induction h with
  | nil => exact hs
  | cons x h ih =>
    cases hs with
    | inl hx => exact .inl (ha x hx)
    | inr hx => exact .inr ⟨fun hb' => hx.1 (hb x hb'), ih hx.2⟩

theorem Since.exists {a b : σ × ε → Prop} (hs : Since a b h) : ∃ x ∈ h, a x := by
  induction h with
  | nil => exact hs.elim
  | cons x h ih =>
    cases hs with
    | inl hx => exact ⟨x, List.mem_cons_self, hx⟩
    | inr hx =>
      obtain ⟨y, hy, hay⟩ := ih hx.2
      exact ⟨y, List.mem_cons_of_mem _ hy, hay⟩

theorem Run.since {I bit : σ → Prop} {ok a b : σ × ε → Prop}
    (hI : ∀ e t, ok (t, e) → I t → I (step e t))
    (hbit : ∀ e t, ok (t, e) → I t → bit (step e t) → a (t, e) ∨ (bit t ∧ ¬b (t, e)))
    (hrun : Run step s h t) (hok : ∀ x ∈ h, ok x) (hs : I s) (hclear : ¬bit s) (ht : bit t) :
    Since a b h := by
  induction hrun with
  | refl => exact absurd ht hclear
  | next e hrun ih =>
    rw [List.forall_mem_cons] at hok
    cases hbit e _ hok.1 (hrun.invariant hI hok.2 hs) ht with
    | inl ha => exact .inl ha
    | inr hb => exact .inr ⟨hb.2, ih hok.2 hb.1⟩

end LonStack.Lib
