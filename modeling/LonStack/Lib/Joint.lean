import LonStack.Lib.Prog
import Mathlib.Logic.Function.Basic

universe u v w

namespace LonStack.Lib

variable {σ : Type u} {κ : Type v} {ε : Type w} {apply : κ → σ → σ} {prog : ε → Prog σ κ Unit}
  {allowed : Bool → List (σ × κ) → κ → Prop} {s t : Bool → σ} {h : Bool → List (σ × κ)}

/-- Two systems that run side by side, one event after the other. What the one may do depends on
what the other has done so far: a network that loses, delays, doubles and reorders messages allows
to receive what the other has sent at any time. -/
inductive Joint (apply : κ → σ → σ) (prog : ε → Prog σ κ Unit)
    (allowed : Bool → List (σ × κ) → κ → Prop) (s : Bool → σ) :
    (Bool → List (σ × κ)) → (Bool → σ) → Prop
  | refl : Joint apply prog allowed s (fun _ => []) s
  | next {h : Bool → List (σ × κ)} {t : Bool → σ} (side : Bool) (e : ε) :
      Joint apply prog allowed s h t →
      (∀ x ∈ (prog e).log apply (t side), allowed side (h !side) x.2) →
      Joint apply prog allowed s
        (Function.update h side ((prog e).log apply (t side) ++ h side))
        (Function.update t side ((prog e).state apply (t side)))

namespace Joint

theorem trace (hjoint : Joint apply prog allowed s h t) (side : Bool) :
    Trace apply prog (s side) (h side) (t side) := by
  induction hjoint with
  | refl => exact .refl
  | next side' e _ _ ih =>
    by_cases hside : side = side'
    · subst hside
      simp only [Function.update_self]
      exact .next e ih
    · simp only [Function.update_of_ne hside]
      exact ih

theorem all_allowed (hjoint : Joint apply prog allowed s h t)
    (hmono : ∀ side h h' c, (∀ x ∈ h, x ∈ h') → allowed side h c → allowed side h' c) (side : Bool) :
    ∀ x ∈ h side, allowed side (h !side) x.2 := by
  induction hjoint with
  | refl => simp
  | @next h t side' e _ hallowed ih =>
    have hgrows (side : Bool) : ∀ x ∈ h side,
        x ∈ Function.update h side' ((prog e).log apply (t side') ++ h side') side := by
      intro x hx
      by_cases hside : side = side'
      · subst hside
        rw [Function.update_self]
        exact List.mem_append_right _ hx
      · rwa [Function.update_of_ne hside]
    intro x hx
    refine hmono side _ _ _ (hgrows _) ?_
    by_cases hside : side = side'
    · subst hside
      rw [Function.update_self] at hx
      exact (List.mem_append.mp hx).elim (hallowed x) (ih x)
    · rw [Function.update_of_ne hside] at hx
      exact ih x hx

end Joint

end LonStack.Lib
