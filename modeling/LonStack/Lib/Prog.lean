import LonStack.Lib.Run

universe u v w

namespace LonStack.Lib

/-- A program that looks at a state of type `σ` and changes it by calls of type `κ` only. -/
inductive Prog (σ : Type u) (κ : Type v) (α : Type)
  | pure : α → Prog σ κ α
  | call : κ → Prog σ κ α → Prog σ κ α
  | read : (σ → Prog σ κ α) → Prog σ κ α

namespace Prog

variable {σ : Type u} {κ : Type v} {α β : Type}

def bind : Prog σ κ α → (α → Prog σ κ β) → Prog σ κ β
  | .pure a, f => f a
  | .call c m, f => .call c (m.bind f)
  | .read k, f => .read fun s => (k s).bind f

instance : Monad (Prog σ κ) where
  pure := Prog.pure
  bind := Prog.bind

def perform (c : κ) : Prog σ κ Unit := .call c (.pure ())

@[simp]
theorem monadBind_eq (m : Prog σ κ α) (f : α → Prog σ κ β) : m >>= f = m.bind f := rfl

@[simp]
theorem monadPure_eq (a : α) : (Pure.pure a : Prog σ κ α) = .pure a := rfl

section

variable (apply : κ → σ → σ)

def state : Prog σ κ α → σ → σ
  | .pure _, s => s
  | .call c m, s => m.state (apply c s)
  | .read k, s => (k s).state s

def log : Prog σ κ α → σ → List (σ × κ)
  | .pure _, _ => []
  | .call c m, s => m.log (apply c s) ++ [(s, c)]
  | .read k, s => (k s).log s

/-- Started in state `s` after the calls `h`, the program makes every call as `G` demands and ends
as `Q` demands. Both see the calls that were made before. -/
def wp (G : List (σ × κ) → σ → κ → Prop) :
    Prog σ κ α → (α → List (σ × κ) → σ → Prop) → List (σ × κ) → σ → Prop
  | .pure a, Q, h, s => Q a h s
  | .call c m, Q, h, s => G h s c ∧ m.wp G Q ((s, c) :: h) (apply c s)
  | .read k, Q, h, s => (k s).wp G Q h s

end

section

variable {apply : κ → σ → σ} {G G' : List (σ × κ) → σ → κ → Prop}
  {Q Q' : α → List (σ × κ) → σ → Prop} {h : List (σ × κ)} {s : σ}

@[simp]
theorem wp_pure (a : α) : (Prog.pure a).wp apply G Q h s ↔ Q a h s := Iff.rfl

@[simp]
theorem wp_read (k : σ → Prog σ κ α) : (Prog.read k).wp apply G Q h s ↔ (k s).wp apply G Q h s :=
  Iff.rfl

@[simp]
theorem wp_perform (c : κ) {Q : Unit → List (σ × κ) → σ → Prop} :
    (perform c).wp apply G Q h s ↔ G h s c ∧ Q () ((s, c) :: h) (apply c s) := Iff.rfl

@[simp]
theorem wp_bind (m : Prog σ κ α) (f : α → Prog σ κ β) {Q : β → List (σ × κ) → σ → Prop} :
    (m.bind f).wp apply G Q h s ↔ m.wp apply G (fun a => (f a).wp apply G Q) h s := by
  induction m generalizing h s with
  | pure a => rfl
  | call c m ih => exact and_congr_right fun _ => ih
  | read k ih => exact ih s

theorem wp.mono {m : Prog σ κ α} (hm : m.wp apply G Q h s)
    (hG : ∀ h s c, G h s c → G' h s c) (hQ : ∀ a h s, Q a h s → Q' a h s) :
    m.wp apply G' Q' h s := by
  induction m generalizing h s with
  | pure a => exact hQ a h s hm
  | call c m ih => exact ⟨hG h s c hm.1, ih hm.2⟩
  | read k ih => exact ih s hm

theorem wp_true (m : Prog σ κ α) :
    m.wp apply (fun _ _ _ => True) (fun _ _ _ => True) h s := by
  induction m generalizing h s with
  | pure a => trivial
  | call c m ih => exact ⟨trivial, ih⟩
  | read k ih => exact ih s

theorem wp.and {m : Prog σ κ α} (hm : m.wp apply G Q h s) (hm' : m.wp apply G' Q' h s) :
    m.wp apply (fun h s c => G h s c ∧ G' h s c) (fun a h s => Q a h s ∧ Q' a h s) h s := by
  induction m generalizing h s with
  | pure a => exact ⟨hm, hm'⟩
  | call c m ih => exact ⟨⟨hm.1, hm'.1⟩, ih hm.2 hm'.2⟩
  | read k ih => exact ih s hm hm'

theorem wp.invariant {I : List (σ × κ) → σ → Prop} {m : Prog σ κ α} (hm : m.wp apply G Q h s)
    (hI : ∀ h s c, G h s c → I h s → I ((s, c) :: h) (apply c s)) (hs : I h s) :
    m.wp apply (fun h s c => G h s c ∧ I h s) (fun a h s => Q a h s ∧ I h s) h s := by
  induction m generalizing h s with
  | pure a => exact ⟨hm, hs⟩
  | call c m ih => exact ⟨⟨hm.1, hs⟩, ih hm.2 (hI h s c hm.1 hs)⟩
  | read k ih => exact ih s hm hs

end

end Prog

namespace Prog

variable {σ : Type u} {κ : Type v} {α β : Type} {P : κ → Prop}

def Only (P : κ → Prop) : Prog σ κ α → Prop
  | .pure _ => True
  | .call c m => P c ∧ m.Only P
  | .read k => ∀ s, (k s).Only P

theorem Only.bind {m : Prog σ κ α} {f : α → Prog σ κ β} (hm : m.Only P)
    (hf : ∀ a, (f a).Only P) : (m.bind f).Only P := by
  induction m with
  | pure a => exact hf a
  | call c m ih => exact ⟨hm.1, ih hm.2⟩
  | read k ih => exact fun s => ih s (hm s)

theorem Only.mono {P' : κ → Prop} {m : Prog σ κ α} (hm : m.Only P) (hP : ∀ c, P c → P' c) :
    m.Only P' := by
  induction m with
  | pure a => trivial
  | call c m ih => exact ⟨hP c hm.1, ih hm.2⟩
  | read k ih => exact fun s => ih s (hm s)

theorem Only.wp {apply : κ → σ → σ} {G : List (σ × κ) → σ → κ → Prop}
    {Q : α → List (σ × κ) → σ → Prop} {h : List (σ × κ)} {s : σ} {m : Prog σ κ α}
    (hm : m.Only P) (hwp : m.wp apply G Q h s) :
    m.wp apply (fun h s c => G h s c ∧ P c) Q h s := by
  induction m generalizing h s with
  | pure a => exact hwp
  | call c m ih => exact ⟨⟨hwp.1, hm.1⟩, ih hm.2 hwp.2⟩
  | read k ih => exact ih s (hm s) hwp

end Prog

def EachCall {σ : Type u} {κ : Type v} (G : List (σ × κ) → σ → κ → Prop) : List (σ × κ) → Prop
  | [] => True
  | x :: h => G h x.1 x.2 ∧ EachCall G h

section

variable {σ : Type u} {κ : Type v} {G G' : List (σ × κ) → σ → κ → Prop} {h h' : List (σ × κ)}

theorem EachCall.mono (hh : EachCall G h) (hG : ∀ h s c, G h s c → G' h s c) : EachCall G' h := by
  induction h with
  | nil => trivial
  | cons x h ih => exact ⟨hG h x.1 x.2 hh.1, ih hh.2⟩

theorem EachCall.split (hh : EachCall G h) {h₁ h₂ : List (σ × κ)} {s : σ} {c : κ}
    (heq : h = h₂ ++ (s, c) :: h₁) : G h₁ s c := by
  subst heq
  induction h₂ with
  | nil => exact hh.1
  | cons x h₂ ih => exact ih hh.2

theorem EachCall.of_mem (hh : EachCall G h) {x : σ × κ} (hx : x ∈ h) :
    ∃ h₁, (∀ y ∈ h₁, y ∈ h) ∧ G h₁ x.1 x.2 := by
  obtain ⟨h₂, h₁, rfl⟩ := List.append_of_mem hx
  exact ⟨h₁, fun y hy => List.mem_append_right _ (List.mem_cons_of_mem _ hy), hh.split rfl⟩

theorem EachCall.forall_mem {P : σ × κ → Prop} (hh : EachCall (fun _ s c => P (s, c)) h) :
    ∀ x ∈ h, P x := by
  induction h with
  | nil => simp
  | cons x h ih => exact List.forall_mem_cons.2 ⟨hh.1, ih hh.2⟩

theorem EachCall.and_mem {P : σ × κ → Prop} (hh : EachCall G h) (hP : ∀ x ∈ h, P x) :
    EachCall (fun h s c => G h s c ∧ P (s, c)) h := by
  induction h with
  | nil => trivial
  | cons x h ih =>
    rw [List.forall_mem_cons] at hP
    exact ⟨⟨hh.1, hP.1⟩, ih hh.2 hP.2⟩

theorem EachCall.of_forall {P : σ × κ → Prop} {I : List (σ × κ) → σ → Prop}
    (hh : EachCall (fun h s c => G h s c ∧ ((∀ x ∈ h, P x) → I h s)) h) (hP : ∀ x ∈ h, P x) :
    EachCall (fun h s c => G h s c ∧ I h s) h := by
  induction h with
  | nil => trivial
  | cons x h ih =>
    have hbefore : ∀ y ∈ h, P y := fun y hy => hP y (List.mem_cons_of_mem x hy)
    exact ⟨⟨hh.1.1, hh.1.2 hbefore⟩, ih hh.2 hbefore⟩

variable {apply : κ → σ → σ} {α : Type} {s : σ}

theorem Prog.wp.log {m : Prog σ κ α} {Q : α → List (σ × κ) → σ → Prop}
    (hm : m.wp apply G Q h s) (hh : EachCall G h) :
    EachCall G (m.log apply s ++ h) ∧ ∃ a, Q a (m.log apply s ++ h) (m.state apply s) := by
  induction m generalizing h s with
  | pure a => exact ⟨hh, a, hm⟩
  | call c m ih =>
    rw [Prog.log, List.append_assoc]
    exact ih hm.2 ⟨hm.1, hh⟩
  | read k ih => exact ih s hm hh

end

inductive Trace {σ : Type u} {κ : Type v} {ε : Type w} (apply : κ → σ → σ)
    (prog : ε → Prog σ κ Unit) (s : σ) : List (σ × κ) → σ → Prop
  | refl : Trace apply prog s [] s
  | next {h : List (σ × κ)} {t : σ} (e : ε) :
      Trace apply prog s h t →
        Trace apply prog s ((prog e).log apply t ++ h) ((prog e).state apply t)

namespace Trace

variable {σ : Type u} {κ : Type v} {ε : Type w} {apply : κ → σ → σ}
  {prog : ε → Prog σ κ Unit} {s t : σ} {h : List (σ × κ)} {G : List (σ × κ) → σ → κ → Prop}
  {I : List (σ × κ) → σ → Prop}

theorem invariant (htr : Trace apply prog s h t) (hs : I [] s)
    (hI : ∀ e h t, I h t → (prog e).wp apply G (fun _ => I) h t) : I h t ∧ EachCall G h := by
  induction htr with
  | refl => exact ⟨hs, trivial⟩
  | next e _ ih =>
    obtain ⟨hlog, _, hI'⟩ := (hI e _ _ ih.1).log ih.2
    exact ⟨hI', hlog⟩

theorem invariant_calls (htr : Trace apply prog s h t) (hs : I [] s)
    (hG : ∀ e h t, (prog e).wp apply G (fun _ _ _ => True) h t)
    (hI : ∀ h t c, G h t c → I h t → I ((t, c) :: h) (apply c t)) :
    I h t ∧ EachCall (fun h t c => G h t c ∧ I h t) h :=
  htr.invariant hs fun e h t ht =>
    ((hG e h t).invariant hI ht).mono (fun _ _ _ h => h) fun _ _ _ h => h.2

theorem invariant_calls_while {P : σ × κ → Prop} (htr : Trace apply prog s h t) (hs : I [] s)
    (hG : ∀ e h t, (prog e).wp apply G (fun _ _ _ => True) h t)
    (hI : ∀ h t c, G h t c → P (t, c) → I h t → I ((t, c) :: h) (apply c t)) :
    ((∀ x ∈ h, P x) → I h t) ∧
      EachCall (fun h t c => G h t c ∧ ((∀ x ∈ h, P x) → I h t)) h :=
  htr.invariant_calls (I := fun h t => (∀ x ∈ h, P x) → I h t) (fun _ => hs) hG
    fun h t c hg ih hP => hI h t c hg (hP (t, c) (List.mem_cons_self ..))
      (ih fun x hx => hP x (List.mem_cons_of_mem _ hx))

end Trace

end LonStack.Lib
