import Mathlib.Data.List.Basic

universe u v w

namespace LonStack.Lib

variable {α : Type u} [DecidableEq α]

def stuff (sync : α) : List α → List α
  | [] => []
  | b :: bs => if b = sync then b :: b :: stuff sync bs else b :: stuff sync bs

@[simp] theorem stuff_nil (sync : α) : stuff sync [] = [] := rfl

theorem stuff_cons_sync (sync : α) (bs : List α) :
    stuff sync (sync :: bs) = sync :: sync :: stuff sync bs :=
  if_pos rfl

theorem stuff_cons_of_ne {sync b : α} (h : b ≠ sync) (bs : List α) :
    stuff sync (b :: bs) = b :: stuff sync bs :=
  if_neg h

theorem stuff_append (sync : α) (bs cs : List α) :
    stuff sync (bs ++ cs) = stuff sync bs ++ stuff sync cs := by
  induction bs with
  | nil => rfl
  | cons b bs ih =>
    rw [List.cons_append]
    by_cases hb : b = sync
    case pos => rw [hb, stuff_cons_sync, stuff_cons_sync, ih, List.cons_append, List.cons_append]
    case neg => rw [stuff_cons_of_ne hb, stuff_cons_of_ne hb, ih, List.cons_append]

theorem stuff_of_not_mem {sync : α} {bs : List α} (h : sync ∉ stuff sync bs) : stuff sync bs = bs := by
  induction bs with
  | nil => rfl
  | cons b bs ih =>
    by_cases hb : b = sync
    case pos =>
      rw [hb, stuff_cons_sync] at h
      exact absurd List.mem_cons_self h
    case neg =>
      rw [stuff_cons_of_ne hb] at h ⊢
      rw [ih fun hin => h (List.mem_cons_of_mem b hin)]

section Reader

variable {σ : Type v} {β : Type w} (byte : β → α) (step : σ → β → σ) (read : σ → α → σ)

/-- A receiver that sees a stuffed stream byte by byte gets where `read` gets on the plain bytes. It
has to do so for a plain byte and for a doubled `sync`, in the states `Open` passed on the way and
for arrivals `ok`. -/
theorem foldl_stuff (sync : α) (Open : σ → Prop) (ok : β → Prop)
    (hplain : ∀ s x, Open s → ok x → byte x ≠ sync → step s x = read s (byte x))
    (hpair : ∀ s x y, Open s → ok x → ok y → byte x = sync → byte y = sync →
      step (step s x) y = read s sync)
    (bs : List α) (s : σ) (xs : List β) (hxs : xs.map byte = stuff sync bs) (hok : ∀ x ∈ xs, ok x)
    (hopen : ∀ p b q, bs = p ++ b :: q → Open (p.foldl read s)) :
    xs.foldl step s = bs.foldl read s := by
  induction bs generalizing s xs with
  | nil =>
    rw [List.map_eq_nil_iff.mp hxs]
    rfl
  | cons b bs ih =>
    have hs : Open s := hopen [] b bs rfl
    have hrest : ∀ p c q, bs = p ++ c :: q → Open (p.foldl read (read s b)) := fun p c q hbs =>
      hopen (b :: p) c q (by rw [hbs, List.cons_append])
    by_cases hb : b = sync
    case pos =>
      subst hb
      rw [stuff_cons_sync] at hxs
      obtain ⟨x, xs, rfl, hx, hxs⟩ := List.map_eq_cons_iff.mp hxs
      obtain ⟨y, xs, rfl, hy, hxs⟩ := List.map_eq_cons_iff.mp hxs
      rw [List.forall_mem_cons, List.forall_mem_cons] at hok
      rw [List.foldl_cons, List.foldl_cons, List.foldl_cons,
        hpair s x y hs hok.1 hok.2.1 hx hy]
      exact ih _ xs hxs hok.2.2 hrest
    case neg =>
      rw [stuff_cons_of_ne hb] at hxs
      obtain ⟨x, xs, rfl, hx, hxs⟩ := List.map_eq_cons_iff.mp hxs
      rw [List.forall_mem_cons] at hok
      rw [List.foldl_cons, List.foldl_cons, hplain s x hs hok.1 (by rw [hx]; exact hb), hx]
      exact ih _ xs hxs hok.2 hrest

end Reader

end LonStack.Lib
