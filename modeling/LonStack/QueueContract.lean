import LonStack.Lib.Run
import LonStack.QueueLaws

universe u

namespace LonStack

open Lib

variable {α : Type u} {n : Nat} {q : Queue α} {x : α}

inductive QueueOp (α : Type u)
  | put : α → QueueOp α
  | dropHead
  | flush

namespace QueueOp

def apply : QueueOp α → Queue α → Queue α
  | .put x, q => if q.full then q else (q.fillTail x).write
  | .dropHead, q => q.dropHead
  | .flush, q => q.flush

def spec (n : Nat) : QueueOp α → List α → List α
  | .put x, l => if l.length < n then l ++ [x] else l
  | .dropHead, l => l.tail
  | .flush, _ => []

def putsLast : Queue α × QueueOp α → Prop
  | (q, .put _) => q.queueEntries + 1 = q.queueCapacity
  | _ => False

end QueueOp

abbrev QueueHistory (α : Type u) := List (Queue α × QueueOp α)

def QueueHistory.contents (n : Nat) : QueueHistory α → List α
  | [] => []
  | x :: h => x.2.spec n (contents n h)

structure Queue.Shows (n : Nat) (l : List α) (q : Queue α) : Prop where
  toList : q.toList = l
  peek : q.peek = l.head?
  length_le : l.length ≤ n
  head_lt : q.headIndex < n
  tail_lt : q.tailIndex < n
  head_eq : q.headIndex = (q.tailIndex + n - q.queueEntries) % n

namespace Queue

@[simp]
theorem queueCapacity_flush (q : Queue α) : q.flush.queueCapacity = q.queueCapacity := by
  unfold flush
  split <;> rfl

theorem toList_flush (q : Queue α) (hq : 0 < q.queueCapacity) : q.flush.toList = [] := by
  have hv : ¬q.invalid = true := by
    rw [invalid_iff]
    exact Nat.ne_of_gt hq
  rw [toList_eq_nil_iff, flush, if_neg hv]

theorem shows_toList (hq : q.queueCapacity = n) (hn : 1 ≤ n) : Shows n q.toList q where
  toList := rfl
  peek := q.peek_eq_head?
  length_le := by
    rw [length_toList, ← hq]
    exact q.entries_le
  head_lt := hq ▸ q.head_lt (by rw [hq]; exact hn)
  tail_lt := hq ▸ q.tail_lt (by rw [hq]; exact hn)
  head_eq := by
    have hhead := q.head_lt (by rw [hq]; exact hn)
    have hle := q.entries_le
    rw [q.tail_eq, hq]
    rw [hq] at hhead hle
    rcases Nat.lt_or_ge (q.headIndex + q.queueEntries) n with hlt | hge
    · rw [Nat.mod_eq_of_lt hlt]
      have heq : q.headIndex + q.queueEntries + n - q.queueEntries = q.headIndex + n := by omega
      rw [heq, Nat.add_mod_right, Nat.mod_eq_of_lt hhead]
    · have hmod : (q.headIndex + q.queueEntries) % n = q.headIndex + q.queueEntries - n := by
        rw [Nat.mod_eq_sub_mod hge, Nat.mod_eq_of_lt (by omega)]
      have heq : q.headIndex + q.queueEntries - n + n - q.queueEntries = q.headIndex := by omega
      rw [hmod, heq, Nat.mod_eq_of_lt hhead]

end Queue

namespace QueueOp

theorem queueCapacity_apply (op : QueueOp α) (q : Queue α) :
    (op.apply q).queueCapacity = q.queueCapacity := by
  cases op with
  | put x =>
    simp only [apply]
    split
    · rfl
    · rw [Queue.queueCapacity_write, Queue.queueCapacity_fillTail]
  | dropHead => exact q.queueCapacity_dropHead
  | flush => exact q.queueCapacity_flush

theorem toList_apply_iff (hq : q.queueCapacity = n) (hn : 1 ≤ n) (op : QueueOp α) :
    (op.apply q).toList = op.spec n q.toList ↔ ¬putsLast (q, op) := by
  cases op with
  | put x =>
    have hle := q.entries_le
    simp only [apply, spec, putsLast, Queue.length_toList, Queue.full_iff]
    rw [hq] at hle ⊢
    rcases Nat.lt_or_ge (q.queueEntries + 1) n with hlt | hge
    · rw [if_neg (by omega), if_pos (by omega), Queue.toList_write_fillTail, if_pos (by omega)]
      simp only [true_iff]
      omega
    · rcases Nat.lt_or_ge q.queueEntries n with hlt | hfull
      · rw [if_neg (by omega), if_pos hlt, Queue.toList_write_fillTail, if_neg (by omega)]
        have hlast : q.queueEntries + 1 = n := by omega
        simp [hlast]
      · rw [if_pos (by omega), if_neg (by omega)]
        simp only [true_iff]
        omega
  | dropHead => simp [apply, spec, putsLast, Queue.toList_dropHead]
  | flush => simp [apply, spec, putsLast, Queue.toList_flush q (by omega)]

end QueueOp

/-- A queue is the list it stands for exactly as long as nobody fills its last free slot: `full`
says that this slot may be used, but `write` refuses it. -/
theorem queue_shows_contents_iff {h : QueueHistory α} (data : Nat → α) (hn : 1 ≤ n)
    (hrun : Run QueueOp.apply (Queue.init data n) h q) :
    Always (fun h q => q.Shows n (QueueHistory.contents n h)) h q ↔
      ∀ x ∈ h, ¬QueueOp.putsLast x := by
  have hcap {h : QueueHistory α} {q : Queue α}
      (hrun : Run QueueOp.apply (Queue.init data n) h q) : q.queueCapacity = n := by
    induction hrun with
    | refl => rfl
    | next op hrun ih => rw [QueueOp.queueCapacity_apply, ih]
  induction hrun with
  | refl =>
    refine iff_of_true ?_ (by simp)
    have hshows := Queue.shows_toList (q := Queue.init data n) rfl hn
    rwa [Queue.toList_init] at hshows
  | @next h q op hrun ih =>
    rw [List.forall_mem_cons, ← QueueOp.toList_apply_iff (hcap hrun) hn]
    have hcap' := hcap (.next op hrun)
    constructor
    · rintro ⟨hshows, hall⟩
      have hq := (Always.head h q hall).toList
      refine ⟨?_, ih.1 hall⟩
      rw [hshows.toList, hq]
      rfl
    · rintro ⟨hop, hnot⟩
      have hall := ih.2 hnot
      have hq := (Always.head h q hall).toList
      refine ⟨?_, hall⟩
      have hcontents : QueueHistory.contents n ((q, op) :: h) = (op.apply q).toList := by
        rw [hop, hq]
        rfl
      dsimp only
      rw [hcontents]
      exact Queue.shows_toList hcap' hn

theorem queue_shows_contents_iff_two :
    Always (fun h q => q.Shows 2 (QueueHistory.contents 2 h))
        [(Queue.init (fun _ => 0) 2, .put 7)]
        (QueueOp.apply (.put 7) (Queue.init (fun _ => 0) 2)) ↔
      ∀ x ∈ [(Queue.init (fun _ => 0) 2, QueueOp.put 7)], ¬QueueOp.putsLast x :=
  queue_shows_contents_iff (fun _ => 0) (by decide) (.single _ _)

theorem not_queue_shows_contents :
    ¬∀ (n : Nat) (data : Nat → Nat) (h : QueueHistory Nat) (q : Queue Nat), 1 ≤ n →
      Run QueueOp.apply (Queue.init data n) h q → q.Shows n (QueueHistory.contents n h) := by
  intro hall
  have hshows := hall 1 (fun _ => 0) _ _ (by decide) (.single (.put 7) _)
  have hlist := hshows.toList
  revert hlist
  decide

end LonStack
