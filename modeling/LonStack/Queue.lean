import Mathlib.Logic.Function.Basic

universe u

namespace LonStack

/-- A ring of fixed-size slots. A dropped slot keeps its old contents until it is filled again. -/
structure Queue (α : Type u) where
  data : Nat → α
  queueCapacity : Nat
  queueEntries : Nat
  headIndex : Nat
  tailIndex : Nat
  entries_le : queueEntries ≤ queueCapacity
  head_le : headIndex ≤ queueCapacity - 1
  tail_eq : tailIndex = (headIndex + queueEntries) % queueCapacity

namespace Queue

variable {α : Type u}

def init (data : Nat → α) (queueCapacity : Nat) : Queue α where
  data := data
  queueCapacity := queueCapacity
  queueEntries := 0
  headIndex := 0
  tailIndex := 0
  entries_le := Nat.zero_le _
  head_le := Nat.zero_le _
  tail_eq := (Nat.zero_mod queueCapacity).symm

def filled (x : α) (queueCapacity queueEntries : Nat) (h : queueEntries ≤ queueCapacity) :
    Queue α where
  data _ := x
  queueCapacity := queueCapacity
  queueEntries := queueEntries
  headIndex := 0
  tailIndex := queueEntries % queueCapacity
  entries_le := h
  head_le := Nat.zero_le _
  tail_eq := congrArg (· % queueCapacity) (Nat.zero_add queueEntries).symm

def invalid (q : Queue α) : Bool :=
  q.queueCapacity == 0 || decide (q.queueCapacity < q.queueEntries)

def capacity (q : Queue α) : Nat :=
  if q.invalid then 0 else q.queueCapacity

def entries (q : Queue α) : Nat :=
  if q.invalid then 0 else q.queueEntries

def full (q : Queue α) : Bool :=
  if q.invalid then true else decide (q.queueCapacity ≤ q.queueEntries)

def empty (q : Queue α) : Bool :=
  if q.invalid then false else q.queueEntries == 0

def next (q : Queue α) (i : Nat) : Nat :=
  if i + 1 = q.queueCapacity then 0 else i + 1

theorem next_eq_mod (q : Queue α) {i : Nat} (h : i < q.queueCapacity) :
    q.next i = (i + 1) % q.queueCapacity := by
  unfold next
  split
  case isTrue heq => rw [heq, Nat.mod_self]
  case isFalse hne => rw [Nat.mod_eq_of_lt (by omega)]

theorem next_lt (q : Queue α) {i : Nat} (h : i < q.queueCapacity) :
    q.next i < q.queueCapacity := by
  rw [q.next_eq_mod h]
  exact Nat.mod_lt _ (by omega)

theorem head_lt (q : Queue α) (h : 0 < q.queueCapacity) : q.headIndex < q.queueCapacity := by
  have := q.head_le
  omega

theorem tail_lt (q : Queue α) (h : 0 < q.queueCapacity) : q.tailIndex < q.queueCapacity := by
  rw [q.tail_eq]
  exact Nat.mod_lt _ h

theorem capacity_pos (q : Queue α) (h : ¬q.invalid) : 0 < q.queueCapacity := by
  simp [invalid] at h
  omega

def dropHead (q : Queue α) : Queue α :=
  if hv : q.invalid then q
  else if he : q.queueEntries = 0 then q
  else
    { q with
      queueEntries := q.queueEntries - 1
      headIndex := q.next q.headIndex
      entries_le := by have := q.entries_le; omega
      head_le := by
        have := q.next_lt (q.head_lt (q.capacity_pos hv))
        omega
      tail_eq := by
        have hc := q.capacity_pos hv
        rw [q.tail_eq, q.next_eq_mod (q.head_lt hc), Nat.mod_add_mod]
        congr 1
        omega }

def flush (q : Queue α) : Queue α :=
  if q.invalid then q
  else
    { q with
      queueEntries := 0
      headIndex := 0
      tailIndex := 0
      entries_le := Nat.zero_le _
      head_le := Nat.zero_le _
      tail_eq := (Nat.zero_mod q.queueCapacity).symm }

/-- Moves the tail over the slot that was filled before the call. -/
def write (q : Queue α) : Queue α :=
  if hv : q.invalid then q
  else if hf : q.queueCapacity - 1 ≤ q.queueEntries then q
  else
    { q with
      queueEntries := q.queueEntries + 1
      tailIndex := q.next q.tailIndex
      entries_le := by omega
      tail_eq := by
        have hc := q.capacity_pos hv
        rw [q.next_eq_mod (q.tail_lt hc), q.tail_eq, Nat.mod_add_mod, Nat.add_assoc] }

def peek (q : Queue α) : Option α :=
  if q.invalid then none
  else if q.queueEntries = 0 then none
  else some (q.data q.headIndex)

/-- The slot at the tail, with whatever it still holds; `none` stands for a null pointer. -/
def tail (q : Queue α) : Option α :=
  if q.invalid then none
  else if q.queueEntries < q.queueCapacity then some (q.data q.tailIndex)
  else none

def fillTail (q : Queue α) (x : α) : Queue α :=
  if q.tail.isSome then { q with data := Function.update q.data q.tailIndex x } else q

def fillHead (q : Queue α) (x : α) : Queue α :=
  if q.peek.isSome then { q with data := Function.update q.data q.headIndex x } else q

/-- The idiom of every writer: fill the slot at the tail in place, then `write`. -/
def push (q : Queue α) (fill : α → α) : Queue α :=
  match q.tail with
  | none => q
  | some slot => (q.fillTail (fill slot)).write

def toList (q : Queue α) : List α :=
  (List.range q.queueEntries).map fun k => q.data ((q.headIndex + k) % q.queueCapacity)

end Queue

end LonStack
