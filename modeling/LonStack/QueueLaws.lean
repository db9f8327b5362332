import LonStack.Queue

universe u

namespace LonStack

namespace Queue

variable {α : Type u}

theorem invalid_iff (q : Queue α) : q.invalid = true ↔ q.queueCapacity = 0 := by
  have := q.entries_le
  simp [invalid]
  omega

@[simp]
theorem length_toList (q : Queue α) : q.toList.length = q.queueEntries := by
  simp [toList]

theorem getElem_toList (q : Queue α) (k : Nat) (h : k < q.toList.length) :
    q.toList[k] = q.data ((q.headIndex + k) % q.queueCapacity) := by
  simp [toList]

theorem toList_eq_nil_iff (q : Queue α) : q.toList = [] ↔ q.queueEntries = 0 := by
  rw [← List.length_eq_zero_iff, length_toList]

theorem full_iff (q : Queue α) : q.full = true ↔ q.queueEntries = q.queueCapacity := by
  have := q.entries_le
  unfold full
  split
  case isTrue h =>
    rw [invalid_iff] at h
    simp
    omega
  case isFalse h =>
    simp
    omega

theorem full_eq_false_iff (q : Queue α) : q.full = false ↔ q.queueEntries < q.queueCapacity := by
  have := q.entries_le
  rw [← Bool.not_eq_true, full_iff]
  omega

theorem empty_eq_false_of_pos (q : Queue α) (h : 0 < q.queueEntries) : q.empty = false := by
  have := q.entries_le
  unfold empty
  split
  case isTrue => rfl
  case isFalse => simp; omega

theorem pos_of_empty_eq_false (q : Queue α) (hc : 0 < q.queueCapacity) (h : q.empty = false) :
    0 < q.queueEntries := by
  unfold empty at h
  split at h
  case isTrue hi =>
    rw [invalid_iff] at hi
    omega
  case isFalse =>
    simp at h
    omega

theorem empty_iff (q : Queue α) (hc : 0 < q.queueCapacity) : q.empty = true ↔ q.toList = [] := by
  rw [toList_eq_nil_iff]
  constructor
  · intro h
    by_contra hne
    rw [q.empty_eq_false_of_pos (by omega)] at h
    exact absurd h (by decide)
  · intro h
    cases he : q.empty with
    | true => rfl
    | false =>
      have := q.pos_of_empty_eq_false hc he
      omega

@[simp]
theorem peek_eq_head? (q : Queue α) : q.peek = q.toList.head? := by
  have hle := q.entries_le
  unfold peek
  split
  case isTrue h =>
    rw [invalid_iff] at h
    have : q.toList = [] := by rw [toList_eq_nil_iff]; omega
    simp [this]
  case isFalse h =>
    rw [invalid_iff] at h
    split
    case isTrue he =>
      have : q.toList = [] := by rw [toList_eq_nil_iff]; exact he
      simp [this]
    case isFalse he =>
      have hlen : 0 < q.toList.length := by simp; omega
      rw [List.head?_eq_getElem?, List.getElem?_eq_getElem hlen, getElem_toList, Nat.add_zero,
        Nat.mod_eq_of_lt (q.head_lt (by omega))]

theorem tail_isSome_iff (q : Queue α) : q.tail.isSome ↔ q.queueEntries < q.queueCapacity := by
  have := q.entries_le
  unfold tail
  split
  case isTrue h =>
    rw [invalid_iff] at h
    simp
    omega
  case isFalse h =>
    split <;> simp <;> omega

theorem tail_eq_none_iff (q : Queue α) : q.tail = none ↔ q.full = true := by
  have := q.entries_le
  rw [← Option.not_isSome_iff_eq_none, tail_isSome_iff, full_iff]
  omega

@[simp]
theorem toList_init (data : Nat → α) (queueCapacity : Nat) :
    (init data queueCapacity).toList = [] := by
  rw [toList_eq_nil_iff]
  rfl

theorem toList_filled (x : α) {n k : Nat} (h : k ≤ n) :
    (filled x n k h).toList = List.replicate k x := by
  rw [toList, List.eq_replicate_iff]
  refine ⟨by rw [List.length_map, List.length_range]; rfl, fun y hy => ?_⟩
  obtain ⟨i, -, rfl⟩ := List.mem_map.mp hy
  rfl

@[simp]
theorem queueCapacity_dropHead (q : Queue α) : q.dropHead.queueCapacity = q.queueCapacity := by
  unfold dropHead
  split
  · rfl
  · split <;> rfl

@[simp]
theorem toList_dropHead (q : Queue α) : q.dropHead.toList = q.toList.tail := by
  have hle := q.entries_le
  unfold dropHead
  split
  case isTrue h =>
    rw [invalid_iff] at h
    have : q.toList = [] := by rw [toList_eq_nil_iff]; omega
    simp [this]
  case isFalse h =>
    rw [invalid_iff] at h
    split
    case isTrue he =>
      have : q.toList = [] := by rw [toList_eq_nil_iff]; exact he
      simp [this]
    case isFalse he =>
      apply List.ext_getElem
      · simp
      · intro k hk hk'
        simp only [length_toList] at hk
        rw [List.getElem_tail, getElem_toList, getElem_toList]
        dsimp only
        rw [q.next_eq_mod (q.head_lt (by omega)), Nat.mod_add_mod]
        congr 2
        omega

theorem mem_of_mem_dropHead {q : Queue α} {x : α} (h : x ∈ q.dropHead.toList) : x ∈ q.toList := by
  rw [toList_dropHead] at h
  exact List.mem_of_mem_tail h

@[simp]
theorem queueEntries_dropHead (q : Queue α) : q.dropHead.queueEntries = q.queueEntries - 1 := by
  rw [← length_toList, toList_dropHead, List.length_tail, length_toList]

@[simp]
theorem queueCapacity_write (q : Queue α) : q.write.queueCapacity = q.queueCapacity := by
  unfold write
  split
  · rfl
  · split <;> rfl

@[simp]
theorem data_write (q : Queue α) : q.write.data = q.data := by
  unfold write
  split
  · rfl
  · split <;> rfl

@[simp]
theorem headIndex_write (q : Queue α) : q.write.headIndex = q.headIndex := by
  unfold write
  split
  · rfl
  · split <;> rfl

/-- `write` refuses to use the last slot, although `full` still reports room for it. -/
theorem queueEntries_write (q : Queue α) :
    q.write.queueEntries =
      if q.queueEntries + 1 < q.queueCapacity then q.queueEntries + 1 else q.queueEntries := by
  have hle := q.entries_le
  unfold write
  split
  case isTrue h =>
    rw [invalid_iff] at h
    rw [if_neg (by omega)]
  case isFalse h =>
    rw [invalid_iff] at h
    split
    case isTrue hf => rw [if_neg (by omega)]
    case isFalse hf => rw [if_pos (by omega)]

@[simp]
theorem queueCapacity_fillTail (q : Queue α) (x : α) :
    (q.fillTail x).queueCapacity = q.queueCapacity := by
  unfold fillTail
  split <;> rfl

@[simp]
theorem queueEntries_fillTail (q : Queue α) (x : α) :
    (q.fillTail x).queueEntries = q.queueEntries := by
  unfold fillTail
  split <;> rfl

theorem mod_ne_mod {a b n : Nat} (hab : a < b) (hb : b < a + n) : a % n ≠ b % n := by
  intro h
  have hdiff := Nat.sub_mod_eq_zero_of_mod_eq h.symm
  rw [Nat.mod_eq_of_lt (by omega)] at hdiff
  omega

theorem index_ne_tailIndex (q : Queue α) {k : Nat} (hk : k < q.queueEntries)
    (hr : q.queueEntries < q.queueCapacity) :
    (q.headIndex + k) % q.queueCapacity ≠ q.tailIndex := by
  rw [q.tail_eq]
  exact mod_ne_mod (by omega) (by omega)

@[simp]
theorem toList_fillTail (q : Queue α) (x : α) : (q.fillTail x).toList = q.toList := by
  unfold fillTail
  split
  case isFalse => rfl
  case isTrue h =>
    rw [tail_isSome_iff] at h
    apply List.ext_getElem
    · simp
    · intro k hk hk'
      simp only [length_toList] at hk'
      rw [getElem_toList, getElem_toList]
      exact Function.update_of_ne (q.index_ne_tailIndex hk' h) _ _

theorem toList_write_fillTail (q : Queue α) (x : α) :
    (q.fillTail x).write.toList =
      if q.queueEntries + 1 < q.queueCapacity then q.toList ++ [x] else q.toList := by
  split
  case isFalse h =>
    have hw : (q.fillTail x).write = q.fillTail x := by
      unfold write
      split
      case isTrue => rfl
      case isFalse => rw [dif_pos]; simp; omega
    rw [hw, toList_fillTail]
  case isTrue h =>
    have hroom : q.tail.isSome := by rw [tail_isSome_iff]; omega
    have hfill : q.fillTail x = { q with data := Function.update q.data q.tailIndex x } := by
      unfold fillTail
      rw [if_pos hroom]
    have hent : (q.fillTail x).write.queueEntries = q.queueEntries + 1 := by
      rw [queueEntries_write, queueEntries_fillTail, queueCapacity_fillTail, if_pos h]
    have hdata : (q.fillTail x).write.data = Function.update q.data q.tailIndex x := by
      rw [data_write, hfill]
    have hhead : (q.fillTail x).write.headIndex = q.headIndex := by
      rw [headIndex_write, hfill]
    apply List.ext_getElem
    · simp [hent]
    · intro k hk hk'
      rw [length_toList, hent] at hk
      rw [getElem_toList, hdata, hhead, queueCapacity_write, queueCapacity_fillTail]
      by_cases hlast : k = q.queueEntries
      · subst hlast
        rw [← q.tail_eq, Function.update_self, List.getElem_append_right (by simp)]
        simp
      · rw [Function.update_of_ne (q.index_ne_tailIndex (by omega) (by omega)),
          List.getElem_append_left (by simp; omega), getElem_toList]

def tailSlot (q : Queue α) : α := q.data q.tailIndex

theorem tail_eq_some (q : Queue α) (h : q.full = false) : q.tail = some q.tailSlot := by
  rw [full_eq_false_iff] at h
  unfold tail
  rw [if_neg (by rw [invalid_iff]; omega), if_pos h]
  rfl

theorem push_eq (q : Queue α) (fill : α → α) (h : q.full = false) :
    q.push fill = (q.fillTail (fill q.tailSlot)).write := by
  unfold push
  rw [q.tail_eq_some h]

@[simp]
theorem queueCapacity_push (q : Queue α) (fill : α → α) :
    (q.push fill).queueCapacity = q.queueCapacity := by
  unfold push
  split <;> simp

theorem toList_push (q : Queue α) (fill : α → α) :
    (q.push fill).toList =
      if q.queueEntries + 1 < q.queueCapacity then q.toList ++ [fill q.tailSlot] else q.toList := by
  cases h : q.full with
  | true =>
    rw [full_iff] at h
    have : q.tail = none := by rw [tail_eq_none_iff, full_iff, h]
    rw [if_neg (by omega), push, this]
  | false => rw [q.push_eq fill h, toList_write_fillTail]

def nextSlot (q : Queue α) : α := q.data (q.next q.tailIndex)

theorem tailSlot_push (q : Queue α) (fill : α → α) (h : q.queueEntries + 1 < q.queueCapacity) :
    (q.push fill).tailSlot = q.nextSlot := by
  have hlt := q.tail_lt (by omega)
  have hne : q.next q.tailIndex ≠ q.tailIndex := by
    unfold next
    split <;> omega
  have hroom : q.tail.isSome := by rw [tail_isSome_iff]; omega
  rw [q.push_eq fill (by rw [full_eq_false_iff]; omega), tailSlot, data_write, write,
    dif_neg (by rw [invalid_iff, queueCapacity_fillTail]; omega),
    dif_neg (by rw [queueCapacity_fillTail, queueEntries_fillTail]; omega)]
  simp only [fillTail, if_pos hroom]
  exact Function.update_of_ne hne ..

theorem queueEntries_push (q : Queue α) (fill : α → α) :
    (q.push fill).queueEntries =
      if q.queueEntries + 1 < q.queueCapacity then q.queueEntries + 1 else q.queueEntries := by
  rw [← length_toList, toList_push]
  split <;> simp

/-- A queue that only `push` fills never becomes full, so its writers are never told to wait. -/
theorem full_push (q : Queue α) (fill : α → α) (h : q.full = false) : (q.push fill).full = false := by
  rw [full_eq_false_iff] at h ⊢
  rw [queueEntries_push, queueCapacity_push]
  split <;> omega

@[simp]
theorem queueCapacity_fillHead (q : Queue α) (x : α) :
    (q.fillHead x).queueCapacity = q.queueCapacity := by
  unfold fillHead
  split <;> rfl

@[simp]
theorem queueEntries_fillHead (q : Queue α) (x : α) :
    (q.fillHead x).queueEntries = q.queueEntries := by
  unfold fillHead
  split <;> rfl

@[simp]
theorem toList_fillHead (q : Queue α) (x : α) : (q.fillHead x).toList = q.toList.modifyHead fun _ => x := by
  have hpeek := q.peek_eq_head?
  unfold fillHead
  split
  case isFalse h =>
    rw [hpeek] at h
    simp at h
    simp [h]
  case isTrue h =>
    rw [hpeek] at h
    have hpos : 0 < q.queueEntries := by
      rw [← length_toList]
      cases hl : q.toList with
      | nil => simp [hl] at h
      | cons => simp
    have hle := q.entries_le
    have hh := q.head_lt (by omega)
    apply List.ext_getElem
    · simp
    · intro k hk hk'
      simp only [length_toList] at hk
      rw [getElem_toList]
      dsimp only
      cases k with
      | zero =>
        rw [Nat.add_zero, Nat.mod_eq_of_lt hh, Function.update_self]
        simp [List.getElem_modifyHead]
      | succ k =>
        have hne : (q.headIndex + (k + 1)) % q.queueCapacity ≠ q.headIndex := by
          have h' : q.headIndex % q.queueCapacity ≠ (q.headIndex + (k + 1)) % q.queueCapacity :=
            mod_ne_mod (by omega) (by omega)
          rw [Nat.mod_eq_of_lt hh] at h'
          exact h'.symm
        rw [Function.update_of_ne hne, List.getElem_modifyHead, dif_neg (by omega), getElem_toList]

end Queue

end LonStack
