import LonStack.Lib.Loop
import LonStack.Lib.Region
import LonStack.Lib.Run

namespace LonStack

open Lib

abbrev RING_BUFFER_MAX_CAPACITY : Nat := 2048

structure RingBuffer where
  size : Nat
  head : Nat
  tail : Nat
  count : Nat
  data : Image

namespace RingBuffer

def init (rb : RingBuffer) (capacity : Nat) : Option RingBuffer :=
  if capacity = 0 then none
  else if RING_BUFFER_MAX_CAPACITY < capacity then none
  else some { rb with size := capacity, head := 0, tail := 0, count := 0 }

section

variable (rb : RingBuffer)

def avail : Nat := rb.size - rb.count

def clear : RingBuffer := { rb with head := 0, tail := 0, count := 0 }

def writeChunk (src : List UInt8) (toWrite : Nat) (s : RingBuffer × Nat) : RingBuffer × Nat :=
  let (rb, written) := s
  let spaceEnd := rb.size - rb.head
  let chunk := if spaceEnd < toWrite - written then spaceEnd else toWrite - written
  ({ rb with
      data := rb.data.write rb.head ((src.drop written).take chunk)
      head := (rb.head + chunk) % rb.size
      count := rb.count + chunk },
    written + chunk)

/-- The source may be a null pointer. The outer `none` stands for a loop that does not end: an iteration
that copies nothing would be repeated for ever. -/
def write : Option (List UInt8) → Option (Nat × RingBuffer)
  | none => some (0, rb)
  | some src =>
    if src.length = 0 then some (0, rb)
    else
      let space := rb.avail
      let toWrite := if space < src.length then space else src.length
      (loop (fun s => s.2 < toWrite) (writeChunk src toWrite) (toWrite + 1) (rb, 0)).map fun s =>
        (s.2, s.1)

def peekChunk (toRead : Nat) (s : Nat × List UInt8) : Nat × List UInt8 :=
  let (tail, copied) := s
  let availEnd := rb.size - tail
  let chunk :=
    if availEnd < toRead - copied.length then availEnd else toRead - copied.length
  ((tail + chunk) % rb.size, copied ++ rb.data.slice tail chunk)

def peek (dst : Bool) (len : Nat) : Option (List UInt8) :=
  if dst = false ∨ len = 0 then some []
  else
    let toRead := if rb.count < len then rb.count else len
    (loop (fun s => s.2.length < toRead) (rb.peekChunk toRead) (toRead + 1) (rb.tail, [])).map (·.2)

def read (dst : Bool) (len : Nat) : Option (List UInt8 × RingBuffer) :=
  if dst = false ∨ len = 0 then some ([], rb)
  else
    (rb.peek dst len).map fun got =>
      (got, { rb with
        tail := (rb.tail + got.length) % rb.size
        count := rb.count - got.length })

end

end RingBuffer

inductive RingBufferOp
  | write (src : Option (List UInt8))
  | peek (dst : Bool) (len : Nat)
  | read (dst : Bool) (len : Nat)
  | clear
  deriving DecidableEq, Repr

structure RingBufferResult where
  returned : Nat
  copied : List UInt8
  deriving DecidableEq, Repr

namespace RingBufferOp

def perform (rb : RingBuffer) : RingBufferOp → Option (RingBufferResult × RingBuffer)
  | .write src => (rb.write src).map fun r => (⟨r.1, []⟩, r.2)
  | .peek dst len => (rb.peek dst len).map fun got => (⟨got.length, got⟩, rb)
  | .read dst len => (rb.read dst len).map fun r => (⟨r.1.length, r.1⟩, r.2)
  | .clear => some (⟨0, []⟩, rb.clear)

def apply (op : RingBufferOp) (rb : RingBuffer) : RingBuffer := ((op.perform rb).map (·.2)).getD rb

def spec (n : Nat) (l : List UInt8) : RingBufferOp → RingBufferResult × List UInt8
  | .write src =>
    let fitting := (src.getD []).take (n - l.length)
    (⟨fitting.length, []⟩, l ++ fitting)
  | .peek dst len => if dst then (⟨(l.take len).length, l.take len⟩, l) else (⟨0, []⟩, l)
  | .read dst len => if dst then (⟨(l.take len).length, l.take len⟩, l.drop len) else (⟨0, []⟩, l)
  | .clear => (⟨0, []⟩, [])

end RingBufferOp

def ringContents (n : Nat) : List (RingBuffer × RingBufferOp) → List UInt8
  | [] => []
  | x :: h => (x.2.spec n (ringContents n h)).2

namespace RingBuffer

def toList (rb : RingBuffer) : List UInt8 :=
  (List.range rb.count).map fun k => rb.data ((rb.tail + k) % rb.size)

structure Refines (n : Nat) (l : List UInt8) (rb : RingBuffer) : Prop where
  size : rb.size = n
  count_le : rb.count ≤ n
  tail_lt : rb.tail < n
  head_eq : rb.head = (rb.tail + rb.count) % n
  toList : rb.toList = l

variable {n : Nat} {l src bs : List UInt8} {rb : RingBuffer}

theorem length_toList (rb : RingBuffer) : rb.toList.length = rb.count := by
  rw [RingBuffer.toList, List.length_map, List.length_range]

namespace Refines

theorem count_eq (h : rb.Refines n l) : rb.count = l.length := by
  rw [← h.toList, length_toList]

theorem head_lt (h : rb.Refines n l) : rb.head < n := by
  rw [h.head_eq]
  exact Nat.mod_lt _ (Nat.lt_of_le_of_lt (Nat.zero_le _) h.tail_lt)

theorem avail (h : rb.Refines n l) : rb.avail = n - l.length := by
  rw [RingBuffer.avail, h.size, h.count_eq]

theorem append (h : rb.Refines n l) (hcount : rb.count + bs.length ≤ n)
    (hhead : rb.head + bs.length ≤ n) :
    Refines n (l ++ bs) { rb with
      data := rb.data.write rb.head bs
      head := (rb.head + bs.length) % rb.size
      count := rb.count + bs.length } := by
  have htail := h.tail_lt
  refine ⟨h.size, hcount, htail, ?_, ?_⟩
  · rw [h.size, h.head_eq, Nat.mod_add_mod, Nat.add_assoc]
  · rw [← h.toList, RingBuffer.toList, RingBuffer.toList, List.range_add, List.map_append]
    dsimp only
    congr 1
    · refine List.map_congr_left fun k hk => ?_
      rw [List.mem_range] at hk
      have hmod := h.head_eq
      rw [h.size]
      -- a byte that is held lies outside of the free bytes
      rcases Nat.lt_or_ge (rb.tail + k) n with hlt | hge
      · rw [Nat.mod_eq_of_lt hlt]
        rcases Nat.lt_or_ge (rb.tail + rb.count) n with hlt' | hge'
        · rw [Nat.mod_eq_of_lt hlt'] at hmod
          exact Image.write_of_lt _ _ (by omega)
        · rw [Nat.mod_eq_sub_mod hge', Nat.mod_eq_of_lt (by omega)] at hmod
          exact Image.write_of_le _ _ (by omega)
      · rw [Nat.mod_eq_sub_mod hge, Nat.mod_eq_of_lt (by omega)]
        rw [Nat.mod_eq_sub_mod (by omega), Nat.mod_eq_of_lt (by omega)] at hmod
        exact Image.write_of_lt _ _ (by omega)
    · rw [List.map_map]
      refine List.ext_getElem (by simp) fun k hk hk' => ?_
      rw [List.getElem_map, List.getElem_range, Function.comp_apply, h.size, ← Nat.add_assoc,
        ← Nat.mod_add_mod, ← h.head_eq, Nat.mod_eq_of_lt (by omega)]
      exact Image.write_of_mem _ _ hk'

theorem slice (h : rb.Refines n l) {k m : Nat} (hm : k + m ≤ l.length)
    (hend : (rb.tail + k) % n + m ≤ n) :
    rb.data.slice ((rb.tail + k) % n) m = (l.drop k).take m := by
  have hcount := h.count_eq
  refine List.ext_getElem ?_ fun i hi hi' => ?_
  · rw [Image.length_slice, List.length_take, List.length_drop]
    omega
  · rw [Image.length_slice] at hi
    simp only [Image.slice, ← h.toList, RingBuffer.toList, List.getElem_map, List.getElem_range,
      List.getElem_take, List.getElem_drop]
    have hmod : (rb.tail + (k + i)) % n = (rb.tail + k) % n + i := by
      rw [← Nat.add_assoc, ← Nat.mod_add_mod (rb.tail + k), Nat.mod_eq_of_lt (by omega)]
    rw [h.size, hmod]

theorem drop (h : rb.Refines n l) {k : Nat} (hk : k ≤ l.length) :
    Refines n (l.drop k) { rb with
      tail := (rb.tail + k) % rb.size
      count := rb.count - k } := by
  have hcount := h.count_eq
  have htail := h.tail_lt
  refine ⟨h.size, Nat.le_trans (Nat.sub_le _ _) h.count_le, ?_, ?_, ?_⟩
  · dsimp only
    rw [h.size]
    exact Nat.mod_lt _ (by omega)
  · dsimp only
    rw [h.size, h.head_eq, Nat.mod_add_mod, Nat.add_assoc, Nat.add_sub_cancel' (by omega)]
  · rw [← h.toList, RingBuffer.toList, RingBuffer.toList]
    refine List.ext_getElem ?_ fun i hi hi' => ?_
    · simp
    · simp only [List.getElem_map, List.getElem_range, List.getElem_drop]
      rw [Nat.mod_add_mod, Nat.add_assoc]

end Refines

theorem write_some (h : rb.Refines n l) (src : List UInt8) :
    ∃ rb', rb.write (some src) = some ((src.take (n - l.length)).length, rb') ∧
      rb'.Refines n (l ++ src.take (n - l.length)) := by
  rw [write]
  by_cases hsrc : src.length = 0
  case pos =>
    rw [List.length_eq_zero_iff] at hsrc
    refine ⟨rb, by simp [hsrc], ?_⟩
    rw [hsrc, List.take_nil, List.append_nil]
    exact h
  case neg =>
    have hcount := h.count_eq
    have hle := h.count_le
    rw [if_neg hsrc, h.avail]
    dsimp only
    generalize htoWrite : (if n - l.length < src.length then n - l.length else src.length) = toWrite
    have htake : src.take (n - l.length) = src.take toWrite := by
      rw [← htoWrite]
      split
      next => rfl
      next hge => rw [List.take_length, List.take_of_length_le (Nat.le_of_not_lt hge)]
    have hfits : toWrite ≤ src.length ∧ toWrite ≤ n - l.length := by
      rw [← htoWrite]
      split <;> omega
    rw [htake]
    -- the first `written` bytes have been appended
    have hbody : ∀ s : RingBuffer × Nat, s.1.Refines n (l ++ src.take s.2) ∧ s.2 ≤ toWrite →
        decide (s.2 < toWrite) = true →
          ((writeChunk src toWrite s).1.Refines n (l ++ src.take (writeChunk src toWrite s).2) ∧
            (writeChunk src toWrite s).2 ≤ toWrite) ∧
          toWrite - (writeChunk src toWrite s).2 < toWrite - s.2 := by
      rintro ⟨rb', written⟩ ⟨hrefines, hwritten⟩ htest
      dsimp only at hrefines hwritten htest ⊢
      have hlt : written < toWrite := of_decide_eq_true htest
      have hcount' := hrefines.count_eq
      rw [List.length_append, List.length_take, Nat.min_eq_left (by omega)] at hcount'
      have hhead := hrefines.head_lt
      rw [writeChunk]
      dsimp only
      rw [hrefines.size]
      generalize hchunk : (if n - rb'.head < toWrite - written then n - rb'.head
        else toWrite - written) = chunk
      have hbounds : chunk ≤ toWrite - written ∧ chunk ≤ n - rb'.head ∧ 0 < chunk := by
        rw [← hchunk]
        split <;> omega
      have hlength : ((src.drop written).take chunk).length = chunk := by
        rw [List.length_take, List.length_drop]
        omega
      have hcount : rb'.count + ((src.drop written).take chunk).length ≤ n := by
        rw [hlength]
        omega
      have happend := hrefines.append hcount (by rw [hlength]; omega)
      rw [hlength, List.append_assoc, ← List.take_add, hrefines.size] at happend
      exact ⟨⟨happend, by omega⟩, by omega⟩
    obtain ⟨⟨rb', written⟩, hloop, ⟨hrefines, hwritten⟩, hdone⟩ :=
      loop_spec (n := toWrite + 1) (s := (rb, 0)) (fun s => toWrite - s.2) hbody
        ⟨by simpa using h, Nat.zero_le _⟩ (by simp)
    dsimp only at hrefines hwritten hdone
    have heq : written = toWrite := by
      have hge := of_decide_eq_false hdone
      omega
    rw [heq] at hrefines hloop
    refine ⟨rb', ?_, hrefines⟩
    rw [hloop, Option.map_some, List.length_take, Nat.min_eq_left hfits.1]

theorem peek_eq (h : rb.Refines n l) (len : Nat) : rb.peek true len = some (l.take len) := by
  rw [peek]
  by_cases hlen : len = 0
  case pos => rw [if_pos (.inr hlen), hlen, List.take_zero]
  case neg =>
    have hcount := h.count_eq
    have hpos := h.tail_lt
    rw [if_neg (by simp [hlen]), hcount]
    dsimp only
    generalize htoRead : (if l.length < len then l.length else len) = toRead
    have htake : l.take len = l.take toRead := by
      rw [← htoRead]
      split
      next hlt => rw [List.take_length, List.take_of_length_le (Nat.le_of_lt hlt)]
      next => rfl
    have hfits : toRead ≤ l.length := by
      rw [← htoRead]
      split <;> omega
    rw [htake]
    have hbody : ∀ s : Nat × List UInt8, (s.2 = l.take s.2.length ∧
          s.1 = (rb.tail + s.2.length) % n ∧ s.2.length ≤ toRead) →
        decide (s.2.length < toRead) = true →
          ((rb.peekChunk toRead s).2 = l.take (rb.peekChunk toRead s).2.length ∧
            (rb.peekChunk toRead s).1 = (rb.tail + (rb.peekChunk toRead s).2.length) % n ∧
              (rb.peekChunk toRead s).2.length ≤ toRead) ∧
          toRead - (rb.peekChunk toRead s).2.length < toRead - s.2.length := by
      rintro ⟨tail, copied⟩ ⟨hcopied, htail, hle⟩ htest
      dsimp only at hcopied htail hle htest ⊢
      have hlt : copied.length < toRead := of_decide_eq_true htest
      have htail' : tail < n := by
        rw [htail]
        exact Nat.mod_lt _ (by omega)
      rw [peekChunk]
      dsimp only
      rw [h.size]
      generalize hchunk : (if n - tail < toRead - copied.length then n - tail
        else toRead - copied.length) = chunk
      have hbounds : chunk ≤ toRead - copied.length ∧ chunk ≤ n - tail ∧ 0 < chunk := by
        rw [← hchunk]
        split <;> omega
      have hslice := h.slice (k := copied.length) (m := chunk) (by omega)
        (by rw [← htail]; omega)
      rw [← htail] at hslice
      rw [List.length_append, Image.length_slice, hslice]
      refine ⟨⟨?_, ?_, by omega⟩, by omega⟩
      · rw [List.take_add, ← hcopied]
      · rw [htail, Nat.mod_add_mod, Nat.add_assoc]
    obtain ⟨⟨tail, copied⟩, hloop, ⟨hcopied, -, hle⟩, hdone⟩ :=
      loop_spec (n := toRead + 1) (s := (rb.tail, [])) (fun s => toRead - s.2.length) hbody
        ⟨List.take_zero.symm, (Nat.mod_eq_of_lt hpos).symm, Nat.zero_le _⟩ (by simp)
    dsimp only at hcopied hle hdone
    have heq : copied.length = toRead := by
      have hge := of_decide_eq_false hdone
      omega
    rw [heq] at hcopied
    rw [hloop, Option.map_some, hcopied]

end RingBuffer

theorem RingBufferOp.perform_spec {n : Nat} {l : List UInt8} {rb : RingBuffer}
    (h : rb.Refines n l) (op : RingBufferOp) :
    ∃ rb', op.perform rb = some ((op.spec n l).1, rb') ∧ rb'.Refines n (op.spec n l).2 := by
  cases op with
  | write src =>
    cases src with
    | none => exact ⟨rb, by simp [perform, spec, RingBuffer.write], by simpa [spec] using h⟩
    | some src =>
      obtain ⟨rb', hwrite, hrefines⟩ := RingBuffer.write_some h src
      exact ⟨rb', by rw [perform, hwrite]; rfl, hrefines⟩
  | peek dst len =>
    cases dst with
    | false => exact ⟨rb, rfl, h⟩
    | true => exact ⟨rb, by rw [perform, RingBuffer.peek_eq h]; rfl, h⟩
  | read dst len =>
    cases dst with
    | false => exact ⟨rb, rfl, h⟩
    | true =>
      by_cases hlen : len = 0
      case pos =>
        refine ⟨rb, ?_, ?_⟩
        · rw [perform, RingBuffer.read, if_pos (.inr hlen), hlen]
          rfl
        · rw [hlen]
          exact h
      case neg =>
        have hdrop := h.drop (k := (l.take len).length) (List.length_take_le' _ _)
        have hsame : l.drop (l.take len).length = l.drop len := by
          rw [List.length_take]
          rcases Nat.le_total len l.length with hle | hle
          · rw [Nat.min_eq_left hle]
          · rw [Nat.min_eq_right hle, List.drop_length, List.drop_eq_nil_of_le hle]
        rw [hsame] at hdrop
        refine ⟨_, ?_, hdrop⟩
        rw [perform, RingBuffer.read, if_neg (by simp [hlen]), RingBuffer.peek_eq h]
        rfl
  | clear =>
    have hpos : 0 < n := Nat.lt_of_le_of_lt (Nat.zero_le _) h.tail_lt
    exact ⟨_, rfl, ⟨h.size, Nat.zero_le _, hpos, (Nat.zero_mod n).symm, rfl⟩⟩

theorem RingBuffer.init_of_le (rb : RingBuffer) {capacity : Nat} (hpos : 1 ≤ capacity)
    (hmax : capacity ≤ RING_BUFFER_MAX_CAPACITY) :
    ∃ rb', rb.init capacity = some rb' ∧ rb'.Refines capacity [] := by
  rw [init, if_neg (Nat.ne_of_gt hpos), if_neg (Nat.not_lt.mpr hmax)]
  exact ⟨_, rfl, rfl, Nat.zero_le _, hpos, (Nat.zero_mod _).symm, rfl⟩

/-- From its initialization on, a ring buffer is a list of at most `capacity` bytes. -/
theorem ringBuffer_refines (data : RingBuffer) {capacity : Nat} (hpos : 1 ≤ capacity)
    (hmax : capacity ≤ RING_BUFFER_MAX_CAPACITY) :
    ∃ rb₀, data.init capacity = some rb₀ ∧
      ∀ h rb, Run RingBufferOp.apply rb₀ h rb →
        Always (fun h rb => rb.Refines capacity (ringContents capacity h) ∧
          ∀ op : RingBufferOp, ∃ rb', op.perform rb =
            some ((op.spec capacity (ringContents capacity h)).1, rb')) h rb := by
  obtain ⟨rb₀, hinit, hrefines₀⟩ := data.init_of_le hpos hmax
  refine ⟨rb₀, hinit, fun h rb hrun => ?_⟩
  have hgood : ∀ {h rb}, rb.Refines capacity (ringContents capacity h) →
      rb.Refines capacity (ringContents capacity h) ∧ ∀ op : RingBufferOp, ∃ rb', op.perform rb =
        some ((op.spec capacity (ringContents capacity h)).1, rb') := by
    intro h rb hrefines
    refine ⟨hrefines, fun op => ?_⟩
    obtain ⟨rb', hperform, -⟩ := RingBufferOp.perform_spec hrefines op
    exact ⟨rb', hperform⟩
  induction hrun with
  | refl => exact hgood (h := []) hrefines₀
  | @next h rb op hrun ih =>
    obtain ⟨rb', hperform, hrefines⟩ := RingBufferOp.perform_spec (ih.head _ _).1 op
    refine ⟨hgood (h := (rb, op) :: h) ?_, ih⟩
    rw [RingBufferOp.apply, hperform]
    exact hrefines

theorem ringBuffer_refines_four :
    ∃ rb₀, RingBuffer.init ⟨0, 0, 0, 0, fun _ => 0⟩ 4 = some rb₀ ∧
      ∀ h rb, Run RingBufferOp.apply rb₀ h rb →
        Always (fun h rb => rb.Refines 4 (ringContents 4 h) ∧
          ∀ op : RingBufferOp, ∃ rb', op.perform rb =
            some ((op.spec 4 (ringContents 4 h)).1, rb')) h rb :=
  ringBuffer_refines _ (by decide) (by decide)

end LonStack
