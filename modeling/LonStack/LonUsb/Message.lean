import LonStack.LonUsb.Reception

namespace LonStack.LonUsb

open Lib

namespace LonUsbLinkState

variable (s : LonUsbLinkState)

def held (p : List UInt8) (m : Nat) : LonUsbLinkState :=
  { s with
    uplinkBuffer :=
      { s.uplinkBuffer with usbNiDataFrame := ⟨s.uplinkBuffer.usbNiDataFrame.image.write 0 p⟩ }
    uplinkMsgIndex := p.length
    uplinkMsgLength := m }

theorem storeByte_held (p : List UInt8) (m : Nat) (b : UInt8) :
    (s.held p m).storeByte b = s.held (p ++ [b]) m := by
  unfold held storeByte
  simp only [Image.write_append, Image.write, Nat.zero_add, List.length_append,
    List.length_singleton]

theorem readByte_first (h : s.uplinkMsgIndex = 0) (b : UInt8) :
    s.readByte b = (s.held [b] b.toNat, .noError) := by
  have hindex : (s.storeByte b).uplinkMsgIndex = 1 := congrArg (· + 1) h
  rw [readByte, checkUplinkCompleted, if_pos hindex]
  simp only [storeByte, held, LonNiFrame.shortPduLength, h, Function.update_self, Image.write,
    List.length_singleton]

theorem readByte_within {p : List UInt8} {m : Nat} (hp : p ≠ [])
    (hext : ¬(m = EXT_LENGTH.toNat ∧ p.length = 2)) (hle : p.length ≤ m) (b : UInt8) :
    (s.held p m).readByte b = (s.held (p ++ [b]) m, .noError) := by
  have hpos := List.length_pos_of_ne_nil hp
  have hindex : (s.held (p ++ [b]) m).uplinkMsgIndex = p.length + 1 := List.length_append
  rw [readByte, storeByte_held, checkUplinkCompleted, if_neg (by rw [hindex]; omega),
    if_neg (fun h => hext ⟨h.1, by rw [hindex] at h; omega⟩),
    if_neg (fun h => by have := h.2; rw [hindex] at this; exact absurd this (by simp [held]; omega))]

/-- The third byte of an extended message is taken for half of its length; the other half is what
the buffer held before. -/
theorem readByte_extended (x y b : UInt8) :
    (s.held [x, y] EXT_LENGTH.toNat).readByte b =
      (s.held [x, y, b] (ntoh16 b (s.uplinkBuffer.usbNiDataFrame.image 3)), .noError) := by
  have hindex : (s.held ([x, y] ++ [b]) EXT_LENGTH.toNat).uplinkMsgIndex = 3 := rfl
  rw [readByte, storeByte_held, checkUplinkCompleted, if_neg (by rw [hindex]; decide),
    if_pos ⟨rfl, rfl⟩]
  rfl

theorem readByte_last {p : List UInt8} {m : Nat} (hp : p ≠ [])
    (hext : ¬(m = EXT_LENGTH.toNat ∧ p.length = 2)) (hlt : m < p.length) (b : UInt8)
    (hf : ¬FilteredUplink (s.held (p ++ [b]) m).uplinkBuffer.usbNiDataFrame.niCommand) :
    (s.held p m).readByte b =
      ((s.held (p ++ [b]) m).acceptMessage.1.resetUplinkState,
        (s.held (p ++ [b]) m).acceptMessage.2) := by
  have hpos := List.length_pos_of_ne_nil hp
  have hindex : (s.held (p ++ [b]) m).uplinkMsgIndex = p.length + 1 := List.length_append
  have hlength : (s.held (p ++ [b]) m).uplinkMsgLength = m := rfl
  rw [readByte, storeByte_held, checkUplinkCompleted, if_neg (by rw [hindex]; omega),
    if_neg (fun h => hext ⟨h.1, by rw [hindex] at h; omega⟩),
    if_pos ⟨by rw [hindex]; omega, by rw [hindex, hlength]; omega⟩]
  simp only [if_neg hf]

theorem acceptMessage_eq (hlength : s.uplinkMsgLength ≤ LonUsbQueueBuffer.sizeofLonNiFrame)
    (huid : s.waitForUid = false) (hstatus : s.waitForStatus = false) :
    s.acceptMessage =
      (s.handleNiCommand s.uplinkBuffer.usbNiDataFrame.niCommand).queueUplinkBuffer := by
  have hle : (s.handleNiCommand s.uplinkBuffer.usbNiDataFrame.niCommand).uplinkMsgLength ≤
      LonUsbQueueBuffer.sizeofLonNiFrame := by
    unfold handleNiCommand
    split
    case isTrue => exact (show 1 ≤ LonUsbQueueBuffer.sizeofLonNiFrame by decide)
    case isFalse => exact hlength
  have huid' : (s.handleNiCommand s.uplinkBuffer.usbNiDataFrame.niCommand).waitForUid = false := by
    unfold handleNiCommand
    split <;> exact huid
  have hstatus' :
      (s.handleNiCommand s.uplinkBuffer.usbNiDataFrame.niCommand).waitForStatus = false := by
    unfold handleNiCommand
    split <;> exact hstatus
  unfold acceptMessage
  rw [if_neg (by omega), processUplinkMessage, if_neg (by rw [huid']; decide),
    if_neg (by rw [hstatus']; decide)]

end LonUsbLinkState

def readBytes (r : Outcome) (bs : List UInt8) : Outcome :=
  bs.foldl (fun r b => onSuccess r fun s => s.readByte b) r

theorem readBytes_append (r : Outcome) (bs cs : List UInt8) :
    readBytes r (bs ++ cs) = readBytes (readBytes r bs) cs :=
  List.foldl_append

theorem readBytes_cons (s : LonUsbLinkState) (b : UInt8) (bs : List UInt8) :
    readBytes (s, .noError) (b :: bs) = readBytes (s.readByte b) bs :=
  rfl

theorem readBytes_held (s : LonUsbLinkState) {p : List UInt8} {m : Nat} (hp : p ≠ [])
    (hext : m ≠ EXT_LENGTH.toNat ∨ 3 ≤ p.length) (bs : List UInt8)
    (hle : bs = [] ∨ p.length + bs.length ≤ m + 1) :
    readBytes (s.held p m, .noError) bs = (s.held (p ++ bs) m, .noError) := by
  induction bs generalizing p with
  | nil => rw [List.append_nil]; rfl
  | cons b bs ih =>
    have hsum : p.length + (bs.length + 1) ≤ m + 1 :=
      hle.resolve_left (List.cons_ne_nil b bs)
    rw [readBytes_cons, s.readByte_within hp (by omega) (by omega) b,
      ih (List.append_ne_nil_of_left_ne_nil hp _), List.append_assoc, List.singleton_append]
    · rw [List.length_append, List.length_singleton]
      omega
    · refine .inr ?_
      rw [List.length_append, List.length_singleton]
      omega

theorem readBytes_short {s : LonUsbLinkState} (h : s.uplinkMsgIndex = 0) {b : UInt8}
    (hb : b ≠ EXT_LENGTH) (bs : List UInt8) (hle : bs.length ≤ b.toNat) :
    readBytes (s, .noError) (b :: bs) = (s.held (b :: bs) b.toNat, .noError) := by
  rw [readBytes_cons, s.readByte_first h]
  refine readBytes_held s (List.cons_ne_nil b []) (.inl ?_) bs (.inr ?_)
  · exact fun heq => hb (UInt8.toNat_inj.mp heq)
  · rw [List.length_singleton]
    omega

def LonUsbLinkState.believedLength (s : LonUsbLinkState) (hi : UInt8) : Nat :=
  ntoh16 hi (s.uplinkBuffer.usbNiDataFrame.image 3)

theorem readBytes_extended {s : LonUsbLinkState} (h : s.uplinkMsgIndex = 0) (cmd hi : UInt8)
    (bs : List UInt8) (hle : bs = [] ∨ 3 + bs.length ≤ s.believedLength hi + 1) :
    readBytes (s, .noError) (EXT_LENGTH :: cmd :: hi :: bs) =
      (s.held (EXT_LENGTH :: cmd :: hi :: bs) (s.believedLength hi), .noError) := by
  rw [readBytes_cons, s.readByte_first h, readBytes_cons,
    s.readByte_within (List.cons_ne_nil _ _) (by decide) (by decide), readBytes_cons,
    List.singleton_append, s.readByte_extended]
  exact readBytes_held s (List.cons_ne_nil _ _) (.inr (by simp)) bs hle

end LonStack.LonUsb
