import LonStack.LonUsb.Frame
import LonStack.NetMgmt.Respond
import LonStack.NetworkRoundTrip

namespace LonStack

open Lib LonUsb

abbrev LNM_TAG : UInt8 := 0x0F
abbrev ND_QUERY_XCVR : UInt8 := 0x04
abbrev LonNiIncomingL2Cmd : UInt8 := 0x1A
abbrev LonNiIncomingL2Mode2Cmd : UInt8 := 0x1C

namespace Npdu

def toList (npdu : Npdu) : List UInt8 := npdu.hdr :: npdu.data

/-- `memcpy` to the start of the buffer: what stands behind keeps its old value. -/
def memcpy (dst : Npdu) (src : List UInt8) : Npdu :=
  match src ++ dst.toList.drop src.length with
  | [] => dst
  | hdr :: data => ⟨hdr, data⟩

theorem toList_memcpy (dst : Npdu) (src : List UInt8) :
    (dst.memcpy src).toList = src ++ dst.toList.drop src.length := by
  unfold memcpy
  split
  case h_1 h =>
    obtain ⟨rfl, h⟩ := List.append_eq_nil_iff.mp h
    exact absurd h (List.cons_ne_nil _ _)
  case h_2 h => exact h.symm

theorem take_toList_memcpy (dst : Npdu) (src : List UInt8) :
    (dst.memcpy src).toList.take src.length = src := by
  rw [toList_memcpy, List.take_left]

end Npdu

/-- The builds for a USB interface. In the second one the interface that the frame comes from may be
a power line interface. -/
inductive UsbLink
  | usbMip
  | multipleUsbMips (isPowerLine : Bool)
  deriving DecidableEq, Repr

structure Lpdu where
  size : UInt16
  bytes : Image

namespace Lpdu

def priority (l : Lpdu) : Bool := l.bytes 0 &&& 0x80 ≠ 0

def altPath (l : Lpdu) : UInt8 := l.bytes 0 >>> 6 &&& 1

def pduSize (l : Lpdu) : Nat := (l.size - 3).toNat

def npdu (l : Lpdu) (n : Nat) : List UInt8 := Image.bytes (fun k => l.bytes (k + 1)) n

end Lpdu

structure LinkStackData extends NetworkStackData where
  nwInBufSize : Nat

namespace UsbLink

def headerAt : UsbLink → Nat
  | multipleUsbMips true => 1
  | _ => 0

def overhead : UsbLink → Nat
  | multipleUsbMips true => 3
  | _ => 0

def incomingCmd : UsbLink → UInt8
  | multipleUsbMips true => LonNiIncomingL2Mode2Cmd
  | _ => LonNiIncomingL2Cmd

def isXcvrResponse (sicb : LonDataFrame) : Bool :=
  sicb.niCommand = LonNiResponseCmd ∧ sicb.pdu 0 &&& 0x0F = LNM_TAG ∧
    sicb.pdu 14 = ND_resp_success ||| ND_QUERY_XCVR

/-- `none` when the frame is dropped. The build for one interface takes every frame and assigns
neither of the two variables, which hold `uninit`. -/
def lpdu (link : UsbLink) (uninit : Lpdu) (sicb : LonDataFrame) : Option Lpdu :=
  match link with
  | usbMip => some uninit
  | multipleUsbMips isPowerLine =>
    if isPowerLine && isXcvrResponse sicb then none
    else
      let l : Lpdu :=
        if isPowerLine then ⟨sicb.shortPduLength.toUInt16 - 3, fun k => sicb.pdu (k + 1)⟩
        else ⟨sicb.shortPduLength.toUInt16, sicb.pdu⟩
      if sicb.niCommand = LonNiIncomingL2Mode2Cmd ∧ l.size < 8 ∨
          sicb.niCommand &&& 0xF0 = LonNiError &&& 0xF0 then none
      else if isPowerLine then
        if sicb.niCommand ≠ LonNiIncomingL2Mode2Cmd then none else some l
      else if sicb.niCommand ≠ LonNiIncomingL2Cmd then none
      else some l

end UsbLink

namespace LinkStackData

def receiveLpdu (gp : LinkStackData) (l : Lpdu) (slot : NWReceiveParam) : NWReceiveParam where
  priority := l.priority
  altPath := l.altPath
  pduSize := l.pduSize
  npdu := if l.pduSize ≤ gp.nwInBufSize then slot.npdu.memcpy (l.npdu l.pduSize) else slot.npdu

def linkLayerUsbReceive (gp : LinkStackData) (link : UsbLink) (uninit : Lpdu)
    (sicb : LonDataFrame) : LinkStackData :=
  match link.lpdu uninit sicb with
  | none => gp
  | some l =>
    if gp.nwInQ.full then gp else { gp with nwInQ := gp.nwInQ.push (gp.receiveLpdu l) }

variable (gp : LinkStackData) (link : UsbLink) (sicb : LonDataFrame)

structure HoldsNpdu (e : NWReceiveParam) : Prop where
  incoming : sicb.niCommand = link.incomingCmd
  size : e.pduSize + 3 + link.overhead = sicb.shortPduLength.toNat
  fits : e.pduSize ≤ gp.nwInBufSize
  priority : e.priority = (sicb.pdu link.headerAt &&& 0x80 ≠ 0 : Bool)
  altPath : e.altPath = sicb.pdu link.headerAt >>> 6 &&& 1
  npdu : e.npdu.toList.take e.pduSize =
    Image.bytes (fun k => sicb.pdu (k + link.headerAt + 1)) e.pduSize

def PassesUp (gp' : LinkStackData) : Prop :=
  gp'.nwInQ.toList = gp.nwInQ.toList ∨
    ∃ e, gp'.nwInQ.toList = gp.nwInQ.toList ++ [e] ∧ gp.HoldsNpdu link sicb e

def HasRoom : Prop := gp.nwInQ.queueEntries + 1 < gp.nwInQ.queueCapacity

variable {gp link sicb} {l uninit : Lpdu}

theorem toList_linkLayerUsbReceive (h : link.lpdu uninit sicb = some l) :
    (gp.linkLayerUsbReceive link uninit sicb).nwInQ.toList =
      if gp.nwInQ.queueEntries + 1 < gp.nwInQ.queueCapacity
      then gp.nwInQ.toList ++ [gp.receiveLpdu l gp.nwInQ.tailSlot] else gp.nwInQ.toList := by
  unfold linkLayerUsbReceive
  rw [h]
  dsimp only
  split
  case isTrue hf =>
    have := (Queue.full_iff _).mp hf
    rw [if_neg (by omega)]
  case isFalse => exact Queue.toList_push _ _

theorem passesUp_of_dropped (h : link.lpdu uninit sicb = none) :
    gp.PassesUp link sicb (gp.linkLayerUsbReceive link uninit sicb) := by
  unfold linkLayerUsbReceive
  rw [h]
  exact .inl rfl

theorem passesUp_of_no_room (h : ¬gp.HasRoom) :
    gp.PassesUp link sicb (gp.linkLayerUsbReceive link uninit sicb) := by
  cases hl : link.lpdu uninit sicb with
  | none => exact passesUp_of_dropped hl
  | some l =>
    refine .inl ?_
    rw [toList_linkLayerUsbReceive hl]
    exact if_neg h

theorem passesUp_iff_of_room (h : link.lpdu uninit sicb = some l) (hr : gp.HasRoom) :
    gp.PassesUp link sicb (gp.linkLayerUsbReceive link uninit sicb) ↔
      gp.HoldsNpdu link sicb (gp.receiveLpdu l gp.nwInQ.tailSlot) := by
  unfold PassesUp
  have hl := @toList_linkLayerUsbReceive gp link sicb l uninit h
  rw [if_pos (show gp.nwInQ.queueEntries + 1 < gp.nwInQ.queueCapacity from hr)] at hl
  rw [hl]
  constructor
  · rintro (h | ⟨e, h, he⟩)
    · have := congrArg List.length h
      simp at this
    · rw [List.append_cancel_left_eq, List.singleton_inj] at h
      exact h ▸ he
  · exact fun he => .inr ⟨_, rfl, he⟩

theorem holdsNpdu_iff {slot : NWReceiveParam} (hc : sicb.niCommand = link.incomingCmd)
    (hl : l.bytes = fun k => sicb.pdu (k + link.headerAt)) :
    gp.HoldsNpdu link sicb (gp.receiveLpdu l slot) ↔
      l.pduSize + 3 + link.overhead = sicb.shortPduLength.toNat ∧ l.pduSize ≤ gp.nwInBufSize := by
  have hb : l.bytes 0 = sicb.pdu link.headerAt := by
    rw [hl]
    exact congrArg sicb.pdu (Nat.zero_add _)
  have hn : l.npdu l.pduSize =
      Image.bytes (fun k => sicb.pdu (k + link.headerAt + 1)) l.pduSize := by
    refine Image.bytes_congr fun k _ => ?_
    rw [hl]
    exact congrArg sicb.pdu (by omega)
  constructor
  · exact fun h => ⟨h.size, h.fits⟩
  · rintro ⟨size, fits⟩
    refine ⟨hc, size, fits, ?_, ?_, ?_⟩
    · show l.priority = _
      rw [Lpdu.priority, hb]
    · show l.altPath = _
      rw [Lpdu.altPath, hb]
    · have take := slot.npdu.take_toList_memcpy (l.npdu l.pduSize)
      rw [Lpdu.npdu, Image.length_bytes] at take
      show (if _ then _ else _ : Npdu).toList.take l.pduSize = _
      rw [if_pos fits]
      exact take.trans hn

end LinkStackData

namespace UsbLink

variable {sicb : LonDataFrame} {uninit : Lpdu}

theorem lpdu_multiple (uninit : Lpdu) (sicb : LonDataFrame) :
    (multipleUsbMips false).lpdu uninit sicb =
      if sicb.niCommand = LonNiIncomingL2Cmd then some ⟨sicb.shortPduLength.toUInt16, sicb.pdu⟩
      else none := by
  unfold lpdu
  dsimp only
  by_cases hc : sicb.niCommand = LonNiIncomingL2Cmd
  · rw [hc, if_pos rfl, if_neg (by simp), if_neg, if_neg Bool.false_ne_true,
      if_neg (not_not_intro rfl), if_neg Bool.false_ne_true]
    rintro (⟨h, -⟩ | h)
    · exact absurd h (by decide)
    · exact absurd h (by decide)
  · rw [if_neg hc, if_neg (by simp), if_neg Bool.false_ne_true, if_neg Bool.false_ne_true,
      if_pos hc]
    split <;> rfl

theorem lpdu_powerLine (uninit : Lpdu) (sicb : LonDataFrame) :
    (multipleUsbMips true).lpdu uninit sicb =
      if sicb.niCommand = LonNiIncomingL2Mode2Cmd ∧ ¬sicb.shortPduLength.toUInt16 - 3 < 8 then
        some ⟨sicb.shortPduLength.toUInt16 - 3, fun k => sicb.pdu (k + 1)⟩
      else none := by
  unfold lpdu
  dsimp only
  by_cases hc : sicb.niCommand = LonNiIncomingL2Mode2Cmd
  · have hx : isXcvrResponse sicb = false := by
      unfold isXcvrResponse
      rw [hc]
      exact decide_eq_false fun h => absurd h.1 (by decide)
    rw [hx, if_neg (by decide), if_pos rfl, hc]
    by_cases hs : sicb.shortPduLength.toUInt16 - 3 < 8
    · rw [if_pos (.inl ⟨rfl, hs⟩), if_neg fun h => h.2 hs]
    · rw [if_neg, if_pos rfl, if_neg (not_not_intro rfl), if_pos ⟨rfl, hs⟩]
      rintro (⟨-, h⟩ | h)
      · exact hs h
      · exact absurd h (by decide)
  · have hn : ¬(sicb.niCommand = LonNiIncomingL2Mode2Cmd ∧
        ¬sicb.shortPduLength.toUInt16 - 3 < 8) := fun h => hc h.1
    rw [if_neg hn, if_pos rfl, if_pos rfl, if_pos hc]
    split
    · rfl
    · split <;> rfl

end UsbLink

namespace LinkStackData

def InBounds (gp : LinkStackData) (isPowerLine : Bool) (short : Nat) : Prop :=
  3 ≤ short ∧
    if isPowerLine then short < 11 ∨ short ≤ gp.nwInBufSize + 6 else short ≤ gp.nwInBufSize + 3

variable {gp : LinkStackData} {sicb : LonDataFrame}

theorem toNat_sub_three (size : UInt16) :
    (size - 3).toNat = if 3 ≤ size.toNat then size.toNat - 3 else size.toNat + 65533 := by
  have := size.toNat_lt
  rw [UInt16.toNat_sub, show UInt16.toNat 3 = 3 from rfl]
  split <;> omega

theorem toNat_short_sub (short : UInt8) :
    (short.toUInt16 - 3).toNat =
      if 3 ≤ short.toNat then short.toNat - 3 else short.toNat + 65533 := by
  rw [toNat_sub_three, UInt8.toNat_toUInt16]

theorem toNat_short_sub_sub (short : UInt8) :
    (short.toUInt16 - 3 - 3).toNat =
      if 6 ≤ short.toNat then short.toNat - 6 else short.toNat + 65530 := by
  have := short.toNat_lt
  rw [toNat_sub_three, toNat_short_sub]
  by_cases h : 3 ≤ short.toNat
  · rw [if_pos h]
    split <;> split <;> omega
  · rw [if_neg h, if_pos (by omega), if_neg (by omega)]
    omega

theorem passesUp_multiple_iff (uninit : Lpdu) (hr : gp.HasRoom) :
    gp.PassesUp (.multipleUsbMips false) sicb
        (gp.linkLayerUsbReceive (.multipleUsbMips false) uninit sicb) ↔
      sicb.niCommand ≠ LonNiIncomingL2Cmd ∨ gp.InBounds false sicb.shortPduLength.toNat := by
  by_cases hc : sicb.niCommand = LonNiIncomingL2Cmd
  · have hl := UsbLink.lpdu_multiple uninit sicb
    rw [if_pos hc] at hl
    rw [passesUp_iff_of_room hl hr, holdsNpdu_iff hc rfl]
    have hs := toNat_short_sub sicb.shortPduLength
    have := sicb.shortPduLength.toNat_lt
    simp only [Lpdu.pduSize, UsbLink.overhead, InBounds, hs, hc, ne_eq, not_true_eq_false,
      false_or, Bool.false_eq_true, if_false]
    split <;> omega
  · refine iff_of_true (passesUp_of_dropped ?_) (.inl hc)
    rw [UsbLink.lpdu_multiple, if_neg hc]

theorem passesUp_powerLine_iff (uninit : Lpdu) (hr : gp.HasRoom) :
    gp.PassesUp (.multipleUsbMips true) sicb
        (gp.linkLayerUsbReceive (.multipleUsbMips true) uninit sicb) ↔
      sicb.niCommand ≠ LonNiIncomingL2Mode2Cmd ∨ gp.InBounds true sicb.shortPduLength.toNat := by
  have hs := toNat_short_sub sicb.shortPduLength
  have hss := toNat_short_sub_sub sicb.shortPduLength
  have := sicb.shortPduLength.toNat_lt
  have hlt : sicb.shortPduLength.toUInt16 - 3 < 8 ↔
      3 ≤ sicb.shortPduLength.toNat ∧ sicb.shortPduLength.toNat < 11 := by
    rw [UInt16.lt_iff_toNat_lt, hs]
    show _ < 8 ↔ _
    split <;> omega
  have hl := UsbLink.lpdu_powerLine uninit sicb
  by_cases hc : sicb.niCommand = LonNiIncomingL2Mode2Cmd ∧
      ¬sicb.shortPduLength.toUInt16 - 3 < 8
  · rw [if_pos hc] at hl
    rw [passesUp_iff_of_room hl hr, holdsNpdu_iff hc.1 rfl]
    have hlong := hlt.not.mp hc.2
    simp only [Lpdu.pduSize, UsbLink.overhead, InBounds, hss, hc.1, ne_eq, not_true_eq_false,
      false_or, if_true]
    split <;> omega
  · rw [if_neg hc] at hl
    refine iff_of_true (passesUp_of_dropped hl) ?_
    by_cases hcmd : sicb.niCommand = LonNiIncomingL2Mode2Cmd
    · have hshort := hlt.mp (by_contra fun h => hc ⟨hcmd, h⟩)
      exact .inr ⟨hshort.1, .inl hshort.2⟩
    · exact .inl hcmd

theorem not_passesUp_usbMip (hr : gp.HasRoom) :
    ¬gp.PassesUp .usbMip sicb (gp.linkLayerUsbReceive .usbMip ⟨2, fun _ => 0⟩ sicb) := by
  rw [passesUp_iff_of_room rfl hr]
  intro h
  have size : 65535 + 3 + 0 = sicb.shortPduLength.toNat := h.size
  have := sicb.shortPduLength.toNat_lt
  omega

/-- Where the queue has room, the NPDU is passed up as it is when the build assigns the size and an
incoming frame is neither too short nor too long. -/
theorem passesUp_iff (gp : LinkStackData) (link : UsbLink) (sicb : LonDataFrame) :
    (∀ uninit, gp.PassesUp link sicb (gp.linkLayerUsbReceive link uninit sicb)) ↔
      gp.nwInQ.queueCapacity ≤ gp.nwInQ.queueEntries + 1 ∨
        ∃ isPowerLine, link = .multipleUsbMips isPowerLine ∧
          (sicb.niCommand ≠ link.incomingCmd ∨
            gp.InBounds isPowerLine sicb.shortPduLength.toNat) := by
  by_cases hr : gp.HasRoom
  · have hr' : ¬gp.nwInQ.queueCapacity ≤ gp.nwInQ.queueEntries + 1 := Nat.not_le.mpr hr
    rw [or_iff_right hr']
    cases link with
    | usbMip =>
      refine iff_of_false (fun h => not_passesUp_usbMip hr (h _)) ?_
      rintro ⟨_, h, -⟩
      cases h
    | multipleUsbMips isPowerLine =>
      have h : ∀ uninit, gp.PassesUp (.multipleUsbMips isPowerLine) sicb
            (gp.linkLayerUsbReceive (.multipleUsbMips isPowerLine) uninit sicb) ↔
          sicb.niCommand ≠ (UsbLink.multipleUsbMips isPowerLine).incomingCmd ∨
            gp.InBounds isPowerLine sicb.shortPduLength.toNat := by
        cases isPowerLine with
        | false => exact fun uninit => passesUp_multiple_iff uninit hr
        | true => exact fun uninit => passesUp_powerLine_iff uninit hr
      constructor
      · exact fun hp => ⟨isPowerLine, rfl, (h ⟨0, fun _ => 0⟩).mp (hp _)⟩
      · rintro ⟨p, hp, hb⟩ uninit
        cases hp
        exact (h uninit).mpr hb
  · exact iff_of_true (fun _ => passesUp_of_no_room hr) (.inl (Nat.not_lt.mp hr))

theorem not_passesUp :
    ¬∀ (gp : LinkStackData) (link : UsbLink) (uninit : Lpdu) (sicb : LonDataFrame),
      gp.PassesUp link sicb (gp.linkLayerUsbReceive link uninit sicb) := by
  intro h
  have hr : HasRoom ⟨networkNode 1 1, 66⟩ := show 0 + 1 < 3 by decide
  have hp := h ⟨networkNode 1 1, 66⟩ (.multipleUsbMips false) ⟨0, fun _ => 0⟩
    ⟨LonNiIncomingL2Cmd, 2, fun _ => 0⟩
  rw [passesUp_multiple_iff _ hr] at hp
  rcases hp with hc | hb
  · exact hc rfl
  · exact absurd hb.1 (by decide)

end LinkStackData

end LonStack
