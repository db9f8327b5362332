import LonStack.LonUsb.Chunking
import LonStack.LonUsb.CodePacket
import LonStack.LonUsb.Entering

namespace LonStack.LonUsb

open Lib

namespace LonUsbLinkState

variable {s : LonUsbLinkState}

def setMsgLength (s : LonUsbLinkState) (n : Nat) : LonUsbLinkState := { s with uplinkMsgLength := n }

def nextMsgLength (s : LonUsbLinkState) : Nat :=
  if s.uplinkMsgIndex = 1 then s.uplinkBuffer.usbNiDataFrame.shortPduLength.toNat
  else if s.uplinkMsgLength = EXT_LENGTH.toNat ∧ s.uplinkMsgIndex = 3 then
    s.uplinkBuffer.usbNiDataFrame.extLength
  else s.uplinkMsgLength

def finish (s : LonUsbLinkState) : Outcome :=
  let r := if FilteredUplink s.uplinkBuffer.usbNiDataFrame.niCommand then (s, .noError)
    else s.acceptMessage
  (r.1.resetUplinkState, r.2)

theorem checkUplinkCompleted_of_completed (h : s.Completed) :
    s.checkUplinkCompleted = (s.finish.1, s.finish.2, true) := by
  have h1 := h.1
  rw [checkUplinkCompleted, if_neg (by omega), if_neg h.2.1, if_pos ⟨by omega, h.2.2⟩]
  rfl

theorem checkUplinkCompleted_of_not (h : ¬s.Completed) :
    s.checkUplinkCompleted = (s.setMsgLength s.nextMsgLength, .noError, false) := by
  unfold checkUplinkCompleted nextMsgLength
  dsimp only
  split
  case isTrue => rfl
  case isFalse hfirst =>
    split
    case isTrue => rfl
    case isFalse hext =>
      exact if_neg fun hc => h ⟨by omega, hext, hc.2⟩

structure KeepsPacket (s t : LonUsbLinkState) : Prop where
  header : t.uplinkBuffer.frameHeader = s.uplinkBuffer.frameHeader
  index : s.uplinkMsgIndex = 0 → t.uplinkMsgIndex = 0

namespace KeepsPacket

variable {t u : LonUsbLinkState}

theorem trans (hst : s.KeepsPacket t) (htu : t.KeepsPacket u) : s.KeepsPacket u :=
  ⟨htu.header.trans hst.header, htu.index ∘ hst.index⟩

theorem of_view (h : t.uplinkView = s.uplinkView) : s.KeepsPacket t where
  header := congrArg (fun v : UplinkView => v.uplinkBuffer.frameHeader) h
  index h0 := (congrArg UplinkView.uplinkMsgIndex h).trans h0

end KeepsPacket

theorem keepsPacket_processUplinkMessage : s.KeepsPacket s.processUplinkMessage.1 := by
  unfold processUplinkMessage queueUplinkBuffer
  dsimp only
  split
  case isTrue => split <;> exact ⟨rfl, id⟩
  case isFalse =>
    split
    case isTrue => split <;> exact ⟨rfl, id⟩
    case isFalse => split <;> split <;> exact ⟨rfl, id⟩

theorem keepsPacket_shortNiCmdCodePacket (parameter sequenceNumber : UInt8) :
    s.KeepsPacket (s.shortNiCmdCodePacket parameter sequenceNumber).1 := by
  have hrestart : s.KeepsPacket (((s.setDownlinkAckSeqNumber sequenceNumber.toNat).restartOnReset
      parameter).storeShortNiCmd parameter) := by
    unfold restartOnReset
    split <;> exact ⟨rfl, id⟩
  unfold shortNiCmdCodePacket
  dsimp only
  split
  case isTrue => exact ⟨rfl, fun _ => rfl⟩
  case isFalse =>
    split
    case isTrue => exact ⟨rfl, id⟩
    case isFalse =>
      have hprocess := hrestart.trans keepsPacket_processUplinkMessage
      unfold onSuccess
      split
      case isTrue => exact hprocess.trans ⟨rfl, fun _ => rfl⟩
      case isFalse => exact hprocess

theorem keepsPacket_processUplinkCodePacket (now : OsalTickCount) :
    s.KeepsPacket (s.processUplinkCodePacket now).1 := by
  have hcheck : s.KeepsPacket (s.checkSequence s.uplinkBuffer.frameHeader) := by
    unfold checkSequence
    split <;> exact ⟨rfl, id⟩
  have hack := hcheck.trans (.of_view (uplinkView_processAck _ s.uplinkBuffer.frameHeader))
  unfold processUplinkCodePacket
  dsimp only
  generalize (s.checkSequence s.uplinkBuffer.frameHeader).processAck s.uplinkBuffer.frameHeader = t
    at hack ⊢
  split
  case isTrue => exact hack.trans ⟨rfl, id⟩
  case isFalse =>
    split
    case isTrue => exact hack.trans (keepsPacket_shortNiCmdCodePacket _ _)
    case isFalse =>
      split
      case isTrue => exact hack.trans (.of_view (t.uplinkView_rejectCodePacket now))
      case isFalse =>
        split
        case isTrue => exact hack.trans (.of_view t.uplinkView_clearUplinkTransaction)
        case isFalse =>
          split
          case isTrue => exact hack.trans ⟨rfl, id⟩
          case isFalse => exact hack

inductive PacketEnd (s : LonUsbLinkState) (b : UInt8) (t : LonUsbLinkState) : Prop
  | message (hstate : t.uplinkState = .message) (hcmd : (s.completedHeader b).cmd = MSG_FRAME_CMD)
      (hvalid : validateChecksum (s.completedHeader b).toList = true)
  | idle (hstate : t.uplinkState = .idle)
  | broken (hstate : t.uplinkState = .codePacketChecksum)
      (hheader : t.uplinkBuffer.frameHeader = s.completedHeader b)
      (hcmd : (s.completedHeader b).cmd ≠ MSG_FRAME_CMD)

theorem packetEnd_codePacketChecksumByte (hstate : s.uplinkState = .codePacketChecksum)
    (now : OsalTickCount) (b : UInt8) : s.PacketEnd b (s.codePacketChecksumByte now b).1 := by
  have hkeeps := keepsPacket_processUplinkCodePacket (s := s.setFrameHeader (s.completedHeader b))
    now
  have hfail : ((s.setFrameHeader (s.completedHeader b)).processUplinkCodePacket now).2 ≠ .noError →
      (s.completedHeader b).cmd ≠ MSG_FRAME_CMD := fun hne hcmd =>
    hne (processUplinkCodePacket_message (s := s.setFrameHeader (s.completedHeader b)) hcmd now).1
  by_cases hvalid : validateChecksum (s.completedHeader b).toList = true
  case pos =>
    rw [s.codePacketChecksumByte_of_valid hvalid]
    unfold onSuccess
    split
    case isTrue =>
      dsimp only
      split
      case isTrue hcmd =>
        exact .message rfl ((congrArg LonFrameHeader.cmd hkeeps.header).symm.trans hcmd) hvalid
      case isFalse => exact .idle rfl
    case isFalse hne =>
      exact .broken ((uplinkState_processUplinkCodePacket hne).trans hstate) hkeeps.header
        (hfail hne)
  case neg =>
    rw [s.codePacketChecksumByte_of_not hvalid]
    exact .idle rfl

theorem keepsIndex_codePacketChecksumByte (now : OsalTickCount) (b : UInt8)
    (h : s.uplinkMsgIndex = 0) : (s.codePacketChecksumByte now b).1.uplinkMsgIndex = 0 := by
  have hkeeps := (keepsPacket_processUplinkCodePacket (s := s.setFrameHeader (s.completedHeader b))
    now).index h
  by_cases hvalid : validateChecksum (s.completedHeader b).toList = true
  case pos =>
    rw [s.codePacketChecksumByte_of_valid hvalid]
    change (s.packetHandled now b).1.uplinkMsgIndex = 0 at hkeeps
    generalize s.packetHandled now b = r at hkeeps ⊢
    unfold onSuccess
    split
    case isTrue =>
      dsimp only
      split <;> exact hkeeps
    case isFalse => exact hkeeps
  case neg =>
    rw [s.codePacketChecksumByte_of_not hvalid]
    simp only [packetDropped, setUplinkState, setDownlinkAckSeqNumber, setUplinkFrameError,
      setFrameHeader]
    exact h

end LonUsbLinkState

end LonStack.LonUsb
