import Mathlib.Tactic.IntervalCases
import LonStack.LonUsb.Message
import LonStack.PduLaws

namespace LonStack.LonUsb

open Lib

structure KeepsMessage (s t : LonUsbLinkState) : Prop where
  uplinks : Uplinks s t
  index : t.uplinkMsgIndex = s.uplinkMsgIndex
  frame : t.uplinkBuffer.usbNiDataFrame = s.uplinkBuffer.usbNiDataFrame
  waitForUid : t.waitForUid = s.waitForUid
  waitForStatus : t.waitForStatus = s.waitForStatus
  queue : t.lonUsbUplinkNormalQueue = s.lonUsbUplinkNormalQueue

namespace KeepsMessage

variable {s t u : LonUsbLinkState}

theorem refl (s : LonUsbLinkState) : KeepsMessage s s := ⟨.refl s, rfl, rfl, rfl, rfl, rfl⟩

theorem trans (hst : KeepsMessage s t) (htu : KeepsMessage t u) : KeepsMessage s u where
  uplinks := hst.uplinks.trans htu.uplinks
  index := htu.index.trans hst.index
  frame := htu.frame.trans hst.frame
  waitForUid := htu.waitForUid.trans hst.waitForUid
  waitForStatus := htu.waitForStatus.trans hst.waitForStatus
  queue := htu.queue.trans hst.queue

theorem setFrameHeader (s : LonUsbLinkState) (header : LonFrameHeader) :
    KeepsMessage s (s.setFrameHeader header) :=
  ⟨s.uplinks_setFrameHeader header, rfl, rfl, rfl, rfl, rfl⟩

theorem setUplinkState (s : LonUsbLinkState) (state : UplinkState) :
    KeepsMessage s (s.setUplinkState state) :=
  ⟨s.uplinks_setUplinkState state, rfl, rfl, rfl, rfl, rfl⟩

theorem setUplinkFrameError (s : LonUsbLinkState) (error : Bool) :
    KeepsMessage s (s.setUplinkFrameError error) :=
  ⟨.of_eq rfl rfl rfl rfl rfl rfl, rfl, rfl, rfl, rfl, rfl⟩

theorem checkSequence (s : LonUsbLinkState) (header : LonFrameHeader) :
    KeepsMessage s (s.checkSequence header) := by
  refine ⟨s.uplinks_checkSequence header, ?_, ?_, ?_, ?_, ?_⟩ <;>
    (unfold LonUsbLinkState.checkSequence; split <;> rfl)

theorem clearUplinkTransaction (s : LonUsbLinkState) : KeepsMessage s s.clearUplinkTransaction := by
  refine ⟨s.uplinks_clearUplinkTransaction, ?_, ?_, ?_, ?_, ?_⟩ <;>
    (unfold LonUsbLinkState.clearUplinkTransaction; dsimp only
     unfold LonUsbLinkState.incrementDownlinkSequence; dsimp only
     split
     case isTrue => rfl
     case isFalse => split <;> rfl)

theorem processAck (s : LonUsbLinkState) (header : LonFrameHeader) :
    KeepsMessage s (s.processAck header) := by
  unfold LonUsbLinkState.processAck
  split
  case isTrue => exact clearUplinkTransaction s
  case isFalse => exact refl s

end KeepsMessage

def codePacketBytes (frameCode parameter : UInt8) : List UInt8 :=
  [FRAME_SYNC, frameCode, parameter, -computeChecksum [FRAME_SYNC, frameCode, parameter]]

theorem validateChecksum_append (bytes : List UInt8) :
    validateChecksum (bytes ++ [-computeChecksum bytes]) = true := by
  unfold validateChecksum computeChecksum
  rw [List.foldl_append, List.foldl_cons, List.foldl_nil, beq_iff_eq]
  exact UInt8.add_right_neg _

theorem frameCode_setCmd_setSeq_setAck (h : LonFrameHeader) (ack seq cmd : UInt8) :
    (((h.setAck ack).setSeq seq).setCmd cmd).frameCode =
      ((ack <<< 4) &&& (0x10 : UInt8)) ||| ((seq <<< 5) &&& (0xE0 : UInt8)) |||
        (cmd &&& (0x0F : UInt8)) := by
  unfold LonFrameHeader.setCmd LonFrameHeader.setSeq LonFrameHeader.setAck
  dsimp only
  apply UInt8.toBitVec_inj.1
  apply BitVec.eq_of_getLsbD_eq
  intro i hi
  simp only [UInt8.toBitVec_or, UInt8.toBitVec_and, BitVec.getLsbD_or, BitVec.getLsbD_and]
  interval_cases i <;> simp

theorem frameCode_of_fields (code : UInt8) :
    (((if code &&& 0x10 ≠ 0 then (1 : UInt8) else 0) <<< 4) &&& (0x10 : UInt8)) |||
      ((((code >>> 5) &&& (0x07 : UInt8)) <<< 5) &&& (0xE0 : UInt8)) |||
      ((code &&& (0x0F : UInt8)) &&& (0x0F : UInt8)) = code :=
  forall_byte (P := fun code =>
    (((if code &&& 0x10 ≠ 0 then (1 : UInt8) else 0) <<< 4) &&& (0x10 : UInt8)) |||
      ((((code >>> 5) &&& (0x07 : UInt8)) <<< 5) &&& (0xE0 : UInt8)) |||
      ((code &&& (0x0F : UInt8)) &&& (0x0F : UInt8)) = code) (by decide +kernel) code

namespace LonUsbLinkState

variable {s : LonUsbLinkState}

theorem idleByte_sync :
    s.idleByte FRAME_SYNC =
      ((s.setFrameHeader { s.uplinkBuffer.frameHeader with frameSync := FRAME_SYNC }).setUplinkState
        .frameCode).setUplinkFrameError false :=
  if_pos rfl

theorem frameCodeByte_u50 (h : s.lonUsbIfaceType = .u50) (now : OsalTickCount) (code : UInt8) :
    s.frameCodeByte now code =
      (s.setFrameHeader { s.uplinkBuffer.frameHeader with frameCode := code }).setUplinkState
        .frameParameter := by
  have hcode := (frameCode_setCmd_setSeq_setAck s.uplinkBuffer.frameHeader
    (if code &&& 0x10 ≠ 0 then 1 else 0) ((code >>> 5) &&& 0x07) (code &&& 0x0F)).trans
    (frameCode_of_fields code)
  have hheader : ((s.uplinkBuffer.frameHeader.setAck (if code &&& 0x10 ≠ 0 then 1 else 0)).setSeq
      ((code >>> 5) &&& 0x07)).setCmd (code &&& 0x0F) =
        { s.uplinkBuffer.frameHeader with frameCode := code } :=
    congrArg (fun c => { s.uplinkBuffer.frameHeader with frameCode := c }) hcode
  rw [frameCodeByte, if_pos h]
  exact congrArg (fun header => (s.setFrameHeader header).setUplinkState .frameParameter) hheader

theorem uplinkBuffer_processAck_checkSequence (header : LonFrameHeader) :
    ((s.checkSequence header).processAck header).uplinkBuffer = s.uplinkBuffer := by
  have hseq : (s.checkSequence header).uplinkBuffer = s.uplinkBuffer := by
    unfold checkSequence
    split <;> rfl
  rw [← hseq]
  generalize s.checkSequence header = t
  rw [processAck]
  split
  case isTrue =>
    unfold clearUplinkTransaction
    dsimp only
    split
    case isTrue => rfl
    case isFalse => split <;> rfl
  case isFalse => rfl

theorem processUplinkCodePacket_message (h : s.uplinkBuffer.frameHeader.cmd = MSG_FRAME_CMD)
    (now : OsalTickCount) :
    (s.processUplinkCodePacket now).2 = .noError ∧
      (s.processUplinkCodePacket now).1.uplinkBuffer = s.uplinkBuffer ∧
      KeepsMessage s (s.processUplinkCodePacket now).1 := by
  have hack := (KeepsMessage.checkSequence s s.uplinkBuffer.frameHeader).trans
    (.processAck _ s.uplinkBuffer.frameHeader)
  have hbuffer := s.uplinkBuffer_processAck_checkSequence s.uplinkBuffer.frameHeader
  unfold processUplinkCodePacket
  dsimp only
  rw [if_pos h]
  exact ⟨rfl, hbuffer, hack.trans ⟨.of_eq rfl rfl rfl rfl rfl rfl, rfl, rfl, rfl, rfl, rfl⟩⟩

theorem codePacketChecksumByte_message (hcmd : s.uplinkBuffer.frameHeader.cmd = MSG_FRAME_CMD)
    (now : OsalTickCount) {b : UInt8}
    (hb : b = -computeChecksum [s.uplinkBuffer.frameHeader.frameSync,
      s.uplinkBuffer.frameHeader.frameCode, s.uplinkBuffer.frameHeader.parameter]) :
    ∃ t, s.codePacketChecksumByte now b = (t, .noError) ∧ KeepsMessage s t ∧
      t.uplinkState = .message ∧ t.uplinkMsgTimer = now := by
  have hvalid := validateChecksum_append [s.uplinkBuffer.frameHeader.frameSync,
    s.uplinkBuffer.frameHeader.frameCode, s.uplinkBuffer.frameHeader.parameter]
  rw [← hb] at hvalid
  generalize hheader : ({ s.uplinkBuffer.frameHeader with checksum := b } : LonFrameHeader) = header
  have hcmd' : header.cmd = MSG_FRAME_CMD := by
    rw [← hheader]
    exact hcmd
  have hvalid' : validateChecksum header.toList = true := by
    rw [← hheader]
    exact hvalid
  have hset := KeepsMessage.setFrameHeader s header
  obtain ⟨hstatus, hbuffer, hpacket⟩ := processUplinkCodePacket_message
    (s := s.setFrameHeader header) hcmd' now
  refine ⟨((s.setFrameHeader header).processUplinkCodePacket now).1.startMessage now, ?_,
    (hset.trans hpacket).trans ⟨.of_eq rfl rfl rfl rfl rfl rfl, rfl, rfl, rfl, rfl, rfl⟩, rfl, rfl⟩
  unfold codePacketChecksumByte
  dsimp only
  rw [hheader, if_pos (show validateChecksum
    (s.setFrameHeader header).uplinkBuffer.frameHeader.toList = true from hvalid'), onSuccess,
    if_pos hstatus, if_pos (by rw [hbuffer]; exact hcmd')]

end LonUsbLinkState

section Arrive

variable {s : LonUsbLinkState} (x : Arrival)

theorem arrive_idle (h : s.uplinkState = .idle) :
    arrive (s, .noError) x = (s.idleByte x.byte, .noError) := by
  rw [arrive, onSuccess_noError, LonUsbLinkState.processUplinkByte]
  simp only [h]

theorem arrive_frameCode (h : s.uplinkState = .frameCode) :
    arrive (s, .noError) x = (s.frameCodeByte x.now x.byte, .noError) := by
  rw [arrive, onSuccess_noError, LonUsbLinkState.processUplinkByte]
  simp only [h]

theorem arrive_frameParameter (h : s.uplinkState = .frameParameter) :
    arrive (s, .noError) x = (s.frameParameterByte x.byte, .noError) := by
  rw [arrive, onSuccess_noError, LonUsbLinkState.processUplinkByte]
  simp only [h]

theorem arrive_codePacketChecksum (h : s.uplinkState = .codePacketChecksum) :
    arrive (s, .noError) x = s.codePacketChecksumByte x.now x.byte := by
  rw [arrive, onSuccess_noError, LonUsbLinkState.processUplinkByte]
  simp only [h]

end Arrive

theorem arrive_codePacket {r : LonUsbLinkState} (hidle : r.uplinkState = .idle)
    (hu50 : r.lonUsbIfaceType = .u50) {code parameter : UInt8}
    (hcmd : code &&& 0x0F = MSG_FRAME_CMD) {xs : List Arrival}
    (hxs : xs.map Arrival.byte = codePacketBytes code parameter) :
    ∃ t x, xs.getLast? = some x ∧ xs.foldl arrive (r, .noError) = (t, .noError) ∧
      KeepsMessage r t ∧ t.uplinkState = .message ∧ t.uplinkMsgTimer = x.now := by
  obtain ⟨x₁, xs, rfl, h₁, hxs⟩ := List.map_eq_cons_iff.mp hxs
  obtain ⟨x₂, xs, rfl, h₂, hxs⟩ := List.map_eq_cons_iff.mp hxs
  obtain ⟨x₃, xs, rfl, h₃, hxs⟩ := List.map_eq_cons_iff.mp hxs
  obtain ⟨x₄, xs, rfl, h₄, hxs⟩ := List.map_eq_cons_iff.mp hxs
  rw [List.map_eq_nil_iff] at hxs
  subst hxs
  let s₁ := ((r.setFrameHeader { r.uplinkBuffer.frameHeader with frameSync := FRAME_SYNC
    }).setUplinkState .frameCode).setUplinkFrameError false
  let s₂ := (s₁.setFrameHeader { s₁.uplinkBuffer.frameHeader with frameCode := code
    }).setUplinkState .frameParameter
  have hsync : arrive (r, .noError) x₁ = (s₁, .noError) := by
    rw [arrive_idle x₁ hidle, h₁, LonUsbLinkState.idleByte_sync]
  have hcode : arrive (s₁, .noError) x₂ = (s₂, .noError) := by
    rw [arrive_frameCode x₂ rfl, h₂, LonUsbLinkState.frameCodeByte_u50 (s := s₁) hu50]
  have hparameter : arrive (s₂, .noError) x₃ = (s₂.frameParameterByte parameter, .noError) := by
    rw [arrive_frameParameter x₃ rfl, h₃]
  have hkeeps : KeepsMessage r (s₂.frameParameterByte parameter) :=
    (((KeepsMessage.setFrameHeader r _).trans (.setUplinkState _ _)).trans
      (.setUplinkFrameError _ _)).trans (((KeepsMessage.setFrameHeader s₁ _).trans
      (.setUplinkState _ _)).trans ((KeepsMessage.setFrameHeader s₂ _).trans (.setUplinkState _ _)))
  obtain ⟨t, ht, hpacket, hstate, htimer⟩ := LonUsbLinkState.codePacketChecksumByte_message
    (s := s₂.frameParameterByte parameter) hcmd x₄.now h₄
  have hchecksum : arrive (s₂.frameParameterByte parameter, .noError) x₄ = (t, .noError) :=
    (arrive_codePacketChecksum x₄ rfl).trans ht
  refine ⟨t, x₄, rfl, ?_, hkeeps.trans hpacket, hstate, htimer⟩
  rw [List.foldl_cons, hsync, List.foldl_cons, hcode, List.foldl_cons, hparameter, List.foldl_cons,
    hchecksum, List.foldl_nil]

end LonStack.LonUsb
