import LonStack.LonUsb.Downlink
import LonStack.LonUsb.Requests

namespace LonStack.LonUsb

open Lib

namespace LonFrameHeader

variable (h : LonFrameHeader) (value : UInt8)

theorem or_and_distrib (a b c : UInt8) : (a ||| b) &&& c = a &&& c ||| b &&& c :=
  UInt8.toBitVec_inj.mp BitVec.and_or_distrib_right

@[simp] theorem cmd_setSeq : (h.setSeq value).cmd = h.cmd := by
  unfold setSeq cmd
  dsimp only
  rw [or_and_distrib, UInt8.and_assoc, UInt8.and_assoc]
  exact (congrArg (_ ||| ·) UInt8.and_zero).trans UInt8.or_zero

@[simp] theorem cmd_setAck : (h.setAck value).cmd = h.cmd := by
  unfold setAck cmd
  dsimp only
  rw [or_and_distrib, UInt8.and_assoc, UInt8.and_assoc]
  exact (congrArg (_ ||| ·) UInt8.and_zero).trans UInt8.or_zero

end LonFrameHeader

namespace LonUsbLinkState

variable (s : LonUsbLinkState)

def nextEntry : Option LonUsbQueueBuffer :=
  if s.lonUsbDownlinkPriorityQueue.empty then s.lonUsbDownlinkNormalQueue.peek
  else s.lonUsbDownlinkPriorityQueue.peek

structure TakesLocalNiCmd (entry : LonUsbQueueBuffer) : Prop where
  u50 : s.lonUsbIfaceType = .u50
  taken : s.nextEntry = some entry
  whole : LonUsbQueueBuffer.usbNiDataFrameOffset + 2 ≤ entry.bufSize
  length : entry.usbNiDataFrame.shortPduLength = 1
  notL5 : entry.usbNiDataFrame.niCommand ≠ LonNiSetL5ModeCmd
  notL2 : entry.usbNiDataFrame.niCommand ≠ LonNiSetL2ModeCmd

structure SendsLocalNiCmd (now : OsalTickCount) (cmd : UInt8) : Prop where
  packet : ∃ header : LonFrameHeader, header.cmd = SHORT_NI_CMD_FRAME_CMD ∧ header.parameter = cmd ∧
    (s.processNextDownlinkMessage now).1.usbOut = s.sendAck.usbOut ++ header.toList
  expectedRsp : (s.processNextDownlinkMessage now).1.uplinkExpectedRsp = getExpectedResponse cmd

variable {s} {entry : LonUsbQueueBuffer}

theorem nextEntry_sendAck : s.sendAck.nextEntry = s.nextEntry := by
  unfold sendAck
  split
  case isTrue =>
    unfold writeDownlinkCodePacket
    split <;> split <;> rfl
  case isFalse => rfl

theorem readDownlinkBuffer_of_nextEntry (h : s.nextEntry = some entry) :
    s.readDownlinkBuffer.2 = .noError ∧
      s.readDownlinkBuffer.1.downlinkBuffer = s.downlinkBuffer.memcpy entry entry.bufSize ∧
      s.readDownlinkBuffer.1.downlinkBufferStaging = s.downlinkBufferStaging ∧
      s.readDownlinkBuffer.1.lonUsbIfaceType = s.lonUsbIfaceType ∧
      s.readDownlinkBuffer.1.usbOut = s.usbOut := by
  unfold nextEntry at h
  unfold readDownlinkBuffer
  split at h
  case isTrue he =>
    rw [if_pos he, h]
    exact ⟨rfl, rfl, rfl, rfl, rfl⟩
  case isFalse he =>
    rw [if_neg he, h]
    exact ⟨rfl, rfl, rfl, rfl, rfl⟩

theorem cmd_codePacket (frameCmd parameter : UInt8) :
    (s.codePacket frameCmd parameter).cmd = frameCmd &&& 0x0F := by
  have hcmd : ((⟨FRAME_SYNC, 0, 0, 0⟩ : LonFrameHeader).setCmd frameCmd).cmd = frameCmd &&& 0x0F := by
    unfold LonFrameHeader.setCmd LonFrameHeader.cmd
    dsimp only
    rw [UInt8.zero_and, UInt8.zero_or, UInt8.and_assoc]
    rfl
  have hack (h : LonFrameHeader) (c : Prop) [Decidable c] :
      (if c then h.setAck 1 else h).cmd = h.cmd := by
    split
    case isTrue => exact h.cmd_setAck 1
    case isFalse => rfl
  refine (hack _ _).trans (Eq.trans ?_ hcmd)
  split
  case isTrue => exact LonFrameHeader.cmd_setSeq _ _
  case isFalse =>
    split
    case isTrue => exact LonFrameHeader.cmd_setSeq _ _
    case isFalse => rfl

theorem usbOut_writeDownlinkCodePacket (frameCmd parameter : UInt8) :
    (s.writeDownlinkCodePacket frameCmd parameter).usbOut =
      s.usbOut ++ (s.codePacket frameCmd parameter).toList := by
  unfold writeDownlinkCodePacket
  split <;> split <;> rfl

theorem uplinkExpectedRsp_writeDownlinkCodePacket (frameCmd parameter : UInt8) :
    (s.writeDownlinkCodePacket frameCmd parameter).uplinkExpectedRsp = s.uplinkExpectedRsp := by
  unfold writeDownlinkCodePacket
  split <;> split <;> rfl

theorem writeDownlinkLocalNiCmd_spec (now : OsalTickCount) :
    (∃ header : LonFrameHeader, header.cmd = SHORT_NI_CMD_FRAME_CMD ∧
      header.parameter = s.downlinkBufferStaging.usbNiDataFrame.niCommand ∧
      (s.writeDownlinkLocalNiCmd now).usbOut = s.usbOut ++ header.toList) ∧
      (s.writeDownlinkLocalNiCmd now).uplinkExpectedRsp =
        getExpectedResponse s.downlinkBufferStaging.usbNiDataFrame.niCommand := by
  unfold writeDownlinkLocalNiCmd
  dsimp only
  generalize s.downlinkBufferStaging.usbNiDataFrame.niCommand = cmd
  have hout := usbOut_writeDownlinkCodePacket
    (s := { s with uplinkExpectedRsp := getExpectedResponse cmd }) SHORT_NI_CMD_FRAME_CMD cmd
  have hrsp := uplinkExpectedRsp_writeDownlinkCodePacket
    (s := { s with uplinkExpectedRsp := getExpectedResponse cmd }) SHORT_NI_CMD_FRAME_CMD cmd
  have hcmd := cmd_codePacket
    (s := { s with uplinkExpectedRsp := getExpectedResponse cmd }) SHORT_NI_CMD_FRAME_CMD cmd
  split
  case isTrue => exact ⟨⟨_, hcmd, rfl, hout⟩, hrsp⟩
  case isFalse => exact ⟨⟨_, hcmd, rfl, hout⟩, hrsp⟩

theorem processNextDownlinkMessage_of_localNiCmd (h : s.TakesLocalNiCmd entry)
    (now : OsalTickCount) :
    ∃ t : LonUsbLinkState, t.downlinkBufferStaging = s.downlinkBufferStaging ∧
      t.usbOut = s.sendAck.usbOut ∧
      (s.processNextDownlinkMessage now).1 = t.writeDownlinkLocalNiCmd now := by
  obtain ⟨hok, hbuffer, hstaging, htype, hout⟩ :=
    readDownlinkBuffer_of_nextEntry (nextEntry_sendAck.trans h.taken)
  have hack : s.sendAck.downlinkBufferStaging = s.downlinkBufferStaging ∧
      s.sendAck.lonUsbIfaceType = s.lonUsbIfaceType := by
    unfold sendAck
    split
    case isTrue =>
      unfold writeDownlinkCodePacket
      split <;> split <;> exact ⟨rfl, rfl⟩
    case isFalse => exact ⟨rfl, rfl⟩
  have hbyte (k : Nat) (hk : k < 2) : s.sendAck.readDownlinkBuffer.1.downlinkBuffer.usbNiDataFrame.image k =
      entry.usbNiDataFrame.image k := by
    have hwhole : 24 + 2 ≤ entry.bufSize := h.whole
    rw [hbuffer]
    exact LonUsbQueueBuffer.image_memcpy_of_lt _ _ (by omega)
  have hlocal : s.sendAck.readDownlinkBuffer.1.LocalNiCmd := by
    refine ⟨htype.trans (hack.2.trans h.u50), (hbyte 0 (by decide)).trans h.length, ?_, ?_⟩
    · exact fun heq => h.notL5 ((hbyte 1 (by decide)).symm.trans heq)
    · exact fun heq => h.notL2 ((hbyte 1 (by decide)).symm.trans heq)
  refine ⟨s.sendAck.readDownlinkBuffer.1.resetDownlinkState, hstaging.trans hack.1, hout, ?_⟩
  have hsome : s.sendAck.readDownlinkBuffer.2 ≠ .noBufferAvailable := by
    rw [hok]
    decide
  unfold processNextDownlinkMessage
  dsimp only
  rw [if_neg hsome, onSuccess, if_pos hok, writeDownlinkBuffer, if_pos hlocal]

/-- The command that is sent is the one that was taken exactly when it is also the one that was
staged last. -/
theorem sendsLocalNiCmd_iff (h : s.TakesLocalNiCmd entry) (now : OsalTickCount) :
    s.SendsLocalNiCmd now entry.usbNiDataFrame.niCommand ↔
      s.downlinkBufferStaging.usbNiDataFrame.niCommand = entry.usbNiDataFrame.niCommand := by
  obtain ⟨t, hstaging, hout, hnext⟩ := processNextDownlinkMessage_of_localNiCmd h now
  obtain ⟨⟨sent, hcmd, hparameter, hsent⟩, hrsp⟩ := t.writeDownlinkLocalNiCmd_spec now
  rw [hstaging] at hparameter hrsp
  rw [hout] at hsent
  constructor
  · rintro ⟨⟨header, -, hentry, hwritten⟩, -⟩
    rw [hnext, hsent] at hwritten
    have hbytes := List.append_cancel_left hwritten
    have hsame : sent.parameter = header.parameter := by
      unfold LonFrameHeader.toList at hbytes
      exact (List.cons.inj (List.cons.inj (List.cons.inj hbytes).2).2).1
    rw [← hparameter, hsame, hentry]
  · intro hsame
    rw [hsame] at hparameter hrsp
    exact ⟨⟨sent, hcmd, hparameter, by rw [hnext, hsent]⟩, by rw [hnext, hrsp]⟩

def statusQueued : LonUsbLinkState :=
  (writeLonUsbMsg { initIfaceStates fun _ => .zero with shutdown := false } MsgStatus).1

def statusEntry : LonUsbQueueBuffer := (statusQueued.nextEntry).getD .zero

theorem sendsLocalNiCmd_iff_status :
    statusQueued.SendsLocalNiCmd 0 statusEntry.usbNiDataFrame.niCommand ↔
      statusQueued.downlinkBufferStaging.usbNiDataFrame.niCommand =
        statusEntry.usbNiDataFrame.niCommand :=
  sendsLocalNiCmd_iff ⟨rfl, rfl, by decide, by decide, by decide, by decide⟩ 0

def messageQueued : LonUsbLinkState := (statusQueued.writeLonUsbMsg MsgUniqueId).1

theorem not_sendsLocalNiCmd :
    ¬∀ (s : LonUsbLinkState) (entry : LonUsbQueueBuffer) (now : OsalTickCount),
      s.TakesLocalNiCmd entry → s.SendsLocalNiCmd now entry.usbNiDataFrame.niCommand := by
  intro hall
  have hsends := hall messageQueued statusEntry 0
    ⟨rfl, rfl, by decide, by decide, by decide, by decide⟩
  exact absurd hsends.expectedRsp (by decide)

end LonUsbLinkState

end LonStack.LonUsb
