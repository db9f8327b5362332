import LonStack.LonUsb.Reception

namespace LonStack.LonUsb

open Lib

namespace LonUsbLinkState

def untimed (s : LonUsbLinkState) : LonUsbLinkState :=
  { s with
    llpTimeout := 0xFFFFFFFF
    uplinkMsgTimer := 0
    downlinkRejectTimer := 0 }

end LonUsbLinkState

def untime {γ : Type} (r : LonUsbLinkState × γ) : LonUsbLinkState × γ := (r.1.untimed, r.2)

theorem untime_ite {γ : Type} {c : Prop} [Decidable c] {p q p' q' : LonUsbLinkState × γ} (hp : c → untime p = p')
    (hq : ¬c → untime q = q') : untime (if c then p else q) = if c then p' else q' := by
  split
  case isTrue h => exact hp h
  case isFalse h => exact hq h

theorem untime_onSuccess {r r' : Outcome} {next next' : LonUsbLinkState → Outcome}
    (hr : untime r = r') (hnext : r.2 = .noError → untime (next r.1) = next' r.1.untimed) :
    untime (onSuccess r next) = onSuccess r' next' := by
  subst hr
  unfold onSuccess
  split
  case isTrue h => exact (hnext h).trans (if_pos h).symm
  case isFalse h => exact (if_neg h).symm

namespace LonUsbLinkState

variable (s : LonUsbLinkState)

theorem untimed_ite {c : Prop} [Decidable c] {t u t' u' : LonUsbLinkState} (ht : c → t.untimed = t')
    (hu : ¬c → u.untimed = u') : (if c then t else u).untimed = if c then t' else u' := by
  split
  case isTrue h => exact ht h
  case isFalse h => exact hu h

theorem untime_queueUplinkBuffer : untime s.queueUplinkBuffer = s.untimed.queueUplinkBuffer := by
  unfold queueUplinkBuffer
  refine untime_ite (fun _ => ?_) fun _ => ?_
  · dsimp only [untimed]
    split <;> rfl
  · dsimp only [untimed]
    split <;> rfl

theorem untime_processUplinkMessage :
    untime s.processUplinkMessage = s.untimed.processUplinkMessage :=
  untime_ite (fun _ => untime_ite (fun _ => rfl) fun _ => rfl) fun _ =>
    untime_ite (fun _ => untime_ite (fun _ => rfl) fun _ => rfl) fun _ => s.untime_queueUplinkBuffer

theorem untimed_handleNiCommand (niCmd : UInt8) :
    (s.handleNiCommand niCmd).untimed = s.untimed.handleNiCommand niCmd :=
  untimed_ite (fun _ => rfl) fun _ => rfl

theorem untime_acceptMessage : untime s.acceptMessage = s.untimed.acceptMessage := by
  have hhandle : s.untimed.handleNiCommand s.untimed.uplinkBuffer.usbNiDataFrame.niCommand =
      (s.handleNiCommand s.uplinkBuffer.usbNiDataFrame.niCommand).untimed :=
    (s.untimed_handleNiCommand _).symm
  unfold acceptMessage
  dsimp only
  rw [hhandle]
  exact untime_ite (fun _ => rfl) fun _ => untime_processUplinkMessage _

theorem untime_checkUplinkCompleted :
    untime s.checkUplinkCompleted = s.untimed.checkUplinkCompleted := by
  have hmessage : untime (if FilteredUplink s.uplinkBuffer.usbNiDataFrame.niCommand then
      (s, .noError) else s.acceptMessage) =
        if FilteredUplink s.untimed.uplinkBuffer.usbNiDataFrame.niCommand then
          (s.untimed, .noError) else s.untimed.acceptMessage :=
    untime_ite (fun _ => rfl) fun _ => s.untime_acceptMessage
  refine untime_ite (fun _ => rfl) fun _ => untime_ite (fun _ => rfl) fun _ =>
    untime_ite (fun _ => ?_) fun _ => rfl
  dsimp only
  rw [← hmessage]
  rfl

def releaseDownlink : LonUsbLinkState :=
  if s.downlinkState = .waitCpAck ∨ s.downlinkState = .waitCpResponse then
    stopAckTimer
      { s with
        downlinkBuffer :=
          { s.downlinkBuffer with
            usbNiDataFrame := s.downlinkBuffer.usbNiDataFrame.setNiCommand 0 } }
  else if s.downlinkState = .waitMsgAck then s.resetDownlinkState
  else s

theorem clearUplinkTransaction_eq :
    s.clearUplinkTransaction =
      { s.releaseDownlink.incrementDownlinkSequence with
        uplinkExpectedRsp := LonNiClearCmd
        uplinkAckTimeoutPhase := 0 } :=
  rfl

theorem untimed_releaseDownlink : s.releaseDownlink.untimed = s.untimed.releaseDownlink :=
  untimed_ite (fun _ => rfl) fun _ => untimed_ite (fun _ => rfl) fun _ => rfl

theorem untimed_clearUplinkTransaction :
    s.clearUplinkTransaction.untimed = s.untimed.clearUplinkTransaction := by
  rw [clearUplinkTransaction_eq, clearUplinkTransaction_eq, ← untimed_releaseDownlink]
  rfl

theorem untime_shortNiCmdCodePacket (parameter sequenceNumber : UInt8) :
    untime (s.shortNiCmdCodePacket parameter sequenceNumber) =
      s.untimed.shortNiCmdCodePacket parameter sequenceNumber := by
  have hrestart (t : LonUsbLinkState) : (t.restartOnReset parameter).untimed =
      t.untimed.restartOnReset parameter := untimed_ite (fun _ => rfl) fun _ => rfl
  have hstore : (((s.setDownlinkAckSeqNumber sequenceNumber.toNat).restartOnReset
      parameter).storeShortNiCmd parameter).untimed =
        ((s.untimed.setDownlinkAckSeqNumber sequenceNumber.toNat).restartOnReset
          parameter).storeShortNiCmd parameter :=
    congrArg (fun t => t.storeShortNiCmd parameter) (hrestart _)
  refine untime_ite (fun _ => rfl) fun _ => untime_ite (fun _ => rfl) fun _ => ?_
  refine untime_onSuccess ?_ fun _ => rfl
  rw [untime_processUplinkMessage, hstore]

theorem untimed_checkSequence (header : LonFrameHeader) :
    (s.checkSequence header).untimed = s.untimed.checkSequence header :=
  untimed_ite (fun _ => rfl) fun _ => rfl

theorem untimed_processAck (header : LonFrameHeader) :
    (s.processAck header).untimed = s.untimed.processAck header :=
  untimed_ite (fun _ => s.untimed_clearUplinkTransaction) fun _ => rfl

def RejectExpired (now : OsalTickCount) : Prop :=
  (s.downlinkState = .waitMsgAck ∨ s.downlinkState = .waitCpAck) ∧ s.downlinkRejectTimer ≠ 0 ∧
    DOWNLINK_WAIT_TIME < now - s.downlinkRejectTimer

instance (now : OsalTickCount) : Decidable (s.RejectExpired now) :=
  inferInstanceAs (Decidable (_ ∧ _ ∧ _))

theorem untime_rejectCodePacket {now : OsalTickCount} (h : ¬s.RejectExpired now) :
    untime (s.rejectCodePacket now) = s.untimed.rejectCodePacket 0 := by
  unfold rejectCodePacket
  refine untime_ite (fun hstate => ?_) fun _ => rfl
  by_cases hzero : s.downlinkRejectTimer = 0
  case pos => exact congrArg untime (if_pos hzero)
  case neg =>
    have hunexpired : ¬DOWNLINK_WAIT_TIME < now - s.downlinkRejectTimer :=
      fun hlt => h ⟨hstate, hzero, hlt⟩
    exact congrArg untime ((if_neg hzero).trans (if_neg hunexpired))

theorem rejectExpired_checkSequence (header : LonFrameHeader) (now : OsalTickCount) :
    (s.checkSequence header).RejectExpired now ↔ s.RejectExpired now := by
  unfold checkSequence RejectExpired
  split <;> rfl

theorem not_rejectExpired_processAck {s : LonUsbLinkState} {now : OsalTickCount}
    (h : s.uplinkBuffer.frameHeader.cmd = MSG_REJECT_FRAME_CMD → ¬s.RejectExpired now)
    (hcmd : s.uplinkBuffer.frameHeader.cmd = MSG_REJECT_FRAME_CMD) :
    ¬((s.checkSequence s.uplinkBuffer.frameHeader).processAck
      s.uplinkBuffer.frameHeader).RejectExpired now := by
  rw [processAck, if_neg fun hack => hack.2.1 (.inr hcmd), rejectExpired_checkSequence]
  exact h hcmd

theorem untime_processUplinkCodePacket {now : OsalTickCount}
    (h : s.uplinkBuffer.frameHeader.cmd = MSG_REJECT_FRAME_CMD → ¬s.RejectExpired now) :
    untime (s.processUplinkCodePacket now) = s.untimed.processUplinkCodePacket 0 := by
  have hack : (s.untimed.checkSequence s.untimed.uplinkBuffer.frameHeader).processAck
      s.untimed.uplinkBuffer.frameHeader =
        ((s.checkSequence s.uplinkBuffer.frameHeader).processAck s.uplinkBuffer.frameHeader).untimed := by
    rw [untimed_processAck, untimed_checkSequence]
    rfl
  have hreject := not_rejectExpired_processAck h
  unfold processUplinkCodePacket
  dsimp only
  rw [hack]
  generalize (s.checkSequence s.uplinkBuffer.frameHeader).processAck s.uplinkBuffer.frameHeader = t at *
  refine untime_ite (fun _ => rfl) fun _ => untime_ite (fun _ => untime_shortNiCmdCodePacket _ _ _)
    fun _ => untime_ite (fun hcmd => untime_rejectCodePacket _ (hreject hcmd)) fun _ =>
    untime_ite (fun _ => ?_) fun _ => untime_ite (fun _ => rfl) fun _ => rfl
  rw [← untimed_clearUplinkTransaction]
  rfl

def completedHeader (b : UInt8) : LonFrameHeader := { s.uplinkBuffer.frameHeader with checksum := b }

def packetHandled (now : OsalTickCount) (b : UInt8) : Outcome :=
  (s.setFrameHeader (s.completedHeader b)).processUplinkCodePacket now

def packetDropped (b : UInt8) : LonUsbLinkState :=
  (((s.setFrameHeader (s.completedHeader b)).setUplinkFrameError true).setDownlinkAckSeqNumber
    NO_ACK_REQUIRED).setUplinkState .idle

theorem codePacketChecksumByte_of_valid {b : UInt8}
    (hvalid : validateChecksum (s.completedHeader b).toList = true) (now : OsalTickCount) :
    s.codePacketChecksumByte now b = onSuccess (s.packetHandled now b) fun s =>
      if s.uplinkBuffer.frameHeader.cmd = MSG_FRAME_CMD then (s.startMessage now, .noError)
      else (s.setUplinkState .idle, .noError) :=
  if_pos hvalid

theorem codePacketChecksumByte_of_not {b : UInt8}
    (hvalid : ¬validateChecksum (s.completedHeader b).toList = true) (now : OsalTickCount) :
    s.codePacketChecksumByte now b = (s.packetDropped b, .noError) :=
  if_neg hvalid

def ExpiresReject (now : OsalTickCount) (b : UInt8) : Prop :=
  s.uplinkState = .codePacketChecksum ∧ (s.completedHeader b).cmd = MSG_REJECT_FRAME_CMD ∧
    s.RejectExpired now

instance (now : OsalTickCount) (b : UInt8) : Decidable (s.ExpiresReject now b) :=
  inferInstanceAs (Decidable (_ ∧ _ ∧ _))

def LateReject (now : OsalTickCount) (b : UInt8) : Prop :=
  s.ExpiresReject now b ∧ validateChecksum (s.completedHeader b).toList = true

instance (now : OsalTickCount) (b : UInt8) : Decidable (s.LateReject now b) :=
  inferInstanceAs (Decidable (_ ∧ _))

theorem untime_codePacketChecksumByte {now : OsalTickCount} {b : UInt8}
    (hstate : s.uplinkState = .codePacketChecksum) (h : ¬s.LateReject now b) :
    untime (s.codePacketChecksumByte now b) = s.untimed.codePacketChecksumByte 0 b := by
  refine untime_ite (fun hvalid => untime_onSuccess ?_ fun _ => ?_) fun _ => rfl
  · exact untime_processUplinkCodePacket _ fun hcmd hexpired => h ⟨⟨hstate, hcmd, hexpired⟩, hvalid⟩
  · exact untime_ite (fun _ => rfl) fun _ => rfl

theorem untimed_unescape (b : UInt8) : (s.unescape b).untimed = s.untimed.unescape b :=
  untimed_ite (fun _ => rfl) fun _ => untimed_ite (fun _ => rfl) fun _ => rfl

theorem untime_escapedDataByte (b : UInt8) :
    untime (s.escapedDataByte b) = s.untimed.escapedDataByte b := by
  unfold escapedDataByte
  rw [← untimed_unescape, ← untime_checkUplinkCompleted]
  rfl

def InMessage : Prop := s.uplinkState = .message ∨ s.uplinkState = .escapedData

def Unexpired (now : OsalTickCount) : Prop := s.InMessage → ¬s.llpTimeout < now - s.uplinkMsgTimer

instance : Decidable s.InMessage := inferInstanceAs (Decidable (_ ∨ _))

instance (now : OsalTickCount) : Decidable (s.Unexpired now) :=
  inferInstanceAs (Decidable (_ → _))

theorem untimed_checkMsgTimer (now : OsalTickCount) : s.untimed.checkMsgTimer now = s.untimed :=
  if_neg fun h => by
    have := UInt32.lt_iff_toNat_lt.mp h.2
    have hmax := (now - s.untimed.uplinkMsgTimer).toNat_lt
    change 4294967295 < _ at this
    omega

theorem untime_messageByte {now : OsalTickCount} (hstate : s.uplinkState = .message)
    (h : s.Unexpired now) (last : Bool) (b : UInt8) :
    untime (s.messageByte now last b) = s.untimed.messageByte 0 false b := by
  have htimely := h (.inl hstate)
  have hstore : s.untimed.storeByte b = (s.storeByte b).untimed := rfl
  have hescape : (s.storeByte b).untimed.setUplinkState .escapedData =
      ((s.storeByte b).setUplinkState .escapedData).untimed := rfl
  unfold messageByte
  rw [hstore]
  dsimp only
  rw [hescape]
  by_cases hb : b = FRAME_SYNC
  case pos =>
    rw [if_pos hb, if_pos hb, checkMsgTimer_of_timely ((s.storeByte b).setUplinkState .escapedData)
      (.inr htimely), untimed_checkMsgTimer]
    rfl
  case neg =>
    have hcheck := (s.storeByte b).uplinkState_checkUplinkCompleted
    have hup := (s.uplinks_storeByte b).trans (uplinks_checkUplinkCompleted _)
    have hnop : (s.storeByte b).checkUplinkCompleted.1.checkMsgTimer now =
        (s.storeByte b).checkUplinkCompleted.1 := by
      refine checkMsgTimer_of_timely _ (hcheck.imp id fun htimer => ?_)
      rw [hup.llpTimeout, htimer.1]
      exact htimely
    rw [if_neg hb, if_neg hb, ← untime_checkUplinkCompleted]
    generalize (s.storeByte b).checkUplinkCompleted = c at *
    obtain ⟨t, status, completed⟩ := c
    dsimp only [untime] at hnop ⊢
    rw [hnop, untimed_checkMsgTimer]
    by_cases hstatus : status = .noError
    case pos =>
      subst hstatus
      cases completed <;> cases last <;> rfl
    case neg =>
      rw [if_pos hstatus]
      exact (if_pos hstatus).symm

theorem untime_processUplinkByte {now : OsalTickCount} {b : UInt8} (h : s.Unexpired now)
    (hreject : ¬s.LateReject now b) (last : Bool) :
    untime (s.processUplinkByte now last b) = s.untimed.processUplinkByte 0 false b := by
  have hstate : s.untimed.uplinkState = s.uplinkState := rfl
  unfold processUplinkByte
  rw [hstate]
  cases hcase : s.uplinkState with
  | idle => exact congrArg (·, LonStatusCode.noError) (untimed_ite (fun _ => rfl) fun _ => rfl)
  | frameCode =>
    refine congrArg (·, LonStatusCode.noError) ?_
    exact untimed_ite (fun _ => rfl) fun _ => untimed_ite (fun _ => rfl) fun _ =>
      untimed_ite (fun _ => rfl) fun _ => rfl
  | frameParameter => rfl
  | codePacketChecksum => exact s.untime_codePacketChecksumByte hcase hreject
  | message => exact s.untime_messageByte hcase h last b
  | escapedData => exact s.untime_escapedDataByte b

end LonUsbLinkState

end LonStack.LonUsb
