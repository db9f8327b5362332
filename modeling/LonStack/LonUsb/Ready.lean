import LonStack.LonUsb.InBuffer

namespace LonStack.LonUsb

open Lib

namespace DownlinkState

def Serving (d : DownlinkState) : Prop :=
  d = .idle ∨ d = .waitCpAck ∨ d = .waitMsgAck ∨ d = .waitCpResponse

instance (d : DownlinkState) : Decidable d.Serving := inferInstanceAs (Decidable (_ ∨ _ ∨ _ ∨ _))

def Settled (d : DownlinkState) : Prop := idleStart.ctorIdx ≤ d.ctorIdx

instance (d : DownlinkState) : Decidable d.Settled := inferInstanceAs (Decidable (_ ≤ _))

theorem Serving.settled {d : DownlinkState} (h : d.Serving) : d.Settled := by
  obtain rfl | rfl | rfl | rfl := h <;> decide

end DownlinkState

namespace LonUsbLinkState

/-- What may happen to the readiness of a link. Where an answer can come, a status is taken while
one is awaited, and a report of a reset restarts the link or changes its mode. -/
structure Operates (answer report : Prop) (s t : LonUsbLinkState) : Prop where
  ready : t.ready = s.ready
  status : (t.waitForStatus = s.waitForStatus ∧ t.haveStatus = s.haveStatus) ∨
    (answer ∧ s.waitForStatus = true ∧ t.waitForStatus = false)
  state : t.downlinkState = s.downlinkState ∨
    (s.downlinkState.Settled ∧ t.downlinkState.Serving) ∨ (report ∧ t.downlinkState = .start)
  mode : t.currentIfaceMode = s.currentIfaceMode ∨ (answer ∧ s.waitForStatus = true) ∨ report

namespace Operates

variable {answer report : Prop} {s t u : LonUsbLinkState}

theorem of_eq (ready : t.ready = s.ready) (waiting : t.waitForStatus = s.waitForStatus)
    (known : t.haveStatus = s.haveStatus) (state : t.downlinkState = s.downlinkState)
    (mode : t.currentIfaceMode = s.currentIfaceMode) : Operates answer report s t :=
  ⟨ready, .inl ⟨waiting, known⟩, .inl state, .inl mode⟩

theorem refl (s : LonUsbLinkState) : Operates answer report s s := .of_eq rfl rfl rfl rfl rfl

theorem trans (hst : Operates answer report s t) (htu : Operates answer report t u) : Operates answer report s u where
  ready := htu.ready.trans hst.ready
  status := by
    cases hst.status with
    | inl hs =>
      cases htu.status with
      | inl ht => exact .inl ⟨ht.1.trans hs.1, ht.2.trans hs.2⟩
      | inr ht => exact .inr ⟨ht.1, hs.1.symm.trans ht.2.1, ht.2.2⟩
    | inr hs =>
      cases htu.status with
      | inl ht => exact .inr ⟨hs.1, hs.2.1, ht.1.trans hs.2.2⟩
      | inr ht => exact .inr ⟨hs.1, hs.2.1, ht.2.2⟩
  state := by
    cases htu.state with
    | inl ht =>
      rw [ht]
      exact hst.state
    | inr ht =>
      refine .inr (ht.imp (fun ht => ⟨?_, ht.2⟩) id)
      obtain hs | hs | hs := hst.state
      · rw [← hs]
        exact ht.1
      · exact hs.1
      · rw [hs.2] at ht
        exact absurd ht.1 (by decide)
  mode := by
    cases htu.mode with
    | inl ht =>
      rw [ht]
      exact hst.mode
    | inr ht =>
      refine .inr (ht.imp (fun ht => ⟨ht.1, ?_⟩) id)
      cases hst.status with
      | inl hs => exact hs.1.symm.trans ht.2
      | inr hs => exact hs.2.1

theorem mono {report' : Prop} (h : Operates answer report s t) (himp : report → report') :
    Operates answer report' s t where
  ready := h.ready
  status := h.status
  state := h.state.imp id (Or.imp id (And.imp himp id))
  mode := h.mode.imp id (Or.imp id himp)

theorem ite {c : Prop} [Decidable c] (ht : c → Operates answer report s t)
    (hu : ¬c → Operates answer report s u) : Operates answer report s (if c then t else u) := by
  split
  case isTrue h => exact ht h
  case isFalse h => exact hu h

theorem ite_fst {γ : Type} {c : Prop} [Decidable c] {p q : LonUsbLinkState × γ}
    (hp : c → Operates answer report s p.1) (hq : ¬c → Operates answer report s q.1) :
    Operates answer report s (if c then p else q).1 := by
  split
  case isTrue h => exact hp h
  case isFalse h => exact hq h

theorem onSuccess {r : Outcome} {next : LonUsbLinkState → Outcome} (hr : Operates answer report s r.1)
    (hnext : ∀ t, Operates answer report t (next t).1) : Operates answer report s (LonUsb.onSuccess r next).1 :=
  hr.trans (.ite_fst (fun _ => hnext _) fun _ => .refl _)

end Operates

variable (s : LonUsbLinkState) {answer report : Prop}

theorem operates_writeDownlinkCodePacket (frameCmd parameter : UInt8) :
    Operates answer report s (s.writeDownlinkCodePacket frameCmd parameter) := by
  have hack : Operates answer report s (if NO_ACK_REQUIRED < s.downlinkAckSeqNumber then
      { s with downlinkAckSeqNumber := NO_ACK_REQUIRED } else s) :=
    .ite (fun _ => .of_eq rfl rfl rfl rfl rfl) fun _ => .refl s
  exact hack.trans (.ite (fun _ => .of_eq rfl rfl rfl rfl rfl) fun _ => .of_eq rfl rfl rfl rfl rfl)

theorem operates_stopAckTimer : Operates answer report s s.stopAckTimer := by
  refine ⟨rfl, .inl ⟨rfl, rfl⟩, ?_, .inl rfl⟩
  change (if DownlinkState.idle.ctorIdx < s.downlinkState.ctorIdx then .idle
    else s.downlinkState) = _ ∨ _
  split
  case isTrue h =>
    refine .inr (.inl ⟨?_, ?_⟩)
    · exact Nat.le_of_lt (Nat.lt_trans (by decide) h)
    · change DownlinkState.Serving (if _ then _ else _)
      rw [if_pos h]
      decide
  case isFalse => exact .inl rfl

theorem operates_resetDownlinkState : Operates answer report s s.resetDownlinkState :=
  (Operates.of_eq rfl rfl rfl rfl rfl : Operates answer report s
    { s with
      downlinkBuffer := if 0 < s.downlinkBuffer.bufSize then .zero else s.downlinkBuffer
      downlinkRejectTimer := 0 }).trans (operates_stopAckTimer _)

theorem operates_startAckTimer (now : OsalTickCount) {nextState : DownlinkState}
    (h : s.downlinkState.Settled) (hnext : nextState.Serving) :
    Operates answer report s (s.startAckTimer now nextState) :=
  ⟨rfl, .inl ⟨rfl, rfl⟩, .inr (.inl ⟨h, hnext⟩), .inl rfl⟩

theorem operates_queueDownlinkBuffer (src : LonUsbQueueBuffer) :
    Operates answer report s (s.queueDownlinkBuffer src).1 := by
  unfold queueDownlinkBuffer
  split <;> split <;> exact .of_eq rfl rfl rfl rfl rfl

theorem operates_stage (f : LonDataFrame) : Operates answer report s (s.stage f).1 :=
  .ite_fst (fun _ => .ite_fst (fun _ => .of_eq rfl rfl rfl rfl rfl)
    fun _ => .of_eq rfl rfl rfl rfl rfl) fun _ =>
    .ite_fst (fun _ => .of_eq rfl rfl rfl rfl rfl) fun _ => .of_eq rfl rfl rfl rfl rfl

theorem operates_writeLonUsbMsg (f : LonDataFrame) : Operates answer report s (s.writeLonUsbMsg f).1 := by
  have hstage : Operates answer report s (s.stage f).1 := s.operates_stage f
  refine .ite_fst (fun _ => .refl s) fun _ => .ite_fst (fun _ => ?_) fun _ => .refl s
  generalize s.stage f = r at hstage ⊢
  obtain ⟨t, status⟩ := r
  have hpriority : Operates answer report t { t with
      downlinkBufferStaging := { t.downlinkBufferStaging with priority := f.priority } } :=
    .of_eq rfl rfl rfl rfl rfl
  exact (hstage.trans hpriority).trans
    (.ite_fst (fun _ => operates_queueDownlinkBuffer _ _) fun _ => .refl _)

theorem operates_writeDownlinkMessage (now : OsalTickCount) :
    Operates answer report s (s.writeDownlinkMessage now).1 := by
  have hack : Operates answer report s { s with downlinkAckSeqNumber := ACK_WITH_NEXT_SEQ_NUM } :=
    .of_eq rfl rfl rfl rfl rfl
  have hannounce : Operates answer report s s.announceMessage :=
    hack.trans (operates_writeDownlinkCodePacket _ _ _)
  refine .ite_fst (fun _ => .refl s) fun _ => hannounce.trans ?_
  generalize s.announceMessage = t
  dsimp only
  split
  case h_1 => exact .refl t
  case h_2 =>
    have htimer : Operates answer report t (if DownlinkState.idleStart.ctorIdx ≤ t.downlinkState.ctorIdx then
        t.startAckTimer now .waitMsgAck else t) :=
      .ite (fun h => t.operates_startAckTimer now h (by decide)) fun _ => .refl t
    exact htimer.trans (.of_eq rfl rfl rfl rfl rfl)

theorem operates_writeDownlinkLocalNiCmd (now : OsalTickCount) :
    Operates answer report s (s.writeDownlinkLocalNiCmd now) := by
  unfold writeDownlinkLocalNiCmd
  dsimp only
  have hrsp (rsp : UInt8) : Operates answer report s { s with uplinkExpectedRsp := rsp } :=
    .of_eq rfl rfl rfl rfl rfl
  generalize hcmd : s.downlinkBufferStaging.usbNiDataFrame.niCommand = cmd
  have hwrite := (hrsp (getExpectedResponse cmd)).trans
    (operates_writeDownlinkCodePacket _ SHORT_NI_CMD_FRAME_CMD cmd)
  have hstate : (writeDownlinkCodePacket { s with uplinkExpectedRsp := getExpectedResponse cmd }
      SHORT_NI_CMD_FRAME_CMD cmd).downlinkState = s.downlinkState := by
    unfold writeDownlinkCodePacket
    split <;> split <;> rfl
  refine .ite (fun h => hwrite.trans ?_) fun _ => hwrite
  refine operates_startAckTimer _ now h ?_
  rw [hstate] at h
  rw [if_neg (fun hreset => by
    rw [hreset] at h
    exact absurd h (by decide))]
  split <;> decide

theorem operates_incrementDownlinkSequence : Operates answer report s s.incrementDownlinkSequence :=
  .of_eq rfl rfl rfl rfl rfl

theorem operates_sendAck : Operates answer report s s.sendAck :=
  .ite (fun _ => (s.operates_writeDownlinkCodePacket NULL_FRAME_CMD 0).trans
    (operates_incrementDownlinkSequence _)) fun _ => .refl s

theorem operates_readDownlinkBuffer : Operates answer report s s.readDownlinkBuffer.1 := by
  unfold readDownlinkBuffer
  split <;> split <;> exact .of_eq rfl rfl rfl rfl rfl

theorem operates_writeDownlinkBuffer (now : OsalTickCount) :
    Operates answer report s (s.writeDownlinkBuffer now).1 :=
  .ite_fst (fun _ => s.operates_resetDownlinkState.trans (operates_writeDownlinkLocalNiCmd _ now))
    fun _ => s.operates_writeDownlinkMessage now

theorem operates_processNextDownlinkMessage (now : OsalTickCount) :
    Operates answer report s (s.processNextDownlinkMessage now).1 := by
  have hread : Operates answer report s s.sendAck.readDownlinkBuffer.1 :=
    s.operates_sendAck.trans s.sendAck.operates_readDownlinkBuffer
  exact .ite_fst (fun _ => hread) fun _ => hread.onSuccess fun t => t.operates_writeDownlinkBuffer now

theorem operates_resetUplinkState : Operates answer report s s.resetUplinkState :=
  .of_eq rfl rfl rfl rfl rfl

theorem operates_reportStatus (now : OsalTickCount) : Operates answer report s (s.reportStatus now) := by
  have hcopy : Operates answer report s { s.incrementDownlinkSequence with
      downlinkBuffer := { s.downlinkBuffer with
        usbNiDataFrame := ⟨s.downlinkBuffer.usbNiDataFrame.image.copy 0 MsgReportStatus 0
          LonUsbQueueBuffer.sizeofLonNiFrame⟩ } } := .of_eq rfl rfl rfl rfl rfl
  exact (hcopy.trans (operates_writeDownlinkMessage _ now)).trans (.of_eq rfl rfl rfl rfl rfl)

theorem operates_resyncAckTimeout (now : OsalTickCount) :
    Operates answer report s (s.resyncAckTimeout now) :=
  .ite (fun _ => s.operates_reportStatus now) fun _ =>
    .ite (fun _ => .of_eq rfl rfl rfl rfl rfl) fun _ => .of_eq rfl rfl rfl rfl rfl

theorem operates_ackTimeout (h : s.downlinkState.Settled) (now : OsalTickCount) :
    Operates answer report s (s.ackTimeout now) := by
  have hidle : Operates answer report s (s.setDownlinkState .idle) :=
    ⟨rfl, .inl ⟨rfl, rfl⟩, .inr (.inl ⟨h, .inl rfl⟩), .inl rfl⟩
  have hreset := hidle.trans (.ite (c := (s.setDownlinkState .idle).uplinkState = .idle ∧
    (s.setDownlinkState .idle).uplinkMsgIndex ≠ 0)
      (fun _ => operates_resetUplinkState _) fun _ => .refl _)
  have hcount (t : LonUsbLinkState) : Operates answer report t
      { t with uplinkAckTimeouts := t.uplinkAckTimeouts + 1 } := .of_eq rfl rfl rfl rfl rfl
  refine hreset.trans ((hcount _).trans (.ite (fun _ => ?_) fun _ => .refl _))
  exact (operates_resyncAckTimeout _ now).trans (.of_eq rfl rfl rfl rfl rfl)

theorem operates_waitAck (h : s.downlinkState.Settled) (now : OsalTickCount) :
    Operates answer report s (s.waitAck now).1 :=
  .ite_fst (fun _ => .refl s) fun _ =>
    (s.operates_ackTimeout h now).trans (operates_processNextDownlinkMessage _ now)

theorem operates_clearUplinkTransaction : Operates answer report s s.clearUplinkTransaction := by
  have hclear (t : LonUsbLinkState) : Operates answer report t
      { t.incrementDownlinkSequence with
        uplinkExpectedRsp := LonNiClearCmd
        uplinkAckTimeoutPhase := 0 } := .of_eq rfl rfl rfl rfl rfl
  have hcommand : Operates answer report s { s with downlinkBuffer := { s.downlinkBuffer with
      usbNiDataFrame := s.downlinkBuffer.usbNiDataFrame.setNiCommand 0 } } :=
    .of_eq rfl rfl rfl rfl rfl
  have hstop := hcommand.trans (operates_stopAckTimer { s with downlinkBuffer := { s.downlinkBuffer
    with usbNiDataFrame := s.downlinkBuffer.usbNiDataFrame.setNiCommand 0 } })
  exact (Operates.ite (fun _ => hstop) fun _ => .ite (fun _ => s.operates_resetDownlinkState)
    fun _ => .refl s).trans (hclear _)

theorem operates_processAck (header : LonFrameHeader) : Operates answer report s (s.processAck header) :=
  .ite (fun _ => s.operates_clearUplinkTransaction) fun _ => .refl s

theorem operates_checkSequence (header : LonFrameHeader) :
    Operates answer report s (s.checkSequence header) :=
  .ite (fun _ => .of_eq rfl rfl rfl rfl rfl) fun _ => .refl s

theorem operates_rejectCodePacket (now : OsalTickCount) :
    Operates answer report s (s.rejectCodePacket now).1 := by
  have hstop : Operates answer report s s.stopAckTimer := s.operates_stopAckTimer
  have htimer (t : LonUsbLinkState) (timer : OsalTickCount) :
      Operates answer report t (t.setRejectTimer timer) := .of_eq rfl rfl rfl rfl rfl
  have hwrite := (htimer s.stopAckTimer 0).trans
    (operates_writeDownlinkCodePacket _ SHORT_NI_CMD_FRAME_CMD LonNiResetDeviceCmd)
  exact .ite_fst (fun _ => hstop.trans (.ite_fst (fun _ => htimer _ _) fun _ =>
    .ite_fst (fun _ => hwrite) fun _ => .refl _)) fun _ => .refl s

theorem operates_queueUplinkBuffer : Operates True report s s.queueUplinkBuffer.1 := by
  unfold queueUplinkBuffer
  split <;> split <;> exact .of_eq rfl rfl rfl rfl rfl

theorem operates_processUplinkMessage : Operates True report s s.processUplinkMessage.1 := by
  refine .ite_fst (fun _ => .ite_fst (fun _ => .of_eq rfl rfl rfl rfl rfl) fun _ => .refl s)
    fun _ => .ite_fst (fun hwait => .ite_fst (fun _ => ?_) fun _ => .refl s)
      fun _ => s.operates_queueUplinkBuffer
  exact ⟨rfl, .inr ⟨trivial, hwait, rfl⟩, .inl rfl, .inr (.inl ⟨trivial, hwait⟩)⟩

theorem operates_handleNiCommand (niCmd : UInt8) (h : niCmd = LonNiResetDeviceCmd → report) :
    Operates True report s (s.handleNiCommand niCmd) :=
  .ite (fun hreset => ⟨rfl, .inl ⟨rfl, rfl⟩, .inl rfl, .inr (.inr (h hreset))⟩) fun _ => .refl s

theorem operates_acceptMessage
    (h : s.uplinkBuffer.usbNiDataFrame.niCommand = LonNiResetDeviceCmd → report) :
    Operates True report s s.acceptMessage.1 :=
  (s.operates_handleNiCommand _ h).trans
    (.ite_fst (fun _ => .refl _) fun _ => operates_processUplinkMessage _)

def ResetMessage : Prop :=
  s.Completed ∧ s.uplinkBuffer.usbNiDataFrame.niCommand = LonNiResetDeviceCmd

instance : Decidable s.ResetMessage := inferInstanceAs (Decidable (_ ∧ _))

theorem operates_checkUplinkCompleted (h : s.ResetMessage → report) :
    Operates True report s s.checkUplinkCompleted.1 := by
  by_cases hc : s.Completed
  case pos =>
    rw [checkUplinkCompleted_of_completed hc]
    have hmessage : Operates True report s (if FilteredUplink s.uplinkBuffer.usbNiDataFrame.niCommand then
        (s, LonStatusCode.noError) else s.acceptMessage).1 :=
      .ite_fst (fun _ => .refl s) fun _ => s.operates_acceptMessage fun hreset => h ⟨hc, hreset⟩
    exact hmessage.trans (operates_resetUplinkState _)
  case neg =>
    rw [checkUplinkCompleted_of_not hc]
    exact .of_eq rfl rfl rfl rfl rfl

def ResetPacket (b : UInt8) : Prop :=
  s.uplinkState = .codePacketChecksum ∧ validateChecksum (s.completedHeader b).toList = true ∧
    (s.completedHeader b).cmd = SHORT_NI_CMD_FRAME_CMD ∧
      (s.completedHeader b).parameter = LonNiResetDeviceCmd

instance (b : UInt8) : Decidable (s.ResetPacket b) := inferInstanceAs (Decidable (_ ∧ _ ∧ _ ∧ _))

def ReportsReset (b : UInt8) : Prop := s.ResetPacket b ∨ ∃ t ∈ s.checked b, t.ResetMessage

instance (b : UInt8) : Decidable (s.ReportsReset b) :=
  inferInstanceAs (Decidable (_ ∨ ∃ t ∈ s.checked b, t.ResetMessage))

theorem operates_shortNiCmdCodePacket (parameter sequenceNumber : UInt8)
    (h : parameter = LonNiResetDeviceCmd → report) :
    Operates True report s (s.shortNiCmdCodePacket parameter sequenceNumber).1 := by
  have hack : Operates True report s (s.setDownlinkAckSeqNumber sequenceNumber.toNat) :=
    .of_eq rfl rfl rfl rfl rfl
  have hrestart (t : LonUsbLinkState) : Operates True report t (t.restartOnReset parameter) :=
    .ite (fun hreset => ⟨rfl, .inl ⟨rfl, rfl⟩, .inr (.inr ⟨h hreset, rfl⟩), .inl rfl⟩)
      fun _ => .refl t
  have hstore (t : LonUsbLinkState) : Operates True report t (t.storeShortNiCmd parameter) :=
    .of_eq rfl rfl rfl rfl rfl
  refine hack.trans (.ite_fst (fun _ => operates_resetUplinkState _) fun _ =>
    .ite_fst (fun _ => .refl _) fun _ => ((hrestart _).trans (hstore _)).trans ?_)
  exact .onSuccess (operates_processUplinkMessage _) fun t => t.operates_resetUplinkState

theorem operates_processUplinkCodePacket (now : OsalTickCount)
    (h : s.uplinkBuffer.frameHeader.cmd = SHORT_NI_CMD_FRAME_CMD →
      s.uplinkBuffer.frameHeader.parameter = LonNiResetDeviceCmd → report) :
    Operates True report s (s.processUplinkCodePacket now).1 := by
  have hack : Operates True report s ((s.checkSequence s.uplinkBuffer.frameHeader).processAck
      s.uplinkBuffer.frameHeader) :=
    (s.operates_checkSequence _).trans (operates_processAck _ _)
  refine hack.trans (.ite_fst (fun _ => .of_eq rfl rfl rfl rfl rfl) fun _ =>
    .ite_fst (fun hcmd => operates_shortNiCmdCodePacket _ _ _ (h hcmd)) fun _ =>
    .ite_fst (fun _ => operates_rejectCodePacket _ now) fun _ =>
    .ite_fst (fun _ => (operates_clearUplinkTransaction _).trans (operates_stopAckTimer _)) fun _ =>
    .ite_fst (fun _ => .of_eq rfl rfl rfl rfl rfl) fun _ => .refl _)

theorem operates_codePacketChecksumByte (hstate : s.uplinkState = .codePacketChecksum) {b : UInt8}
    (h : s.ResetPacket b → report) (now : OsalTickCount) :
    Operates True report s (s.codePacketChecksumByte now b).1 := by
  have hset : Operates True report s (s.setFrameHeader (s.completedHeader b)) :=
    .of_eq rfl rfl rfl rfl rfl
  by_cases hvalid : validateChecksum (s.completedHeader b).toList = true
  case pos =>
    rw [s.codePacketChecksumByte_of_valid hvalid]
    have hpacket : Operates True report s (s.packetHandled now b).1 :=
      hset.trans (operates_processUplinkCodePacket _ now fun hcmd hparameter =>
        h ⟨hstate, hvalid, hcmd, hparameter⟩)
    exact hpacket.onSuccess fun t =>
      .ite_fst (fun _ => .of_eq rfl rfl rfl rfl rfl) fun _ => .of_eq rfl rfl rfl rfl rfl
  case neg =>
    rw [s.codePacketChecksumByte_of_not hvalid]
    simp only [packetDropped]
    generalize s.setFrameHeader (s.completedHeader b) = t at hset ⊢
    unfold setUplinkState setDownlinkAckSeqNumber setUplinkFrameError
    exact hset.trans (.of_eq rfl rfl rfl rfl rfl)

theorem operates_checkMsgTimer (now : OsalTickCount) : Operates True report s (s.checkMsgTimer now) :=
  .ite (fun _ => s.operates_resetUplinkState) fun _ => .refl s

theorem operates_messageByte {b : UInt8}
    (h : b ≠ FRAME_SYNC → (s.storeByte b).ResetMessage → report) (now : OsalTickCount) (last : Bool) :
    Operates True report s (s.messageByte now last b).1 := by
  have hstore : Operates True report s (s.storeByte b) := .of_eq rfl rfl rfl rfl rfl
  have hescape : Operates True report s ((s.storeByte b).setUplinkState .escapedData) :=
    .of_eq rfl rfl rfl rfl rfl
  refine .ite_fst (fun _ => hescape.trans (operates_checkMsgTimer _ now)) fun hb => ?_
  have hcheck := hstore.trans ((s.storeByte b).operates_checkUplinkCompleted (h hb))
  exact .ite_fst (fun _ => hcheck) fun _ => .ite_fst
    (fun _ => hcheck.trans (operates_checkMsgTimer _ now)) fun _ => hcheck

theorem operates_escapedDataByte {b : UInt8} (h : b = FRAME_SYNC → s.ResetMessage → report) :
    Operates True report s (s.escapedDataByte b).1 := by
  have hunescape : Operates True report s (s.unescape b) :=
    .ite (fun _ => .of_eq rfl rfl rfl rfl rfl) fun _ => .ite (fun _ => .of_eq rfl rfl rfl rfl rfl)
      fun _ => .of_eq rfl rfl rfl rfl rfl
  refine hunescape.trans (operates_checkUplinkCompleted _ ?_)
  unfold unescape
  dsimp only
  split
  case isTrue hb => exact h hb
  case isFalse =>
    split <;> exact fun hreset => absurd hreset.1.1 (Nat.not_lt_zero 1)

theorem operates_processUplinkByte (now : OsalTickCount) (last : Bool) (b : UInt8) :
    Operates True (s.ReportsReset b) s (s.processUplinkByte now last b).1 := by
  have hidle (t : LonUsbLinkState) : Operates True (s.ReportsReset b) t (t.idleByte b) :=
    .ite (fun _ => .of_eq rfl rfl rfl rfl rfl) fun _ => .of_eq rfl rfl rfl rfl rfl
  have hchecked (t : LonUsbLinkState) (ht : s.checked b = some t) (hreset : t.ResetMessage) :
      s.ReportsReset b := .inr ⟨t, ht, hreset⟩
  unfold processUplinkByte
  cases hstate : s.uplinkState with
  | idle => exact hidle s
  | frameCode =>
    have hback : Operates True (s.ReportsReset b) s
        ((s.setUplinkState .idle).setUplinkFrameError true) := .of_eq rfl rfl rfl rfl rfl
    exact .ite (fun _ => .of_eq rfl rfl rfl rfl rfl) fun _ =>
      .ite (fun _ => .of_eq rfl rfl rfl rfl rfl) fun _ => hback.trans (hidle _)
  | frameParameter => exact .of_eq rfl rfl rfl rfl rfl
  | codePacketChecksum => exact s.operates_codePacketChecksumByte hstate .inl now
  | message =>
    refine s.operates_messageByte (fun hb => hchecked _ ?_) now last
    unfold checked
    simp only [hstate]
    exact if_neg hb
  | escapedData =>
    refine s.operates_escapedDataByte fun hb => hchecked _ ?_
    unfold checked
    simp only [hstate]
    exact if_pos hb

structure Preparing : Prop where
  ready : s.ready = false
  status : s.haveStatus = true → s.waitForStatus = false
  settled : s.downlinkState.Settled → s.waitForStatus = false

variable {s} {t : LonUsbLinkState}

theorem Operates.settled (ho : Operates answer report s t)
    (h : s.downlinkState.Settled → s.waitForStatus = false) (ht : t.downlinkState.Settled) :
    t.waitForStatus = false := by
  cases ho.status with
  | inr hstatus => exact hstatus.2.2
  | inl hstatus =>
    rw [hstatus.1]
    obtain hstate | hstate | hstate := ho.state
    · rw [hstate] at ht
      exact h ht
    · exact h hstate.1
    · rw [hstate.2] at ht
      exact absurd ht (by decide)

theorem Operates.known (ho : Operates answer report s t)
    (h : s.haveStatus = true → s.waitForStatus = false) (ht : t.haveStatus = true) :
    t.waitForStatus = false := by
  cases ho.status with
  | inr hstatus => exact hstatus.2.2
  | inl hstatus =>
    rw [hstatus.1]
    exact h (hstatus.2.symm.trans ht)

namespace Preparing

theorem operates (h : s.Preparing) (ho : Operates answer report s t) : t.Preparing where
  ready := ho.ready.trans h.ready
  status := ho.known h.status
  settled := ho.settled h.settled

theorem quiet (h : s.Preparing) (ho : Operates False False s t) : t.Preparing := h.operates ho

theorem enter (h : s.Preparing) (ready : t.ready = s.ready)
    (waiting : t.waitForStatus = s.waitForStatus) (known : t.haveStatus = s.haveStatus)
    (state : ¬t.downlinkState.Settled) : t.Preparing where
  ready := ready.trans h.ready
  status hstatus := waiting.trans (h.status (known.symm.trans hstatus))
  settled hsettled := absurd hsettled state

theorem ite {c : Prop} [Decidable c] {u : LonUsbLinkState} (ht : c → t.Preparing)
    (hu : ¬c → u.Preparing) : (if c then t else u).Preparing := by
  split
  case isTrue h => exact ht h
  case isFalse h => exact hu h

theorem ite_fst {γ : Type} {c : Prop} [Decidable c] {p q : LonUsbLinkState × γ}
    (hp : c → p.1.Preparing) (hq : ¬c → q.1.Preparing) : (if c then p else q).1.Preparing := by
  split
  case isTrue h => exact hp h
  case isFalse h => exact hq h

theorem onSuccess {r : Outcome} {next : LonUsbLinkState → Outcome} (hr : r.1.Preparing)
    (hnext : ∀ t : LonUsbLinkState, t.Preparing → (next t).1.Preparing) :
    (LonUsb.onSuccess r next).1.Preparing :=
  .ite_fst (fun _ => hnext _ hr) fun _ => hr

theorem downlinkStart (h : s.Preparing) (now : OsalTickCount) : (s.downlinkStart now).Preparing := by
  unfold LonUsbLinkState.downlinkStart startLonUsbLink flushDownlinkQueue resetDownlinkState
    resetUplinkState stopAckTimer
  exact h.enter rfl rfl rfl (show ¬DownlinkState.waitStartupReset.Settled by decide)

theorem sendResync (h : s.Preparing) (now : OsalTickCount) : (s.sendResync now).Preparing := by
  have hwrite : (s.writeDownlinkCodePacket NI_RESYNC_FRAME_CMD 0).Preparing :=
    h.quiet (s.operates_writeDownlinkCodePacket _ _)
  exact .ite (fun _ => hwrite.enter rfl rfl rfl
    (show ¬DownlinkState.waitStartupResyncAck.Settled by decide)) fun _ => h

theorem waitStartupReset (h : s.Preparing) (now : OsalTickCount) :
    (s.waitStartupReset now).Preparing := by
  have hreset : ({ s with haveReset := false } : LonUsbLinkState).Preparing :=
    ⟨h.ready, h.status, h.settled⟩
  exact .ite (fun _ => (hreset.sendResync now).enter rfl rfl rfl
    (show ¬DownlinkState.waitStartupResyncAck.Settled by decide)) fun _ => h

theorem waitStartupResyncAck (h : s.Preparing) (now : OsalTickCount) :
    (s.waitStartupResyncAck now).Preparing := by
  obtain ⟨hready, hstatus, hsettled⟩ := h.sendResync now
  refine .ite (fun _ => ?_) fun _ => .ite (fun _ => ⟨hready, hstatus, hsettled⟩) fun _ => h
  exact h.enter rfl rfl rfl (show ¬DownlinkState.waitResyncReset.Settled by decide)

theorem waitResyncReset (h : s.Preparing) (now : OsalTickCount) :
    (s.waitResyncReset now).Preparing := by
  refine .ite (fun _ => .ite (fun _ => ?_) fun _ => .ite (fun _ => ?_) fun hstatus =>
    .ite (fun _ => ?_) fun _ => ?_) fun _ => h
  · exact h.enter rfl rfl rfl (show ¬DownlinkState.niUniqueIdRequest.Settled by decide)
  · exact h.enter rfl rfl rfl (show ¬DownlinkState.mipStatusRequest.Settled by decide)
  · exact h.enter rfl rfl rfl (show ¬DownlinkState.layer2Request.Settled by decide)
  · exact ⟨h.ready, h.status, fun _ => h.status ((Bool.not_eq_false _).mp hstatus)⟩

theorem layerRequest (h : s.Preparing) (now : OsalTickCount) (mode : Int)
    {nextState : DownlinkState} (hnext : ¬nextState.Settled) :
    (s.layerRequest now mode nextState).1.Preparing := by
  have hmode : ({ s with
      currentIfaceMode := mode
      l2L5Mode := LON_IFACE_MODE_UNKNOWN } : LonUsbLinkState).Preparing :=
    ⟨h.ready, h.status, h.settled⟩
  exact .onSuccess (hmode.quiet
    (operates_writeLonUsbMsg _ _)) fun t ht => ht.enter rfl rfl rfl hnext

theorem waitLayer5Ack (h : s.Preparing) (now : OsalTickCount) : (s.waitLayer5Ack now).Preparing := by
  refine .ite (fun _ => ?_) fun _ => .ite (fun _ => ?_) fun _ => h
  · exact h.enter rfl rfl rfl (show ¬DownlinkState.niUniqueIdRequest.Settled by decide)
  · exact h.enter rfl rfl rfl (show ¬DownlinkState.waitStartupResyncAck.Settled by decide)

theorem requestUsbNiUid (h : s.Preparing) (now : OsalTickCount) :
    (s.requestUsbNiUid now).1.Preparing := by
  have hgiveUp : ({ s with waitForUid := false } : LonUsbLinkState).Preparing :=
    ⟨h.ready, h.status, h.settled⟩
  refine .ite_fst (fun _ => h) fun _ => .ite_fst (fun _ => hgiveUp) fun _ =>
    .onSuccess (h.quiet (s.operates_writeLonUsbMsg _))
      fun t ht => ?_
  exact ht.enter rfl rfl rfl (show ¬DownlinkState.waitNiUniqueId.Settled by decide)

theorem niUniqueIdRequest (h : s.Preparing) (now : OsalTickCount) :
    (s.niUniqueIdRequest now).1.Preparing := by
  refine .ite_fst (fun _ => ?_) fun _ => .onSuccess (h.requestUsbNiUid now) fun t ht => ?_
  · exact h.enter rfl rfl rfl (show ¬DownlinkState.layer5Request.Settled by decide)
  · exact ht.enter rfl rfl rfl (show ¬DownlinkState.waitNiUniqueId.Settled by decide)

theorem waitNiUniqueId (h : s.Preparing) (now : OsalTickCount) :
    (s.waitNiUniqueId now).Preparing := by
  refine .ite (fun _ => ?_) fun _ => .ite (fun _ => .ite (fun _ => ?_) fun _ => ?_) fun _ => h
  · exact h.enter rfl rfl rfl (show ¬DownlinkState.layer2Request.Settled by decide)
  · exact h.enter rfl rfl rfl (show ¬DownlinkState.niUniqueIdRequest.Settled by decide)
  · exact h.enter rfl rfl rfl (show ¬DownlinkState.mipStatusRequest.Settled by decide)

theorem waitLayer2Ack (h : s.Preparing) (now : OsalTickCount) : (s.waitLayer2Ack now).Preparing := by
  refine .ite (fun _ => ?_) fun _ => .ite (fun _ => ?_) fun _ => h
  · exact h.enter rfl rfl rfl (show ¬DownlinkState.mipStatusRequest.Settled by decide)
  · exact h.enter rfl rfl rfl (show ¬DownlinkState.waitStartupResyncAck.Settled by decide)

theorem requestUsbNiStatus (h : s.Preparing) (now : OsalTickCount) :
    (s.requestUsbNiStatus now).1.Preparing := by
  have hwrite : Operates False False s (s.writeLonUsbMsg MsgStatus).1 := s.operates_writeLonUsbMsg _
  refine .ite_fst (fun _ => h) fun hunknown => .ite_fst (fun _ => ?_) fun _ => ?_
  · exact ⟨h.ready, fun _ => rfl, fun _ => rfl⟩
  · refine .ite_fst (fun _ => ?_) fun _ => h.operates hwrite
    refine ⟨hwrite.ready.trans h.ready, fun hstatus => absurd ?_ hunknown, fun hsettled => ?_⟩
    · exact (hwrite.status.resolve_right fun hanswer => hanswer.1).2.symm.trans hstatus
    · exact absurd hsettled (show ¬DownlinkState.waitMipStatus.Settled by decide)

theorem mipStatusRequest (h : s.Preparing) (now : OsalTickCount) :
    (s.mipStatusRequest now).1.Preparing := by
  refine .ite_fst (fun _ => ?_) fun _ => .onSuccess (h.requestUsbNiStatus now) fun t ht => ?_
  · exact h.enter rfl rfl rfl (show ¬DownlinkState.layer2Request.Settled by decide)
  · exact ht.enter rfl rfl rfl (show ¬DownlinkState.waitMipStatus.Settled by decide)

theorem waitMipStatus (h : s.Preparing) (now : OsalTickCount) : (s.waitMipStatus now).Preparing := by
  refine .ite (fun hstatus => ?_) fun _ => .ite (fun _ => .ite (fun _ => ?_) fun hwait => ?_)
    fun _ => h
  · exact ⟨h.ready, h.status, fun _ => h.status hstatus⟩
  · exact h.enter rfl rfl rfl (show ¬DownlinkState.mipStatusRequest.Settled by decide)
  · exact ⟨h.ready, h.status, fun _ => (Bool.not_eq_true _).mp hwait⟩

theorem next (h : s.Preparing) (now : OsalTickCount) :
    (s.processNextDownlinkMessage now).1.Preparing :=
  h.quiet (s.operates_processNextDownlinkMessage now)

theorem processDownlinkRequests (h : s.Preparing) (hstate : s.downlinkState ≠ .idleStart)
    (now : OsalTickCount) : (s.processDownlinkRequests now).1.Preparing := by
  have hstart (t : LonUsbLinkState) (ht : t.Preparing) : (t.setDownlinkState .start).Preparing :=
    ht.enter rfl rfl rfl (show ¬DownlinkState.start.Settled by decide)
  have hwait (hsettled : s.downlinkState.Settled) : (s.waitAck now).1.Preparing :=
    h.quiet (s.operates_waitAck hsettled now)
  unfold LonUsbLinkState.processDownlinkRequests
  refine .ite_fst (fun _ => h) fun _ => ?_
  cases hcase : s.downlinkState with
  | start => exact h.downlinkStart now
  | waitStartupReset => exact (h.waitStartupReset now).next now
  | waitStartupResyncAck => exact (h.waitStartupResyncAck now).next now
  | waitResyncReset => exact (h.waitResyncReset now).next now
  | layer5Request =>
    exact .onSuccess (h.layerRequest now _ (show ¬DownlinkState.waitLayer5Ack.Settled by decide))
      fun t ht => ht.next now
  | waitLayer5Ack => exact (h.waitLayer5Ack now).next now
  | niUniqueIdRequest => exact .onSuccess (h.niUniqueIdRequest now) fun t ht => ht.next now
  | waitNiUniqueId => exact (h.waitNiUniqueId now).next now
  | layer2Request =>
    exact .onSuccess (h.layerRequest now _ (show ¬DownlinkState.waitLayer2Ack.Settled by decide))
      fun t ht => ht.next now
  | waitLayer2Ack => exact (h.waitLayer2Ack now).next now
  | mipStatusRequest => exact .onSuccess (h.mipStatusRequest now) fun t ht => ht.next now
  | waitMipStatus => exact (h.waitMipStatus now).next now
  | idleStart => exact absurd hcase hstate
  | idle => exact h.next now
  | waitCpAck | waitMsgAck | waitCpResponse =>
    exact hwait (by
      rw [hcase]
      decide)
  | waitL5ResyncAck | waitL5Reset | waitL2ResyncAck | waitL2Reset | waitCpMsgReqAck | invalid =>
    exact hstart s h

end Preparing

structure Steady (s : LonUsbLinkState) : Prop where
  status : s.haveStatus = true → s.waitForStatus = false
  settled : s.downlinkState.Settled → s.waitForStatus = false
  serving : s.ready = true →
    s.downlinkState.Serving ∧ s.currentIfaceMode = LON_IFACE_MODE_LAYER2

namespace Steady

theorem of_preparing (h : s.Preparing) : s.Steady where
  status := h.status
  settled := h.settled
  serving hready := absurd (h.ready.symm.trans hready) (by decide)

theorem preparing (h : s.Steady) (hready : s.ready = false) : s.Preparing :=
  ⟨hready, h.status, h.settled⟩

theorem operates (h : s.Steady) (ho : Operates answer report s t)
    (hreport : s.ready = true → ¬report) : t.Steady where
  status := ho.known h.status
  settled := ho.settled h.settled
  serving hready := by
    have hs := ho.ready.symm.trans hready
    obtain ⟨hserving, hmode⟩ := h.serving hs
    have hwait := h.settled hserving.settled
    constructor
    · obtain hstate | hstate | hstate := ho.state
      · rw [hstate]
        exact hserving
      · exact hstate.2
      · exact absurd hstate.1 (hreport hs)
    · obtain hsame | hanswer | hr := ho.mode
      · exact hsame.trans hmode
      · exact absurd (hwait.symm.trans hanswer.2) (by decide)
      · exact absurd hr (hreport hs)

theorem quiet (h : s.Steady) (ho : Operates False False s t) : t.Steady :=
  h.operates ho fun _ => id

theorem idleStart (h : s.Preparing) (hstate : s.downlinkState = .idleStart) : s.idleStart.Steady := by
  have hwait : s.waitForStatus = false := h.settled (by
    rw [hstate]
    decide)
  have hwrite : Operates False False s (s.writeDownlinkCodePacket NULL_FRAME_CMD 0) :=
    s.operates_writeDownlinkCodePacket _ _
  have hwait' := (hwrite.status.resolve_right fun hanswer => hanswer.1).1.trans hwait
  have hmode' := hwrite.mode.resolve_right fun hother => hother.elim And.left id
  unfold LonUsbLinkState.idleStart
  split
  case isTrue =>
    exact .of_preparing (h.enter rfl rfl rfl (show ¬DownlinkState.layer2Request.Settled by decide))
  case isFalse hmode =>
    exact
      { status := fun _ => hwait'
        settled := fun _ => hwait'
        serving := fun _ => ⟨.inl rfl, hmode'.trans (Decidable.not_not.mp hmode)⟩ }

theorem processDownlinkRequests (h : s.Steady) (now : OsalTickCount) :
    (s.processDownlinkRequests now).1.Steady := by
  have hnext (t : LonUsbLinkState) (ht : t.Steady) : (t.processNextDownlinkMessage now).1.Steady :=
    ht.quiet (t.operates_processNextDownlinkMessage now)
  cases hready : s.ready with
  | false =>
    by_cases hstate : s.downlinkState = .idleStart
    case neg => exact .of_preparing ((h.preparing hready).processDownlinkRequests hstate now)
    case pos =>
      have hstart := hnext _ (idleStart (h.preparing hready) hstate)
      unfold LonUsbLinkState.processDownlinkRequests
      split
      case isTrue => exact h
      case isFalse =>
        rw [hstate]
        exact hstart
  | true =>
    obtain ⟨hserving, -⟩ := h.serving hready
    have hwait : (s.waitAck now).1.Steady :=
      h.quiet (s.operates_waitAck hserving.settled now)
    unfold LonUsbLinkState.processDownlinkRequests
    split
    case isTrue => exact h
    case isFalse =>
      obtain hstate | hstate | hstate | hstate := hserving <;> rw [hstate]
      · exact hnext s h
      · exact hwait
      · exact hwait
      · exact hwait

end Steady

structure JustOpened (s : LonUsbLinkState) : Prop where
  ready : s.ready = false
  state : s.downlinkState = .start
  status : s.haveStatus = true → s.waitForStatus = false

theorem JustOpened.steady (h : s.JustOpened) : s.Steady :=
  .of_preparing ⟨h.ready, h.status, fun hsettled => by
    rw [h.state] at hsettled
    exact absurd hsettled (by decide)⟩

theorem justOpened_openLonUsbLink (h : s.haveStatus = true → s.waitForStatus = false)
    (now : OsalTickCount) (lonUsbIfaceType : LonUsbIfaceType) :
    (s.openLonUsbLink now lonUsbIfaceType).JustOpened :=
  ⟨rfl, rfl, h⟩

end LonUsbLinkState

def LonUsbLinkState.Ready (s : LonUsbLinkState) : Prop := s.lonUsbLinkReady = true

instance (s : LonUsbLinkState) : Decidable s.Ready := inferInstanceAs (Decidable (_ = true))

def CompletesStartup (x : LonUsbLinkState × LinkEvent) : Prop :=
  x.1.downlinkState = .idleStart ∧ ∃ now, x.2 = .processDownlinkRequests now

def ResetReported (x : LonUsbLinkState × LinkEvent) : Prop := ∃ b ∈ x.2.byte?, x.1.ReportsReset b

instance : DecidablePred ResetReported := fun x =>
  inferInstanceAs (Decidable (∃ b ∈ x.2.byte?, x.1.ReportsReset b))

/-- A ready link is in normal operation, in the mode of layer 2, and has completed its start-up
since its network interface last reported a reset. -/
def Operational (h : LinkHistory) (t : LonUsbLinkState) : Prop :=
  t.Ready → t.downlinkState.Serving ∧ t.currentIfaceMode = LON_IFACE_MODE_LAYER2 ∧
    Since CompletesStartup ResetReported h

section Run

variable {s t : LonUsbLinkState} {h : LinkHistory} {e : LinkEvent}

theorem operates_linkStep {report : Prop} (he : ∀ now, e ≠ .processDownlinkRequests now)
    (hreport : ResetReported (t, e) → report) :
    LonUsbLinkState.Operates True report t (linkStep e t) := by
  cases e with
  | writeLonUsbMsg f => exact t.operates_writeLonUsbMsg f
  | processDownlinkRequests now => exact absurd rfl (he now)
  | processUplinkByte x =>
    exact .ite (fun _ => .refl t) fun _ =>
      (t.operates_processUplinkByte x.now x.last x.byte).mono fun hr => hreport ⟨x.byte, rfl, hr⟩
  | readUplinkBuffer =>
    change LonUsbLinkState.Operates True report t t.readUplinkBuffer.1
    unfold LonUsbLinkState.readUplinkBuffer
    split <;> split <;> exact .of_eq rfl rfl rfl rfl rfl
  | setRing bytes => exact .of_eq rfl rfl rfl rfl rfl

theorem steady_linkStep (hsteady : t.Steady) (hok : ¬(t.Ready ∧ ResetReported (t, e))) :
    (linkStep e t).Steady := by
  by_cases he : ∀ now, e ≠ .processDownlinkRequests now
  case pos =>
    exact hsteady.operates (operates_linkStep he id) fun hready hr => hok ⟨hready, hr⟩
  case neg =>
    obtain ⟨now, rfl⟩ := not_forall_not.mp he
    exact hsteady.processDownlinkRequests now

theorem ready_linkStep (hsteady : t.Steady) (hok : ¬(t.Ready ∧ ResetReported (t, e)))
    (hready : (linkStep e t).Ready) :
    CompletesStartup (t, e) ∨ (t.Ready ∧ ¬ResetReported (t, e)) := by
  cases ht : t.ready with
  | true => exact .inr ⟨ht, fun hr => hok ⟨ht, hr⟩⟩
  | false =>
    by_cases he : ∀ now, e ≠ .processDownlinkRequests now
    case pos =>
      have hsame := (operates_linkStep (t := t) he id).ready
      exact absurd (ht.symm.trans (hsame.symm.trans hready)) (by decide)
    case neg =>
      obtain ⟨now, rfl⟩ := not_forall_not.mp he
      by_cases hstate : t.downlinkState = .idleStart
      case pos => exact .inl ⟨hstate, now, rfl⟩
      case neg =>
        have hprepares := (hsteady.preparing ht).processDownlinkRequests hstate now
        exact absurd (hprepares.ready.symm.trans hready) (by decide)

end Run

def reopenedLink : LonUsbLinkState :=
  LonUsbLinkState.openLonUsbLink { initIfaceStates fun _ => .zero with
    haveUid := true
    haveStatus := true
    currentIfaceMode := LON_IFACE_MODE_LAYER2
    l2L5Mode := LON_IFACE_MODE_LAYER2 } 0 .u50

def readyEvents : List LinkEvent :=
  [.processDownlinkRequests 0, .processDownlinkRequests 1000] ++
    uplinkEvents [FRAME_SYNC, 0x00, 0x00, 0x82] ++
      [.processDownlinkRequests 1000, .processDownlinkRequests 2000, .processDownlinkRequests 2000]

def resetEvents : List LinkEvent := uplinkEvents [FRAME_SYNC, 0x26, 0x50, 0x0C]

end LonStack.LonUsb
