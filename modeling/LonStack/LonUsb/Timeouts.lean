import LonStack.LonUsb.Numbering

namespace LonStack.LonUsb

open Lib

def DownlinkState.Awaiting (d : DownlinkState) : Prop :=
  d = .waitCpAck ∨ d = .waitMsgAck ∨ d = .waitCpResponse

instance (d : DownlinkState) : Decidable d.Awaiting := inferInstanceAs (Decidable (_ ∨ _ ∨ _))

namespace LonUsbLinkState

def Counts (s t : LonUsbLinkState) : Prop :=
  t.uplinkAckTimeouts = 0 ∨
    (t.uplinkAckTimeouts = s.uplinkAckTimeouts ∧
      (t.downlinkState.Awaiting → s.downlinkState.Awaiting))

def Uncounted (s : LonUsbLinkState) : Prop := s.downlinkState.Awaiting → s.uplinkAckTimeouts = 0

theorem Uncounted.counts {s t : LonUsbLinkState} (h : s.Uncounted) (hc : s.Counts t) :
    t.Uncounted := by
  intro ht
  cases hc with
  | inl hzero => exact hzero
  | inr hsame => exact hsame.1.trans (h (hsame.2 ht))

namespace Counts

variable {s t u : LonUsbLinkState}

theorem of_eq (timeouts : t.uplinkAckTimeouts = s.uplinkAckTimeouts)
    (state : t.downlinkState = s.downlinkState) : s.Counts t :=
  .inr ⟨timeouts, fun h => state ▸ h⟩

theorem leave (timeouts : t.uplinkAckTimeouts = s.uplinkAckTimeouts) (state : ¬t.downlinkState.Awaiting) :
    s.Counts t :=
  .inr ⟨timeouts, fun h => absurd h state⟩

theorem refl (s : LonUsbLinkState) : s.Counts s := .of_eq rfl rfl

theorem trans (hst : s.Counts t) (htu : t.Counts u) : s.Counts u := by
  cases htu with
  | inl hzero => exact .inl hzero
  | inr hu =>
    cases hst with
    | inl hzero => exact .inl (hu.1.trans hzero)
    | inr ht => exact .inr ⟨hu.1.trans ht.1, ht.2 ∘ hu.2⟩

theorem ite {c : Prop} [Decidable c] (ht : c → s.Counts t) (hu : ¬c → s.Counts u) :
    s.Counts (if c then t else u) := by
  split
  case isTrue h => exact ht h
  case isFalse h => exact hu h

theorem ite_fst {γ : Type} {c : Prop} [Decidable c] {p q : LonUsbLinkState × γ}
    (hp : c → s.Counts p.1) (hq : ¬c → s.Counts q.1) : s.Counts (if c then p else q).1 := by
  split
  case isTrue h => exact hp h
  case isFalse h => exact hq h

theorem onSuccess {r : Outcome} {next : LonUsbLinkState → Outcome} (hr : s.Counts r.1)
    (hnext : ∀ t : LonUsbLinkState, t.Counts (next t).1) :
    s.Counts (LonUsb.onSuccess r next).1 :=
  hr.trans (.ite_fst (fun _ => hnext _) fun _ => .refl _)

end Counts

variable (s : LonUsbLinkState)

theorem counts_writeDownlinkCodePacket (frameCmd parameter : UInt8) :
    s.Counts (s.writeDownlinkCodePacket frameCmd parameter) := by
  have hack : s.Counts (if NO_ACK_REQUIRED < s.downlinkAckSeqNumber then
      { s with downlinkAckSeqNumber := NO_ACK_REQUIRED } else s) :=
    .ite (fun _ => .of_eq rfl rfl) fun _ => .refl s
  exact hack.trans (.ite (fun _ => .of_eq rfl rfl) fun _ => .of_eq rfl rfl)

theorem counts_stopAckTimer : s.Counts s.stopAckTimer := .inl rfl

theorem counts_resetDownlinkState : s.Counts s.resetDownlinkState := .inl rfl

theorem counts_startAckTimer (now : OsalTickCount) (nextState : DownlinkState) :
    s.Counts (s.startAckTimer now nextState) := .inl rfl

theorem counts_queueDownlinkBuffer (src : LonUsbQueueBuffer) :
    s.Counts (s.queueDownlinkBuffer src).1 := by
  unfold queueDownlinkBuffer
  split <;> split <;> exact .of_eq rfl rfl

theorem counts_stage (f : LonDataFrame) : s.Counts (s.stage f).1 :=
  .ite_fst (fun _ => .ite_fst (fun _ => .of_eq rfl rfl) fun _ => .of_eq rfl rfl) fun _ =>
    .ite_fst (fun _ => .of_eq rfl rfl) fun _ => .of_eq rfl rfl

theorem counts_writeLonUsbMsg (f : LonDataFrame) : s.Counts (s.writeLonUsbMsg f).1 := by
  have hstage : s.Counts (s.stage f).1 := s.counts_stage f
  refine .ite_fst (fun _ => .refl s) fun _ => .ite_fst (fun _ => ?_) fun _ => .refl s
  generalize s.stage f = r at hstage ⊢
  obtain ⟨t, status⟩ := r
  have hpriority : t.Counts { t with
      downlinkBufferStaging := { t.downlinkBufferStaging with priority := f.priority } } :=
    .of_eq rfl rfl
  exact (hstage.trans hpriority).trans
    (.ite_fst (fun _ => counts_queueDownlinkBuffer _ _) fun _ => .refl _)

theorem counts_writeDownlinkMessage (now : OsalTickCount) :
    s.Counts (s.writeDownlinkMessage now).1 := by
  have hack : s.Counts { s with downlinkAckSeqNumber := ACK_WITH_NEXT_SEQ_NUM } := .of_eq rfl rfl
  have hannounce : s.Counts s.announceMessage := hack.trans (counts_writeDownlinkCodePacket _ _ _)
  refine .ite_fst (fun _ => .refl s) fun _ => hannounce.trans ?_
  generalize s.announceMessage = t
  dsimp only
  split
  case h_1 => exact .refl t
  case h_2 =>
    have htimer : t.Counts (if DownlinkState.idleStart.ctorIdx ≤ t.downlinkState.ctorIdx then
        t.startAckTimer now .waitMsgAck else t) :=
      .ite (fun _ => t.counts_startAckTimer now _) fun _ => .refl t
    exact htimer.trans (.of_eq rfl rfl)

theorem counts_writeDownlinkLocalNiCmd (now : OsalTickCount) :
    s.Counts (s.writeDownlinkLocalNiCmd now) := by
  unfold writeDownlinkLocalNiCmd
  dsimp only
  have hrsp (rsp : UInt8) : s.Counts { s with uplinkExpectedRsp := rsp } := .of_eq rfl rfl
  generalize s.downlinkBufferStaging.usbNiDataFrame.niCommand = cmd
  have hwrite := (hrsp (getExpectedResponse cmd)).trans
    (counts_writeDownlinkCodePacket _ SHORT_NI_CMD_FRAME_CMD cmd)
  exact .ite (fun _ => hwrite.trans (counts_startAckTimer _ now _)) fun _ => hwrite

theorem counts_sendAck : s.Counts s.sendAck :=
  .ite (fun _ => (s.counts_writeDownlinkCodePacket NULL_FRAME_CMD 0).trans (.of_eq rfl rfl))
    fun _ => .refl s

theorem counts_readDownlinkBuffer : s.Counts s.readDownlinkBuffer.1 := by
  unfold readDownlinkBuffer
  split <;> split <;> exact .of_eq rfl rfl

theorem counts_writeDownlinkBuffer (now : OsalTickCount) :
    s.Counts (s.writeDownlinkBuffer now).1 :=
  .ite_fst (fun _ => s.counts_resetDownlinkState.trans (counts_writeDownlinkLocalNiCmd _ now))
    fun _ => s.counts_writeDownlinkMessage now

theorem counts_processNextDownlinkMessage (now : OsalTickCount) :
    s.Counts (s.processNextDownlinkMessage now).1 := by
  have hread : s.Counts s.sendAck.readDownlinkBuffer.1 :=
    s.counts_sendAck.trans s.sendAck.counts_readDownlinkBuffer
  exact .ite_fst (fun _ => hread) fun _ => hread.onSuccess fun t => t.counts_writeDownlinkBuffer now

theorem counts_resetUplinkState : s.Counts s.resetUplinkState := .inl rfl

theorem counts_clearUplinkTransaction : s.Counts s.clearUplinkTransaction := by
  have hclear (t : LonUsbLinkState) : t.Counts
      { t.incrementDownlinkSequence with
        uplinkExpectedRsp := LonNiClearCmd
        uplinkAckTimeoutPhase := 0 } := .of_eq rfl rfl
  exact (Counts.ite (fun _ => .inl rfl) fun _ =>
    .ite (fun _ => s.counts_resetDownlinkState) fun _ => .refl s).trans (hclear _)

theorem counts_processAck (header : LonFrameHeader) : s.Counts (s.processAck header) :=
  .ite (fun _ => s.counts_clearUplinkTransaction) fun _ => .refl s

theorem counts_checkSequence (header : LonFrameHeader) : s.Counts (s.checkSequence header) :=
  .ite (fun _ => .of_eq rfl rfl) fun _ => .refl s

theorem counts_rejectCodePacket (now : OsalTickCount) : s.Counts (s.rejectCodePacket now).1 := by
  have htimer (t : LonUsbLinkState) (timer : OsalTickCount) : t.Counts (t.setRejectTimer timer) :=
    .of_eq rfl rfl
  have hwrite := (htimer s.stopAckTimer 0).trans
    (counts_writeDownlinkCodePacket _ SHORT_NI_CMD_FRAME_CMD LonNiResetDeviceCmd)
  exact .ite_fst (fun _ => s.counts_stopAckTimer.trans (.ite_fst (fun _ => htimer _ _) fun _ =>
    .ite_fst (fun _ => hwrite) fun _ => .refl _)) fun _ => .refl s

theorem counts_queueUplinkBuffer : s.Counts s.queueUplinkBuffer.1 := by
  unfold queueUplinkBuffer
  split <;> split <;> exact .of_eq rfl rfl

theorem counts_processUplinkMessage : s.Counts s.processUplinkMessage.1 :=
  .ite_fst (fun _ => .ite_fst (fun _ => .of_eq rfl rfl) fun _ => .refl s) fun _ =>
    .ite_fst (fun _ => .ite_fst (fun _ => .of_eq rfl rfl) fun _ => .refl s) fun _ =>
      s.counts_queueUplinkBuffer

theorem counts_acceptMessage : s.Counts s.acceptMessage.1 := by
  have hhandle (niCmd : UInt8) : s.Counts (s.handleNiCommand niCmd) :=
    .ite (fun _ => .of_eq rfl rfl) fun _ => .refl s
  exact (hhandle _).trans (.ite_fst (fun _ => .refl _) fun _ => counts_processUplinkMessage _)

theorem counts_checkUplinkCompleted : s.Counts s.checkUplinkCompleted.1 := by
  by_cases hc : s.Completed
  case pos =>
    rw [checkUplinkCompleted_of_completed hc]
    have hmessage : s.Counts (if FilteredUplink s.uplinkBuffer.usbNiDataFrame.niCommand then
        (s, LonStatusCode.noError) else s.acceptMessage).1 :=
      .ite_fst (fun _ => .refl s) fun _ => s.counts_acceptMessage
    exact hmessage.trans (counts_resetUplinkState _)
  case neg =>
    rw [checkUplinkCompleted_of_not hc]
    exact .of_eq rfl rfl

theorem counts_shortNiCmdCodePacket (parameter sequenceNumber : UInt8) :
    s.Counts (s.shortNiCmdCodePacket parameter sequenceNumber).1 := by
  have hack : s.Counts (s.setDownlinkAckSeqNumber sequenceNumber.toNat) := .of_eq rfl rfl
  have hrestart (t : LonUsbLinkState) : t.Counts (t.restartOnReset parameter) :=
    .ite (fun _ => .leave rfl (show ¬DownlinkState.start.Awaiting by decide)) fun _ => .refl t
  have hstore (t : LonUsbLinkState) : t.Counts (t.storeShortNiCmd parameter) := .of_eq rfl rfl
  refine hack.trans (.ite_fst (fun _ => counts_resetUplinkState _) fun _ =>
    .ite_fst (fun _ => .refl _) fun _ => ((hrestart _).trans (hstore _)).trans ?_)
  exact .onSuccess (counts_processUplinkMessage _) fun t => t.counts_resetUplinkState

theorem counts_processUplinkCodePacket (now : OsalTickCount) :
    s.Counts (s.processUplinkCodePacket now).1 := by
  have hack : s.Counts ((s.checkSequence s.uplinkBuffer.frameHeader).processAck
      s.uplinkBuffer.frameHeader) :=
    (s.counts_checkSequence _).trans (counts_processAck _ _)
  exact hack.trans (.ite_fst (fun _ => .of_eq rfl rfl) fun _ =>
    .ite_fst (fun _ => counts_shortNiCmdCodePacket _ _ _) fun _ =>
    .ite_fst (fun _ => counts_rejectCodePacket _ now) fun _ =>
    .ite_fst (fun _ => (counts_clearUplinkTransaction _).trans (counts_stopAckTimer _)) fun _ =>
    .ite_fst (fun _ => .of_eq rfl rfl) fun _ => .refl _)

theorem counts_codePacketChecksumByte (now : OsalTickCount) (b : UInt8) :
    s.Counts (s.codePacketChecksumByte now b).1 := by
  have hset (header : LonFrameHeader) : s.Counts (s.setFrameHeader header) := .of_eq rfl rfl
  refine (hset { s.uplinkBuffer.frameHeader with checksum := b }).trans
    (.ite_fst (fun _ => ?_) fun _ => .of_eq rfl rfl)
  exact (counts_processUplinkCodePacket _ now).onSuccess fun t =>
    .ite_fst (fun _ => .of_eq rfl rfl) fun _ => .of_eq rfl rfl

theorem counts_checkMsgTimer (now : OsalTickCount) : s.Counts (s.checkMsgTimer now) :=
  .ite (fun _ => s.counts_resetUplinkState) fun _ => .refl s

theorem counts_messageByte (now : OsalTickCount) (last : Bool) (b : UInt8) :
    s.Counts (s.messageByte now last b).1 := by
  have hescape : s.Counts ((s.storeByte b).setUplinkState .escapedData) := .of_eq rfl rfl
  have hstore : s.Counts (s.storeByte b) := .of_eq rfl rfl
  have hcheck := hstore.trans (s.storeByte b).counts_checkUplinkCompleted
  exact .ite_fst (fun _ => hescape.trans (counts_checkMsgTimer _ now)) fun _ =>
    .ite_fst (fun _ => hcheck) fun _ =>
      .ite_fst (fun _ => hcheck.trans (counts_checkMsgTimer _ now)) fun _ => hcheck

theorem counts_escapedDataByte (b : UInt8) : s.Counts (s.escapedDataByte b).1 := by
  have hunescape : s.Counts (s.unescape b) :=
    .ite (fun _ => .of_eq rfl rfl) fun _ => .ite (fun _ => .of_eq rfl rfl) fun _ => .inl rfl
  exact hunescape.trans (counts_checkUplinkCompleted _)

theorem counts_processUplinkByte (now : OsalTickCount) (last : Bool) (b : UInt8) :
    s.Counts (s.processUplinkByte now last b).1 := by
  have hidle (t : LonUsbLinkState) : t.Counts (t.idleByte b) :=
    .ite (fun _ => .of_eq rfl rfl) fun _ => .of_eq rfl rfl
  unfold processUplinkByte
  cases s.uplinkState with
  | idle => exact hidle s
  | frameCode =>
    have hback : s.Counts ((s.setUplinkState .idle).setUplinkFrameError true) := .of_eq rfl rfl
    exact .ite (fun _ => .of_eq rfl rfl) fun _ => .ite (fun _ => .of_eq rfl rfl) fun _ =>
      hback.trans (hidle _)
  | frameParameter => exact .of_eq rfl rfl
  | codePacketChecksum => exact s.counts_codePacketChecksumByte now b
  | message => exact s.counts_messageByte now last b
  | escapedData => exact s.counts_escapedDataByte b

variable {s}

theorem Counts.enter {t : LonUsbLinkState} {state : DownlinkState} (hst : s.Counts t)
    (hstate : ¬state.Awaiting) : s.Counts (t.setDownlinkState state) :=
  hst.trans (.leave rfl hstate)

theorem Counts.next {t : LonUsbLinkState} (hst : s.Counts t) (now : OsalTickCount) :
    s.Counts (t.processNextDownlinkMessage now).1 :=
  hst.trans (t.counts_processNextDownlinkMessage now)

variable (s)

theorem counts_sendResync (now : OsalTickCount) : s.Counts (s.sendResync now) := by
  have hwrite : s.Counts (s.writeDownlinkCodePacket NI_RESYNC_FRAME_CMD 0) :=
    s.counts_writeDownlinkCodePacket _ _
  exact .ite (fun _ => hwrite.trans (.leave rfl
    (show ¬DownlinkState.waitStartupResyncAck.Awaiting by decide))) fun _ => .refl s

theorem counts_waitStartupReset (now : OsalTickCount) : s.Counts (s.waitStartupReset now) := by
  have hreset : s.Counts { s with haveReset := false } := .of_eq rfl rfl
  exact .ite (fun _ => (hreset.trans (counts_sendResync _ now)).trans (.leave rfl
    (show ¬DownlinkState.waitStartupResyncAck.Awaiting by decide))) fun _ => .refl s

theorem counts_waitStartupResyncAck (now : OsalTickCount) :
    s.Counts (s.waitStartupResyncAck now) :=
  .ite (fun _ => .leave rfl (show ¬DownlinkState.waitResyncReset.Awaiting by decide)) fun _ =>
    .ite (fun _ => (s.counts_sendResync now).trans (.of_eq rfl rfl)) fun _ => .refl s

theorem counts_waitResyncReset (now : OsalTickCount) : s.Counts (s.waitResyncReset now) := by
  refine .ite (fun _ => .ite (fun _ => ?_) fun _ => .ite (fun _ => ?_) fun _ =>
    .ite (fun _ => ?_) fun _ => ?_) fun _ => .refl s
  · exact .leave rfl (show ¬DownlinkState.niUniqueIdRequest.Awaiting by decide)
  · exact .leave rfl (show ¬DownlinkState.mipStatusRequest.Awaiting by decide)
  · exact .leave rfl (show ¬DownlinkState.layer2Request.Awaiting by decide)
  · exact .leave rfl (show ¬DownlinkState.idleStart.Awaiting by decide)

theorem counts_layerRequest (now : OsalTickCount) (mode : Int) {nextState : DownlinkState}
    (hnext : ¬nextState.Awaiting) : s.Counts (s.layerRequest now mode nextState).1 := by
  have hmode : s.Counts { s with
      currentIfaceMode := mode
      l2L5Mode := LON_IFACE_MODE_UNKNOWN } := .of_eq rfl rfl
  have hwrite : s.Counts (s.setNiLayerMode mode).1 := hmode.trans (counts_writeLonUsbMsg _ _)
  exact hwrite.onSuccess fun t => .leave rfl hnext

theorem counts_waitLayer5Ack (now : OsalTickCount) : s.Counts (s.waitLayer5Ack now) :=
  .ite (fun _ => .leave rfl (show ¬DownlinkState.niUniqueIdRequest.Awaiting by decide)) fun _ =>
    .ite (fun _ => .leave rfl (show ¬DownlinkState.waitStartupResyncAck.Awaiting by decide))
      fun _ => .refl s

theorem counts_niUniqueIdRequest (now : OsalTickCount) :
    s.Counts (s.niUniqueIdRequest now).1 := by
  have hrequest : s.Counts (s.requestUsbNiUid now).1 :=
    .ite_fst (fun _ => .refl s) fun _ => .ite_fst (fun _ => .of_eq rfl rfl) fun _ =>
      (s.counts_writeLonUsbMsg MsgUniqueId).onSuccess fun t =>
        .leave rfl (show ¬DownlinkState.waitNiUniqueId.Awaiting by decide)
  exact .ite_fst (fun _ => .leave rfl (show ¬DownlinkState.layer5Request.Awaiting by decide))
    fun _ => hrequest.onSuccess fun t =>
      .leave rfl (show ¬DownlinkState.waitNiUniqueId.Awaiting by decide)

theorem counts_waitNiUniqueId (now : OsalTickCount) : s.Counts (s.waitNiUniqueId now) :=
  .ite (fun _ => .leave rfl (show ¬DownlinkState.layer2Request.Awaiting by decide)) fun _ =>
    .ite (fun _ => .ite
      (fun _ => .leave rfl (show ¬DownlinkState.niUniqueIdRequest.Awaiting by decide))
      fun _ => .leave rfl (show ¬DownlinkState.mipStatusRequest.Awaiting by decide))
      fun _ => .refl s

theorem counts_waitLayer2Ack (now : OsalTickCount) : s.Counts (s.waitLayer2Ack now) :=
  .ite (fun _ => .leave rfl (show ¬DownlinkState.mipStatusRequest.Awaiting by decide)) fun _ =>
    .ite (fun _ => .leave rfl (show ¬DownlinkState.waitStartupResyncAck.Awaiting by decide))
      fun _ => .refl s

theorem counts_mipStatusRequest (now : OsalTickCount) : s.Counts (s.mipStatusRequest now).1 := by
  have hrequest : s.Counts (s.requestUsbNiStatus now).1 :=
    .ite_fst (fun _ => .refl s) fun _ => .ite_fst (fun _ => .of_eq rfl rfl) fun _ =>
      (s.counts_writeLonUsbMsg MsgStatus).onSuccess fun t =>
        .leave rfl (show ¬DownlinkState.waitMipStatus.Awaiting by decide)
  exact .ite_fst (fun _ => .leave rfl (show ¬DownlinkState.layer2Request.Awaiting by decide))
    fun _ => hrequest.onSuccess fun t =>
      .leave rfl (show ¬DownlinkState.waitMipStatus.Awaiting by decide)

theorem counts_waitMipStatus (now : OsalTickCount) : s.Counts (s.waitMipStatus now) :=
  .ite (fun _ => .leave rfl (show ¬DownlinkState.idleStart.Awaiting by decide)) fun _ =>
    .ite (fun _ => .ite
      (fun _ => .leave rfl (show ¬DownlinkState.mipStatusRequest.Awaiting by decide))
      fun _ => .leave rfl (show ¬DownlinkState.idleStart.Awaiting by decide)) fun _ => .refl s

theorem counts_idleStart : s.Counts s.idleStart :=
  .ite (fun _ => .leave rfl (show ¬DownlinkState.layer2Request.Awaiting by decide)) fun _ =>
    (s.counts_writeDownlinkCodePacket NULL_FRAME_CMD 0).trans
      (.leave rfl (show ¬DownlinkState.idle.Awaiting by decide))

theorem counts_processDownlinkRequests (hstate : ¬s.downlinkState.Awaiting)
    (now : OsalTickCount) : s.Counts (s.processDownlinkRequests now).1 := by
  have hstart : s.Counts (s.setDownlinkState .start) :=
    .leave rfl (show ¬DownlinkState.start.Awaiting by decide)
  unfold processDownlinkRequests
  refine .ite_fst (fun _ => .refl s) fun _ => ?_
  cases hcase : s.downlinkState with
  | start => exact .inl rfl
  | waitStartupReset => exact (s.counts_waitStartupReset now).next now
  | waitStartupResyncAck => exact (s.counts_waitStartupResyncAck now).next now
  | waitResyncReset => exact (s.counts_waitResyncReset now).next now
  | layer5Request =>
    exact (s.counts_layerRequest now _ (show ¬DownlinkState.waitLayer5Ack.Awaiting by decide)).onSuccess
      fun t => t.counts_processNextDownlinkMessage now
  | waitLayer5Ack => exact (s.counts_waitLayer5Ack now).next now
  | niUniqueIdRequest =>
    exact (s.counts_niUniqueIdRequest now).onSuccess fun t =>
      t.counts_processNextDownlinkMessage now
  | waitNiUniqueId => exact (s.counts_waitNiUniqueId now).next now
  | layer2Request =>
    exact (s.counts_layerRequest now _ (show ¬DownlinkState.waitLayer2Ack.Awaiting by decide)).onSuccess
      fun t => t.counts_processNextDownlinkMessage now
  | waitLayer2Ack => exact (s.counts_waitLayer2Ack now).next now
  | mipStatusRequest =>
    exact (s.counts_mipStatusRequest now).onSuccess fun t =>
      t.counts_processNextDownlinkMessage now
  | waitMipStatus => exact (s.counts_waitMipStatus now).next now
  | idleStart => exact s.counts_idleStart.next now
  | idle => exact s.counts_processNextDownlinkMessage now
  | waitCpAck | waitMsgAck | waitCpResponse =>
    rw [hcase] at hstate
    exact absurd (by decide) hstate
  | waitL5ResyncAck | waitL5Reset | waitL2ResyncAck | waitL2Reset | waitCpMsgReqAck | invalid =>
    exact hstart

theorem countTimeout_of_first (h : s.uplinkAckTimeouts = 0) :
    s.countTimeout.uplinkAckTimeouts = 1 := by
  unfold countTimeout
  dsimp only
  split
  case isTrue => rfl
  case isFalse => exact congrArg (· + 1) h

theorem ackTimeout_of_first (h : s.uplinkAckTimeouts = 0) (now : OsalTickCount) :
    s.ackTimeout now = s.countTimeout := by
  rw [ackTimeout_eq, countTimeout_of_first s h]
  exact if_neg (by decide)

theorem downlinkState_countTimeout : s.countTimeout.downlinkState = .idle := by
  unfold countTimeout
  dsimp only
  split <;> rfl

theorem usbOut_countTimeout : s.countTimeout.usbOut = s.usbOut := by
  unfold countTimeout
  dsimp only
  split <;> rfl

variable {s}

theorem Uncounted.waitAck (h : s.Uncounted) (hstate : s.downlinkState.Awaiting)
    (now : OsalTickCount) : (s.waitAck now).1.Uncounted := by
  unfold LonUsbLinkState.waitAck
  split
  case isTrue => exact h
  case isFalse =>
    rw [s.ackTimeout_of_first (h hstate)]
    have huncounted : s.countTimeout.Uncounted := fun hawait => by
      rw [downlinkState_countTimeout] at hawait
      exact absurd hawait (by decide)
    exact huncounted.counts (counts_processNextDownlinkMessage _ now)

theorem Uncounted.processDownlinkRequests (h : s.Uncounted) (now : OsalTickCount) :
    (s.processDownlinkRequests now).1.Uncounted := by
  by_cases hstate : s.downlinkState.Awaiting
  case neg => exact h.counts (s.counts_processDownlinkRequests hstate now)
  case pos =>
    have hwait := h.waitAck hstate now
    unfold LonUsbLinkState.processDownlinkRequests
    split
    case isTrue => exact h
    case isFalse => obtain hs | hs | hs := hstate <;> rw [hs] <;> exact hwait

end LonUsbLinkState

theorem uncounted_linkStep {s : LonUsbLinkState} (h : s.Uncounted) (e : LinkEvent) :
    (linkStep e s).Uncounted := by
  cases e with
  | writeLonUsbMsg f => exact h.counts (s.counts_writeLonUsbMsg f)
  | processDownlinkRequests now => exact h.processDownlinkRequests now
  | processUplinkByte x =>
    exact h.counts (.ite (fun _ => .refl s) fun _ => s.counts_processUplinkByte x.now x.last x.byte)
  | readUplinkBuffer =>
    refine h.counts ?_
    change s.Counts s.readUplinkBuffer.1
    unfold LonUsbLinkState.readUplinkBuffer
    split <;> split <;> exact .of_eq rfl rfl
  | setRing bytes => exact h.counts (.of_eq rfl rfl)

def TimesOut (now : OsalTickCount) (x : LonUsbLinkState × LinkEvent) : Prop :=
  x.2 = .processDownlinkRequests now ∧ x.1.shutdown = false ∧ x.1.AckTimedOut now

def AnswerReceived (x : LonUsbLinkState × LinkEvent) : Prop :=
  ∃ b ∈ x.2.byte?, x.1.uplinkState = .codePacketChecksum ∧
    validateChecksum (x.1.completedHeader b).toList = true ∧
      ((x.1.completedHeader b).ack ≠ 0 ∨ LonUsbLinkState.CpFailOrReject (x.1.completedHeader b).cmd)

def reportStatusFrame : LonDataFrame :=
  ⟨MsgReportStatus 0, MsgReportStatus 1, fun k => MsgReportStatus (k + 2)⟩

def LonUsbLinkState.RequestsStatus (s : LonUsbLinkState) (now : OsalTickCount) : Prop :=
  (s.ackTimeout now).downlinkSeqNumber = s.incrementDownlinkSequence.downlinkSeqNumber ∧
    (s.ackTimeout now).usbOut = s.usbOut ++
      messageBytes (sequenceByte s.incrementDownlinkSequence.downlinkSeqNumber)
        reportStatusFrame.shortBytes

structure SecondTimeout (h : LinkHistory) (now : OsalTickCount) (s : LonUsbLinkState)
    (h₁ : LinkHistory) : Prop where
  suffix : (s, .processDownlinkRequests now) :: h₁ <:+ h
  second : TimesOut now (s, .processDownlinkRequests now)
  first : Since (fun x => ∃ now, TimesOut now x) AnswerReceived h₁

theorem messageBytes_ne_nil {seq : UInt8} {frame : List UInt8} : messageBytes seq frame ≠ [] :=
  List.cons_ne_nil _ _

/-- The count never gets past one, because every message starts it anew, so that no run of timeouts
ever requests the status. -/
theorem not_requestsStatus {s t : LonUsbLinkState} {h : LinkHistory} (hs : ¬s.downlinkState.Awaiting)
    (hrun : LinkRun s h t) :
    ∀ now u h₁, SecondTimeout h now u h₁ → ¬u.RequestsStatus now := by
  intro now u h₁ hsecond hrequests
  have huncounted : u.Uncounted := (hrun.of_suffix hsecond.suffix).invariant
    (fun e t _ ht => uncounted_linkStep ht e) (show ∀ x ∈ h₁, True from fun _ _ => trivial)
    fun hawait => absurd hawait hs
  have hout : (u.ackTimeout now).usbOut = u.usbOut := by
    rw [u.ackTimeout_of_first (huncounted hsecond.second.2.2.1), u.usbOut_countTimeout]
  exact messageBytes_ne_nil (List.self_eq_append_right.mp (hout.symm.trans hrequests.2))

def unansweredEvents : List LinkEvent := timeoutEvents ++ [.processDownlinkRequests 7000]

def unansweredLink : LonUsbLinkState := timeoutEvents.foldl (fun s e => linkStep e s) reopenedLink

theorem secondTimeout_unanswered :
    SecondTimeout (history linkStep reopenedLink unansweredEvents) 7000 unansweredLink
      (history linkStep reopenedLink timeoutEvents) where
  suffix := List.suffix_refl _
  second := ⟨rfl, by decide, by decide⟩
  first := .inl ⟨5000, rfl, by decide, by decide⟩

theorem not_requestsStatus_unanswered : ¬unansweredLink.RequestsStatus 7000 :=
  not_requestsStatus (by decide) (Run.history linkStep reopenedLink unansweredEvents) 7000 _ _
    secondTimeout_unanswered

theorem not_requestsStatus_second :
    ¬∀ (s t : LonUsbLinkState) (h : LinkHistory), ¬s.downlinkState.Awaiting → LinkRun s h t →
      ∀ now u h₁, SecondTimeout h now u h₁ → u.RequestsStatus now := by
  intro hall
  have hrequests := hall reopenedLink _ _ (by decide)
    (Run.history linkStep reopenedLink unansweredEvents) 7000 _ _ secondTimeout_unanswered
  exact absurd hrequests.1 (by decide)

end LonStack.LonUsb
