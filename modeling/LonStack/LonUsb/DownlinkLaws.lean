import LonStack.LonUsb.System

namespace LonStack.LonUsb

open Lib

structure UplinkView where
  shutdown : Bool
  lonUsbIfaceType : LonUsbIfaceType
  uplinkState : UplinkState
  uplinkBuffer : LonUsbQueueBuffer
  uplinkMsgIndex : Nat
  uplinkMsgLength : Nat
  uplinkDuplicate : Bool
  uplinkSeqNumber : Int
  lonUsbUplinkNormalQueue : Queue LonUsbQueueBuffer
  lonUsbUplinkPriorityQueue : Queue LonUsbQueueBuffer

def UplinkView.reset (v : UplinkView) : UplinkView :=
  { v with
    uplinkState := .idle
    uplinkMsgIndex := 0
    uplinkMsgLength := 0
    uplinkDuplicate := false }

def UplinkView.resync (v : UplinkView) : UplinkView := { v with uplinkSeqNumber := 0 }

namespace LonUsbLinkState

def uplinkView (s : LonUsbLinkState) : UplinkView :=
  ⟨s.shutdown, s.lonUsbIfaceType, s.uplinkState, s.uplinkBuffer, s.uplinkMsgIndex,
    s.uplinkMsgLength, s.uplinkDuplicate, s.uplinkSeqNumber, s.lonUsbUplinkNormalQueue,
    s.lonUsbUplinkPriorityQueue⟩

variable (s : LonUsbLinkState)

section Combinators

variable {v : UplinkView} {c : Prop} [Decidable c]

theorem uplinkView_ite {t u : LonUsbLinkState} (ht : c → t.uplinkView = v)
    (hu : ¬c → u.uplinkView = v) : (if c then t else u).uplinkView = v := by
  split
  case isTrue h => exact ht h
  case isFalse h => exact hu h

theorem uplinkView_ite_fst {γ : Type} {p q : LonUsbLinkState × γ} (hp : c → p.1.uplinkView = v)
    (hq : ¬c → q.1.uplinkView = v) : (if c then p else q).1.uplinkView = v := by
  split
  case isTrue h => exact hp h
  case isFalse h => exact hq h

theorem uplinkView_onSuccess {r : Outcome} {next : LonUsbLinkState → Outcome}
    (hr : r.1.uplinkView = v) (hnext : ∀ t, (next t).1.uplinkView = t.uplinkView) :
    (onSuccess r next).1.uplinkView = v :=
  uplinkView_ite_fst (fun _ => (hnext _).trans hr) fun _ => hr

end Combinators

theorem uplinkView_writeDownlinkCodePacket {frameCmd : UInt8} (h : frameCmd ≠ NI_RESYNC_FRAME_CMD)
    (parameter : UInt8) : (s.writeDownlinkCodePacket frameCmd parameter).uplinkView = s.uplinkView := by
  have hack : (if NO_ACK_REQUIRED < s.downlinkAckSeqNumber then
      { s with downlinkAckSeqNumber := NO_ACK_REQUIRED } else s).uplinkView = s.uplinkView :=
    uplinkView_ite (fun _ => rfl) fun _ => rfl
  exact uplinkView_ite (fun hresync => absurd hresync h) fun _ => hack

theorem uplinkView_resync (parameter : UInt8) :
    (s.writeDownlinkCodePacket NI_RESYNC_FRAME_CMD parameter).uplinkView = s.uplinkView.resync := by
  unfold writeDownlinkCodePacket
  dsimp only
  rw [if_pos rfl]
  split <;> rfl

theorem uplinkView_writeDownlinkMessage (now : OsalTickCount) :
    (s.writeDownlinkMessage now).1.uplinkView = s.uplinkView := by
  have hannounce : s.announceMessage.uplinkView = s.uplinkView :=
    uplinkView_writeDownlinkCodePacket _ (by decide) _
  refine uplinkView_ite_fst (fun _ => rfl) fun _ => ?_
  generalize s.announceMessage = t at hannounce ⊢
  rw [← hannounce]
  dsimp only
  split
  · rfl
  · split <;> rfl

theorem uplinkView_queueDownlinkBuffer (src : LonUsbQueueBuffer) :
    (s.queueDownlinkBuffer src).1.uplinkView = s.uplinkView := by
  unfold queueDownlinkBuffer
  split <;> split <;> rfl

theorem uplinkView_stage (f : LonDataFrame) : (s.stage f).1.uplinkView = s.uplinkView :=
  uplinkView_ite_fst (fun _ => uplinkView_ite_fst (fun _ => rfl) fun _ => rfl) fun _ =>
    uplinkView_ite_fst (fun _ => rfl) fun _ => rfl

theorem uplinkView_writeLonUsbMsg (f : LonDataFrame) :
    (s.writeLonUsbMsg f).1.uplinkView = s.uplinkView := by
  have hstage := s.uplinkView_stage f
  refine uplinkView_ite_fst (fun _ => rfl) fun _ => uplinkView_ite_fst (fun _ => ?_) fun _ => rfl
  generalize s.stage f = r at hstage ⊢
  obtain ⟨t, status⟩ := r
  rw [← hstage]
  exact uplinkView_ite_fst (fun _ => uplinkView_queueDownlinkBuffer _ _) fun _ => rfl

theorem uplinkView_sendResync (now : OsalTickCount) :
    (s.sendResync now).uplinkView = s.uplinkView ∨
      (s.sendResync now).uplinkView = s.uplinkView.resync := by
  unfold sendResync
  split
  case isTrue => exact .inr (s.uplinkView_resync 0)
  case isFalse => exact .inl rfl

theorem uplinkView_requestUsbNiUid (now : OsalTickCount) :
    (s.requestUsbNiUid now).1.uplinkView = s.uplinkView :=
  uplinkView_ite_fst (fun _ => rfl) fun _ => uplinkView_ite_fst (fun _ => rfl) fun _ =>
    uplinkView_onSuccess (s.uplinkView_writeLonUsbMsg _) fun _ => rfl

theorem uplinkView_requestUsbNiStatus (now : OsalTickCount) :
    (s.requestUsbNiStatus now).1.uplinkView = s.uplinkView :=
  uplinkView_ite_fst (fun _ => rfl) fun _ => uplinkView_ite_fst (fun _ => rfl) fun _ =>
    uplinkView_onSuccess (s.uplinkView_writeLonUsbMsg _) fun _ => rfl

theorem uplinkView_writeDownlinkLocalNiCmd (now : OsalTickCount) :
    (s.writeDownlinkLocalNiCmd now).uplinkView = s.uplinkView := by
  have hwrite (rsp : UInt8) := uplinkView_writeDownlinkCodePacket
    { s with uplinkExpectedRsp := rsp } (show SHORT_NI_CMD_FRAME_CMD ≠ _ by decide)
      s.downlinkBufferStaging.usbNiDataFrame.niCommand
  exact uplinkView_ite (fun _ => hwrite _) fun _ => hwrite _

theorem uplinkView_readDownlinkBuffer : s.readDownlinkBuffer.1.uplinkView = s.uplinkView := by
  unfold readDownlinkBuffer
  split <;> split <;> rfl

theorem uplinkView_writeDownlinkBuffer (now : OsalTickCount) :
    (s.writeDownlinkBuffer now).1.uplinkView = s.uplinkView :=
  uplinkView_ite_fst (fun _ => uplinkView_writeDownlinkLocalNiCmd _ now) fun _ =>
    s.uplinkView_writeDownlinkMessage now

theorem uplinkView_sendAck : s.sendAck.uplinkView = s.uplinkView :=
  uplinkView_ite (fun _ => s.uplinkView_writeDownlinkCodePacket (by decide) 0) fun _ => rfl

theorem uplinkView_processNextDownlinkMessage (now : OsalTickCount) :
    (s.processNextDownlinkMessage now).1.uplinkView = s.uplinkView := by
  have hread := s.sendAck.uplinkView_readDownlinkBuffer.trans s.uplinkView_sendAck
  exact uplinkView_ite_fst (fun _ => hread) fun _ =>
    uplinkView_onSuccess hread fun t => t.uplinkView_writeDownlinkBuffer now

theorem uplinkView_reportStatus (now : OsalTickCount) :
    (s.reportStatus now).uplinkView = s.uplinkView :=
  uplinkView_writeDownlinkMessage _ now

def SendsResync (now : OsalTickCount) : Prop :=
  (s.downlinkState = .waitStartupReset ∧
      (s.haveReset ∨ NI_RESET_WAIT_TIME < now - s.resetWaitTimer)) ∨
    (s.downlinkState = .waitStartupResyncAck ∧ s.haveNull = false ∧
      NI_NULL_WAIT_TIME < now - s.nullWaitTimer)

instance (now : OsalTickCount) : Decidable (s.SendsResync now) :=
  inferInstanceAs (Decidable ((_ ∧ (_ ∨ _)) ∨ (_ ∧ _ ∧ _)))

def KeepsUplink (t : LonUsbLinkState) : Prop :=
  t.uplinkView = s.uplinkView ∨ t.uplinkView = s.uplinkView.reset

theorem KeepsUplink.next {s t : LonUsbLinkState} (h : s.KeepsUplink t) (now : OsalTickCount) :
    s.KeepsUplink (t.processNextDownlinkMessage now).1 := by
  unfold KeepsUplink
  rw [t.uplinkView_processNextDownlinkMessage now]
  exact h

theorem KeepsUplink.onSuccess {s : LonUsbLinkState} {r : Outcome}
    (h : r.1.uplinkView = s.uplinkView) (now : OsalTickCount) :
    s.KeepsUplink (LonUsb.onSuccess r fun t => t.processNextDownlinkMessage now).1 :=
  .inl (uplinkView_onSuccess h fun t => t.uplinkView_processNextDownlinkMessage now)

theorem keepsUplink_ackTimeout (now : OsalTickCount) : s.KeepsUplink (s.ackTimeout now) := by
  have hreset : s.KeepsUplink (if (s.setDownlinkState .idle).uplinkState = .idle ∧
      (s.setDownlinkState .idle).uplinkMsgIndex ≠ 0 then (s.setDownlinkState .idle).resetUplinkState
        else s.setDownlinkState .idle) := by
    split
    case isTrue => exact .inr rfl
    case isFalse => exact .inl rfl
  have hresync (t : LonUsbLinkState) : (t.resyncAckTimeout now).uplinkView = t.uplinkView :=
    uplinkView_ite (fun _ => t.uplinkView_reportStatus now) fun _ =>
      uplinkView_ite (fun _ => rfl) fun _ => rfl
  unfold ackTimeout
  dsimp only
  generalize (if (s.setDownlinkState .idle).uplinkState = .idle ∧
    (s.setDownlinkState .idle).uplinkMsgIndex ≠ 0 then (s.setDownlinkState .idle).resetUplinkState
      else s.setDownlinkState .idle) = t at hreset ⊢
  split
  case isTrue => exact hreset.imp (hresync _).trans (hresync _).trans
  case isFalse => exact hreset

section Startup

theorem keepsUplink_downlinkStart (now : OsalTickCount) (hs : s.shutdown = false) :
    s.KeepsUplink (s.downlinkStart now) := by
  have hview : (s.downlinkStart now).uplinkView =
      { s.uplinkView.reset with shutdown := false } := by
    unfold downlinkStart startLonUsbLink flushDownlinkQueue resetDownlinkState resetUplinkState
      stopAckTimer
    rfl
  rw [← hs] at hview
  exact .inr hview

theorem uplinkView_waitStartupReset (now : OsalTickCount) :
    (s.waitStartupReset now).uplinkView = s.uplinkView ∨
      (s.haveReset ∨ NI_RESET_WAIT_TIME < now - s.resetWaitTimer) ∧
        (s.waitStartupReset now).uplinkView = s.uplinkView.resync := by
  unfold waitStartupReset
  split
  case isTrue h =>
    exact (uplinkView_sendResync { s with haveReset := false } now).imp id fun hview => ⟨h, hview⟩
  case isFalse => exact .inl rfl

theorem uplinkView_waitStartupResyncAck (now : OsalTickCount) :
    (s.waitStartupResyncAck now).uplinkView = s.uplinkView ∨
      (s.haveNull = false ∧ NI_NULL_WAIT_TIME < now - s.nullWaitTimer) ∧
        (s.waitStartupResyncAck now).uplinkView = s.uplinkView.resync := by
  unfold waitStartupResyncAck
  split
  case isTrue => exact .inl rfl
  case isFalse hnull =>
    split
    case isTrue h =>
      exact (s.uplinkView_sendResync now).imp id fun hview =>
        ⟨⟨Bool.eq_false_iff.mpr hnull, h⟩, hview⟩
    case isFalse => exact .inl rfl

theorem uplinkView_waitResyncReset (now : OsalTickCount) :
    (s.waitResyncReset now).uplinkView = s.uplinkView :=
  uplinkView_ite (fun _ => uplinkView_ite (fun _ => rfl) fun _ => uplinkView_ite (fun _ => rfl)
    fun _ => uplinkView_ite (fun _ => rfl) fun _ => rfl) fun _ => rfl

theorem uplinkView_layerRequest (now : OsalTickCount) (mode : Int) (nextState : DownlinkState) :
    (s.layerRequest now mode nextState).1.uplinkView = s.uplinkView :=
  uplinkView_onSuccess (uplinkView_writeLonUsbMsg _ _) fun _ => rfl

theorem uplinkView_waitLayer5Ack (now : OsalTickCount) :
    (s.waitLayer5Ack now).uplinkView = s.uplinkView :=
  uplinkView_ite (fun _ => rfl) fun _ => uplinkView_ite (fun _ => rfl) fun _ => rfl

theorem uplinkView_niUniqueIdRequest (now : OsalTickCount) :
    (s.niUniqueIdRequest now).1.uplinkView = s.uplinkView :=
  uplinkView_ite_fst (fun _ => rfl) fun _ =>
    uplinkView_onSuccess (s.uplinkView_requestUsbNiUid now) fun _ => rfl

theorem uplinkView_waitNiUniqueId (now : OsalTickCount) :
    (s.waitNiUniqueId now).uplinkView = s.uplinkView :=
  uplinkView_ite (fun _ => rfl) fun _ => uplinkView_ite
    (fun _ => uplinkView_ite (fun _ => rfl) fun _ => rfl) fun _ => rfl

theorem uplinkView_waitLayer2Ack (now : OsalTickCount) :
    (s.waitLayer2Ack now).uplinkView = s.uplinkView :=
  uplinkView_ite (fun _ => rfl) fun _ => uplinkView_ite (fun _ => rfl) fun _ => rfl

theorem uplinkView_mipStatusRequest (now : OsalTickCount) :
    (s.mipStatusRequest now).1.uplinkView = s.uplinkView :=
  uplinkView_ite_fst (fun _ => rfl) fun _ =>
    uplinkView_onSuccess (s.uplinkView_requestUsbNiStatus now) fun _ => rfl

theorem uplinkView_waitMipStatus (now : OsalTickCount) :
    (s.waitMipStatus now).uplinkView = s.uplinkView :=
  uplinkView_ite (fun _ => rfl) fun _ => uplinkView_ite
    (fun _ => uplinkView_ite (fun _ => rfl) fun _ => rfl) fun _ => rfl

theorem uplinkView_idleStart : s.idleStart.uplinkView = s.uplinkView :=
  uplinkView_ite (fun _ => rfl) fun _ => s.uplinkView_writeDownlinkCodePacket (by decide) 0

end Startup

theorem keepsUplink_waitAck (now : OsalTickCount) : s.KeepsUplink (s.waitAck now).1 := by
  unfold waitAck
  split
  case isTrue => exact .inl rfl
  case isFalse => exact .next (s.keepsUplink_ackTimeout now) now

theorem uplinkView_processDownlinkRequests (now : OsalTickCount) :
    s.KeepsUplink (s.processDownlinkRequests now).1 ∨
      s.SendsResync now ∧ (s.processDownlinkRequests now).1.uplinkView = s.uplinkView.resync := by
  have hnext (t : LonUsbLinkState) := t.uplinkView_processNextDownlinkMessage now
  unfold processDownlinkRequests SendsResync
  split
  case isTrue => exact .inl (.inl rfl)
  case isFalse hs =>
    cases s.downlinkState with
    | start => exact .inl (s.keepsUplink_downlinkStart now (Bool.eq_false_iff.mpr hs))
    | waitStartupReset =>
      refine (s.uplinkView_waitStartupReset now).imp (fun h => .next (.inl h) now) fun h => ?_
      exact ⟨.inl ⟨rfl, h.1⟩, (hnext _).trans h.2⟩
    | waitStartupResyncAck =>
      refine (s.uplinkView_waitStartupResyncAck now).imp (fun h => .next (.inl h) now) fun h => ?_
      exact ⟨.inr ⟨rfl, h.1⟩, (hnext _).trans h.2⟩
    | waitResyncReset => exact .inl (.next (.inl (s.uplinkView_waitResyncReset now)) now)
    | layer5Request => exact .inl (.onSuccess (s.uplinkView_layerRequest now _ _) now)
    | waitLayer5Ack => exact .inl (.next (.inl (s.uplinkView_waitLayer5Ack now)) now)
    | niUniqueIdRequest => exact .inl (.onSuccess (s.uplinkView_niUniqueIdRequest now) now)
    | waitNiUniqueId => exact .inl (.next (.inl (s.uplinkView_waitNiUniqueId now)) now)
    | layer2Request => exact .inl (.onSuccess (s.uplinkView_layerRequest now _ _) now)
    | waitLayer2Ack => exact .inl (.next (.inl (s.uplinkView_waitLayer2Ack now)) now)
    | mipStatusRequest => exact .inl (.onSuccess (s.uplinkView_mipStatusRequest now) now)
    | waitMipStatus => exact .inl (.next (.inl (s.uplinkView_waitMipStatus now)) now)
    | idleStart => exact .inl (.next (.inl s.uplinkView_idleStart) now)
    | idle => exact .inl (.next (.inl rfl) now)
    | waitCpAck | waitMsgAck | waitCpResponse => exact .inl (s.keepsUplink_waitAck now)
    | waitL5ResyncAck | waitL5Reset | waitL2ResyncAck | waitL2Reset | waitCpMsgReqAck | invalid =>
      exact .inl (.inl rfl)

structure KeepsParser (t : LonUsbLinkState) : Prop where
  shutdown : t.shutdown = s.shutdown
  ifaceType : t.lonUsbIfaceType = s.lonUsbIfaceType
  buffer : t.uplinkBuffer = s.uplinkBuffer
  parser : (t.uplinkState = s.uplinkState ∧ t.uplinkMsgIndex = s.uplinkMsgIndex ∧
      t.uplinkMsgLength = s.uplinkMsgLength ∧ t.uplinkDuplicate = s.uplinkDuplicate) ∨
    (t.uplinkState = .idle ∧ t.uplinkMsgIndex = 0 ∧ t.uplinkDuplicate = false)

theorem KeepsParser.of_view {s t : LonUsbLinkState} (h : t.uplinkView = s.uplinkView) :
    s.KeepsParser t where
  shutdown := congrArg UplinkView.shutdown h
  ifaceType := congrArg UplinkView.lonUsbIfaceType h
  buffer := congrArg UplinkView.uplinkBuffer h
  parser := .inl ⟨congrArg UplinkView.uplinkState h, congrArg UplinkView.uplinkMsgIndex h,
    congrArg UplinkView.uplinkMsgLength h, congrArg UplinkView.uplinkDuplicate h⟩

theorem KeepsParser.of_reset {s t : LonUsbLinkState} (h : t.uplinkView = s.uplinkView.reset) :
    s.KeepsParser t where
  shutdown := congrArg UplinkView.shutdown h
  ifaceType := congrArg UplinkView.lonUsbIfaceType h
  buffer := congrArg UplinkView.uplinkBuffer h
  parser := .inr ⟨congrArg UplinkView.uplinkState h, congrArg UplinkView.uplinkMsgIndex h,
    congrArg UplinkView.uplinkDuplicate h⟩

theorem KeepsParser.of_resync {s t : LonUsbLinkState} (h : t.uplinkView = s.uplinkView.resync) :
    s.KeepsParser t where
  shutdown := congrArg UplinkView.shutdown h
  ifaceType := congrArg UplinkView.lonUsbIfaceType h
  buffer := congrArg UplinkView.uplinkBuffer h
  parser := .inl ⟨congrArg UplinkView.uplinkState h, congrArg UplinkView.uplinkMsgIndex h,
    congrArg UplinkView.uplinkMsgLength h, congrArg UplinkView.uplinkDuplicate h⟩

theorem keepsParser_readUplinkBuffer : s.KeepsParser s.readUplinkBuffer.1 := by
  unfold readUplinkBuffer
  split <;> split <;> exact ⟨rfl, rfl, rfl, .inl ⟨rfl, rfl, rfl, rfl⟩⟩

theorem keepsParser_linkStep {e : LinkEvent} (he : e.byte? = none) :
    s.KeepsParser (linkStep e s) := by
  cases e with
  | writeLonUsbMsg f => exact .of_view (s.uplinkView_writeLonUsbMsg f)
  | processDownlinkRequests now =>
    cases s.uplinkView_processDownlinkRequests now with
    | inl hkeeps => exact hkeeps.elim .of_view .of_reset
    | inr hresync => exact .of_resync hresync.2
  | processUplinkByte x => exact absurd he (Option.some_ne_none _)
  | readUplinkBuffer => exact s.keepsParser_readUplinkBuffer
  | setRing bytes => exact ⟨rfl, rfl, rfl, .inl ⟨rfl, rfl, rfl, rfl⟩⟩

end LonUsbLinkState

end LonStack.LonUsb
