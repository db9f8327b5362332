import LonStack.LonUsb.Parser

namespace LonStack.LonUsb

open Lib

/-- The sequence number after `n`. Number 0 is used only until the first increment. -/
def nextNumber (n : Int) : Int := if (n + 1) % 8 = 0 then 1 else (n + 1) % 8

structure Numbers where
  seq : Int
  ack : Int
  deriving DecidableEq

namespace Numbers

def acked (v : Numbers) : Numbers :=
  { v with ack := if NO_ACK_REQUIRED < v.ack then NO_ACK_REQUIRED else v.ack }

def resynced (v : Numbers) : Numbers := { v.acked with seq := 0 }

def advanced (v : Numbers) : Numbers := { v with seq := nextNumber v.seq }

def announced (v : Numbers) : Numbers := { v with ack := NO_ACK_REQUIRED }

def acknowledged (v : Numbers) : Numbers := if 0 ≤ v.ack then v.acked.advanced else v

theorem ack_acknowledged (v : Numbers) : v.acknowledged.ack < 0 := by
  unfold acknowledged
  split
  case isTrue h =>
    have hack : v.acked.advanced.ack = NO_ACK_REQUIRED := if_pos (by
      change -2 < v.ack
      omega)
    rw [hack]
    decide
  case isFalse h => omega

theorem ack_acked_le (v : Numbers) : v.acked.ack ≤ v.ack := by
  unfold acked
  dsimp only
  split <;> omega

end Numbers

namespace LonUsbLinkState

def numbers (s : LonUsbLinkState) : Numbers := ⟨s.downlinkSeqNumber, s.downlinkAckSeqNumber⟩

section Combinators

variable {v : Numbers} {c : Prop} [Decidable c]

theorem numbers_ite {t u : LonUsbLinkState} (ht : c → t.numbers = v) (hu : ¬c → u.numbers = v) :
    (if c then t else u).numbers = v := by
  split
  case isTrue h => exact ht h
  case isFalse h => exact hu h

theorem numbers_ite_fst {γ : Type} {p q : LonUsbLinkState × γ} (hp : c → p.1.numbers = v)
    (hq : ¬c → q.1.numbers = v) : (if c then p else q).1.numbers = v := by
  split
  case isTrue h => exact hp h
  case isFalse h => exact hq h

theorem numbers_onSuccess {r : Outcome} {next : LonUsbLinkState → Outcome}
    (hr : r.1.numbers = v) (hnext : ∀ t, (next t).1.numbers = t.numbers) :
    (onSuccess r next).1.numbers = v :=
  numbers_ite_fst (fun _ => (hnext _).trans hr) fun _ => hr

end Combinators

variable (s : LonUsbLinkState)

theorem numbers_writeDownlinkCodePacket {frameCmd : UInt8} (h : frameCmd ≠ NI_RESYNC_FRAME_CMD)
    (parameter : UInt8) :
    (s.writeDownlinkCodePacket frameCmd parameter).numbers = s.numbers.acked := by
  have hack : (if NO_ACK_REQUIRED < s.downlinkAckSeqNumber then
      { s with downlinkAckSeqNumber := NO_ACK_REQUIRED } else s).numbers = s.numbers.acked := by
    change _ = Numbers.mk s.downlinkSeqNumber (if NO_ACK_REQUIRED < s.downlinkAckSeqNumber then
      NO_ACK_REQUIRED else s.downlinkAckSeqNumber)
    split <;> rfl
  exact numbers_ite (fun hresync => absurd hresync h) fun _ => hack

theorem numbers_resync (parameter : UInt8) :
    (s.writeDownlinkCodePacket NI_RESYNC_FRAME_CMD parameter).numbers = s.numbers.resynced := by
  change _ = Numbers.mk 0 (if NO_ACK_REQUIRED < s.downlinkAckSeqNumber then
    NO_ACK_REQUIRED else s.downlinkAckSeqNumber)
  unfold writeDownlinkCodePacket
  dsimp only
  rw [if_pos rfl]
  split <;> rfl

theorem numbers_writeDownlinkMessage (hs : s.shutdown = false) (now : OsalTickCount) :
    (s.writeDownlinkMessage now).1.numbers = s.numbers.announced := by
  have hannounce : s.announceMessage.numbers = s.numbers.announced :=
    numbers_writeDownlinkCodePacket _ (by decide) _
  unfold writeDownlinkMessage
  rw [if_neg (by rw [hs]; decide)]
  generalize s.announceMessage = t at hannounce ⊢
  rw [← hannounce]
  dsimp only
  split
  case h_1 => rfl
  case h_2 => split <;> rfl

theorem numbers_queueDownlinkBuffer (src : LonUsbQueueBuffer) :
    (s.queueDownlinkBuffer src).1.numbers = s.numbers := by
  unfold queueDownlinkBuffer
  split <;> split <;> rfl

theorem numbers_stage (f : LonDataFrame) : (s.stage f).1.numbers = s.numbers :=
  numbers_ite_fst (fun _ => numbers_ite_fst (fun _ => rfl) fun _ => rfl) fun _ =>
    numbers_ite_fst (fun _ => rfl) fun _ => rfl

theorem numbers_writeLonUsbMsg (f : LonDataFrame) :
    (s.writeLonUsbMsg f).1.numbers = s.numbers := by
  have hstage := s.numbers_stage f
  refine numbers_ite_fst (fun _ => rfl) fun _ => numbers_ite_fst (fun _ => ?_) fun _ => rfl
  generalize s.stage f = r at hstage ⊢
  obtain ⟨t, status⟩ := r
  rw [← hstage]
  exact numbers_ite_fst (fun _ => numbers_queueDownlinkBuffer _ _) fun _ => rfl

theorem numbers_sendAck : s.sendAck.numbers = s.numbers.acknowledged := by
  have hwrite := s.numbers_writeDownlinkCodePacket (show NULL_FRAME_CMD ≠ _ by decide) 0
  have hnext (t : LonUsbLinkState) : t.incrementDownlinkSequence.numbers = t.numbers.advanced := rfl
  change _ = if 0 ≤ s.downlinkAckSeqNumber then s.numbers.acked.advanced else s.numbers
  unfold sendAck
  split
  case isTrue => rw [hnext, hwrite]
  case isFalse => rfl

theorem numbers_readDownlinkBuffer : s.readDownlinkBuffer.1.numbers = s.numbers := by
  unfold readDownlinkBuffer
  split <;> split <;> rfl

theorem numbers_writeDownlinkLocalNiCmd (now : OsalTickCount) :
    (s.writeDownlinkLocalNiCmd now).numbers = s.numbers.acked := by
  have hwrite (rsp : UInt8) := numbers_writeDownlinkCodePacket
    { s with uplinkExpectedRsp := rsp } (show SHORT_NI_CMD_FRAME_CMD ≠ _ by decide)
      s.downlinkBufferStaging.usbNiDataFrame.niCommand
  exact numbers_ite (fun _ => hwrite _) fun _ => hwrite _

theorem seq_writeDownlinkBuffer (now : OsalTickCount) :
    (s.writeDownlinkBuffer now).1.downlinkSeqNumber = s.downlinkSeqNumber := by
  unfold writeDownlinkBuffer
  split
  case isTrue =>
    exact congrArg Numbers.seq (s.resetDownlinkState.numbers_writeDownlinkLocalNiCmd now)
  case isFalse =>
    cases hs : s.shutdown with
    | false => exact congrArg Numbers.seq (s.numbers_writeDownlinkMessage hs now)
    | true =>
      unfold writeDownlinkMessage
      rw [if_pos hs]

theorem ack_writeDownlinkBuffer (now : OsalTickCount) (h : s.downlinkAckSeqNumber < 0) :
    (s.writeDownlinkBuffer now).1.downlinkAckSeqNumber < 0 := by
  unfold writeDownlinkBuffer
  split
  case isTrue =>
    have hcmd := congrArg Numbers.ack (s.resetDownlinkState.numbers_writeDownlinkLocalNiCmd now)
    exact Int.lt_of_le_of_lt (Int.le_of_eq hcmd) (Int.lt_of_le_of_lt (Numbers.ack_acked_le _) h)
  case isFalse =>
    cases hs : s.shutdown with
    | false =>
      have hmsg := congrArg Numbers.ack (s.numbers_writeDownlinkMessage hs now)
      exact Int.lt_of_le_of_lt (Int.le_of_eq hmsg) (show (-2 : Int) < 0 by decide)
    | true =>
      unfold writeDownlinkMessage
      rw [if_pos hs]
      exact h

theorem seq_processNextDownlinkMessage (now : OsalTickCount) :
    (s.processNextDownlinkMessage now).1.downlinkSeqNumber = s.numbers.acknowledged.seq := by
  have hread : s.sendAck.readDownlinkBuffer.1.downlinkSeqNumber = s.numbers.acknowledged.seq :=
    (congrArg Numbers.seq s.sendAck.numbers_readDownlinkBuffer).trans
      (congrArg Numbers.seq s.numbers_sendAck)
  unfold processNextDownlinkMessage onSuccess
  dsimp only
  split
  case isTrue => exact hread
  case isFalse =>
    split
    case isTrue => exact (seq_writeDownlinkBuffer _ now).trans hread
    case isFalse => exact hread

theorem ack_processNextDownlinkMessage (now : OsalTickCount) :
    (s.processNextDownlinkMessage now).1.downlinkAckSeqNumber < 0 := by
  have hread : s.sendAck.readDownlinkBuffer.1.downlinkAckSeqNumber = s.numbers.acknowledged.ack :=
    (congrArg Numbers.ack s.sendAck.numbers_readDownlinkBuffer).trans
      (congrArg Numbers.ack s.numbers_sendAck)
  have hneg := s.numbers.ack_acknowledged
  rw [← hread] at hneg
  unfold processNextDownlinkMessage onSuccess
  dsimp only
  split
  case isTrue => exact hneg
  case isFalse =>
    split
    case isTrue => exact ack_writeDownlinkBuffer _ now hneg
    case isFalse => exact hneg

end LonUsbLinkState

def afterSuccess (r : Outcome) : Option LonUsbLinkState :=
  if r.2 = .noError then some r.1 else none

theorem onSuccess_of_some {r : Outcome} {t : LonUsbLinkState} (h : afterSuccess r = some t)
    (next : LonUsbLinkState → Outcome) : onSuccess r next = next t := by
  unfold afterSuccess at h
  split at h
  case isTrue hr =>
    cases h
    exact if_pos hr
  case isFalse => cases h

theorem onSuccess_of_none {r : Outcome} (h : afterSuccess r = none)
    (next : LonUsbLinkState → Outcome) : onSuccess r next = r := by
  unfold afterSuccess at h
  split at h
  case isTrue => cases h
  case isFalse hr => exact if_neg hr

theorem eq_of_afterSuccess {r : Outcome} {t : LonUsbLinkState} (h : afterSuccess r = some t) :
    r.1 = t := by
  unfold afterSuccess at h
  split at h
  case isTrue => exact Option.some.inj h
  case isFalse => cases h

namespace LonUsbLinkState

variable (s : LonUsbLinkState)

def AckTimedOut (now : OsalTickCount) : Prop :=
  (s.downlinkState = .waitCpAck ∨ s.downlinkState = .waitMsgAck ∨
    s.downlinkState = .waitCpResponse) ∧ ¬now - s.uplinkAckTimer < s.uplinkAckTimeout

instance (now : OsalTickCount) : Decidable (s.AckTimedOut now) :=
  inferInstanceAs (Decidable ((_ ∨ _ ∨ _) ∧ ¬_))

def beforeNext (now : OsalTickCount) : Option LonUsbLinkState :=
  if s.shutdown then none
  else
    match s.downlinkState with
    | .waitStartupReset => some (s.waitStartupReset now)
    | .waitStartupResyncAck => some (s.waitStartupResyncAck now)
    | .waitResyncReset => some (s.waitResyncReset now)
    | .layer5Request => afterSuccess (s.layerRequest now LON_IFACE_MODE_LAYER5 .waitLayer5Ack)
    | .waitLayer5Ack => some (s.waitLayer5Ack now)
    | .niUniqueIdRequest => afterSuccess (s.niUniqueIdRequest now)
    | .waitNiUniqueId => some (s.waitNiUniqueId now)
    | .layer2Request => afterSuccess (s.layerRequest now LON_IFACE_MODE_LAYER2 .waitLayer2Ack)
    | .waitLayer2Ack => some (s.waitLayer2Ack now)
    | .mipStatusRequest => afterSuccess (s.mipStatusRequest now)
    | .waitMipStatus => some (s.waitMipStatus now)
    | .idleStart => some s.idleStart
    | .idle => some s
    | .waitCpAck | .waitMsgAck | .waitCpResponse =>
      if s.AckTimedOut now then some (s.ackTimeout now) else none
    | .start | .waitL5ResyncAck | .waitL5Reset | .waitL2ResyncAck | .waitL2Reset
    | .waitCpMsgReqAck | .invalid => none

variable {s} {t : LonUsbLinkState}

theorem shutdown_of_beforeNext {now : OsalTickCount} (h : s.beforeNext now = some t) :
    s.shutdown = false := by
  unfold beforeNext at h
  split at h
  case isTrue => cases h
  case isFalse hs => exact Bool.eq_false_iff.mpr hs

theorem processDownlinkRequests_of_some {now : OsalTickCount} (h : s.beforeNext now = some t) :
    s.processDownlinkRequests now = t.processNextDownlinkMessage now := by
  have hs := shutdown_of_beforeNext h
  unfold beforeNext at h
  unfold processDownlinkRequests
  rw [if_neg (by rw [hs]; decide)] at h ⊢
  cases hstate : s.downlinkState with
  | start | waitL5ResyncAck | waitL5Reset | waitL2ResyncAck | waitL2Reset | waitCpMsgReqAck
  | invalid =>
    rw [hstate] at h
    cases h
  | layer5Request | niUniqueIdRequest | layer2Request | mipStatusRequest =>
    rw [hstate] at h
    exact onSuccess_of_some h _
  | waitCpAck | waitMsgAck | waitCpResponse =>
    rw [hstate] at h
    dsimp only at h ⊢
    split at h
    case isTrue htimeout =>
      cases h
      exact if_neg htimeout.2
    case isFalse => cases h
  | _ =>
    rw [hstate] at h
    cases h
    rfl

theorem numbers_sendResync (now : OsalTickCount) :
    (s.sendResync now).numbers = if s.lonUsbIfaceType = .u50 then s.numbers.resynced
      else s.numbers := by
  unfold sendResync
  split
  case isTrue => exact s.numbers_resync 0
  case isFalse => rfl

theorem numbers_layerRequest (now : OsalTickCount) (mode : Int) (nextState : DownlinkState) :
    (s.layerRequest now mode nextState).1.numbers = s.numbers :=
  numbers_onSuccess (numbers_writeLonUsbMsg _ _) fun _ => rfl

theorem numbers_waitResyncReset (now : OsalTickCount) :
    (s.waitResyncReset now).numbers = s.numbers :=
  numbers_ite (fun _ => numbers_ite (fun _ => rfl) fun _ => numbers_ite (fun _ => rfl)
    fun _ => numbers_ite (fun _ => rfl) fun _ => rfl) fun _ => rfl

theorem numbers_waitLayer5Ack (now : OsalTickCount) : (s.waitLayer5Ack now).numbers = s.numbers :=
  numbers_ite (fun _ => rfl) fun _ => numbers_ite (fun _ => rfl) fun _ => rfl

theorem numbers_requestUsbNiUid (now : OsalTickCount) :
    (s.requestUsbNiUid now).1.numbers = s.numbers :=
  numbers_ite_fst (fun _ => rfl) fun _ => numbers_ite_fst (fun _ => rfl) fun _ =>
    numbers_onSuccess (s.numbers_writeLonUsbMsg _) fun _ => rfl

theorem numbers_niUniqueIdRequest (now : OsalTickCount) :
    (s.niUniqueIdRequest now).1.numbers = s.numbers :=
  numbers_ite_fst (fun _ => rfl) fun _ => numbers_onSuccess (s.numbers_requestUsbNiUid now) fun _ => rfl

theorem numbers_waitNiUniqueId (now : OsalTickCount) :
    (s.waitNiUniqueId now).numbers = s.numbers :=
  numbers_ite (fun _ => rfl) fun _ => numbers_ite
    (fun _ => numbers_ite (fun _ => rfl) fun _ => rfl) fun _ => rfl

theorem numbers_waitLayer2Ack (now : OsalTickCount) : (s.waitLayer2Ack now).numbers = s.numbers :=
  numbers_ite (fun _ => rfl) fun _ => numbers_ite (fun _ => rfl) fun _ => rfl

theorem numbers_requestUsbNiStatus (now : OsalTickCount) :
    (s.requestUsbNiStatus now).1.numbers = s.numbers :=
  numbers_ite_fst (fun _ => rfl) fun _ => numbers_ite_fst (fun _ => rfl) fun _ =>
    numbers_onSuccess (s.numbers_writeLonUsbMsg _) fun _ => rfl

theorem numbers_mipStatusRequest (now : OsalTickCount) :
    (s.mipStatusRequest now).1.numbers = s.numbers :=
  numbers_ite_fst (fun _ => rfl) fun _ =>
    numbers_onSuccess (s.numbers_requestUsbNiStatus now) fun _ => rfl

theorem numbers_waitMipStatus (now : OsalTickCount) : (s.waitMipStatus now).numbers = s.numbers :=
  numbers_ite (fun _ => rfl) fun _ => numbers_ite
    (fun _ => numbers_ite (fun _ => rfl) fun _ => rfl) fun _ => rfl

def countTimeout (s : LonUsbLinkState) : LonUsbLinkState :=
  let s := s.setDownlinkState .idle
  let s := if s.uplinkState = .idle ∧ s.uplinkMsgIndex ≠ 0 then s.resetUplinkState else s
  { s with uplinkAckTimeouts := s.uplinkAckTimeouts + 1 }

theorem ackTimeout_eq (now : OsalTickCount) :
    s.ackTimeout now = if 2 ≤ s.countTimeout.uplinkAckTimeouts then
      { s.countTimeout.resyncAckTimeout now with uplinkAckTimeouts := 0 } else s.countTimeout :=
  rfl

def ReportsStatus (s : LonUsbLinkState) (now : OsalTickCount) : Prop :=
  s.AckTimedOut now ∧ 2 ≤ s.countTimeout.uplinkAckTimeouts ∧ s.countTimeout.uplinkAckTimeoutPhase < 5

instance (now : OsalTickCount) : Decidable (s.ReportsStatus now) :=
  inferInstanceAs (Decidable (_ ∧ _ ∧ _))

theorem numbers_countTimeout (s : LonUsbLinkState) : s.countTimeout.numbers = s.numbers := by
  have hreset : (if (s.setDownlinkState .idle).uplinkState = .idle ∧
      (s.setDownlinkState .idle).uplinkMsgIndex ≠ 0 then (s.setDownlinkState .idle).resetUplinkState
        else s.setDownlinkState .idle).numbers = s.numbers :=
    numbers_ite (fun _ => rfl) fun _ => rfl
  exact hreset

theorem shutdown_countTimeout (s : LonUsbLinkState) : s.countTimeout.shutdown = s.shutdown := by
  unfold countTimeout
  dsimp only
  split <;> rfl

theorem numbers_reportStatus (hs : s.shutdown = false) (now : OsalTickCount) :
    (s.reportStatus now).numbers = s.numbers.advanced.announced :=
  numbers_writeDownlinkMessage
    { s.incrementDownlinkSequence with
      downlinkBuffer := { s.downlinkBuffer with
        usbNiDataFrame := ⟨s.downlinkBuffer.usbNiDataFrame.image.copy 0 MsgReportStatus 0
          LonUsbQueueBuffer.sizeofLonNiFrame⟩ } } hs now

theorem numbers_ackTimeout (hs : s.shutdown = false) {now : OsalTickCount}
    (htimeout : s.AckTimedOut now) :
    (s.ackTimeout now).numbers = if s.ReportsStatus now then s.numbers.advanced.announced
      else s.numbers := by
  have hcount := s.numbers_countTimeout
  have hreport := numbers_reportStatus (s.shutdown_countTimeout.trans hs) now
  rw [hcount] at hreport
  rw [ackTimeout_eq]
  by_cases hsecond : 2 ≤ s.countTimeout.uplinkAckTimeouts
  case neg =>
    have hreports : ¬s.ReportsStatus now := fun h => hsecond h.2.1
    rw [if_neg hsecond, if_neg hreports]
    exact hcount
  case pos =>
    rw [if_pos hsecond]
    change (s.countTimeout.resyncAckTimeout now).numbers = _
    unfold resyncAckTimeout
    by_cases hphase : s.countTimeout.uplinkAckTimeoutPhase < 5
    case pos =>
      rw [if_pos hphase, if_pos ⟨htimeout, hsecond, hphase⟩]
      exact hreport
    case neg =>
      have hreports : ¬s.ReportsStatus now := fun h => hphase h.2.2
      rw [if_neg hphase, if_neg hreports]
      exact numbers_ite (fun _ => hcount) fun _ => hcount

def Resyncs (s : LonUsbLinkState) (now : OsalTickCount) : Prop :=
  s.SendsResync now ∧ s.lonUsbIfaceType = .u50

instance (now : OsalTickCount) : Decidable (s.Resyncs now) := inferInstanceAs (Decidable (_ ∧ _))

def StartsIdle (s : LonUsbLinkState) : Prop :=
  s.downlinkState = .idleStart ∧ s.currentIfaceMode = LON_IFACE_MODE_LAYER2

instance : Decidable s.StartsIdle := inferInstanceAs (Decidable (_ ∧ _))

def numbersBefore (s : LonUsbLinkState) (now : OsalTickCount) : Numbers :=
  if s.Resyncs now then s.numbers.resynced
  else if s.StartsIdle then s.numbers.acked
  else if s.ReportsStatus now then s.numbers.advanced.announced
  else s.numbers

theorem numbersBefore_of_state {state : DownlinkState} {now : OsalTickCount}
    (hstate : s.downlinkState = state)
    (hother : ¬(state = .waitStartupReset ∨ state = .waitStartupResyncAck ∨ state = .idleStart ∨
      state = .waitCpAck ∨ state = .waitMsgAck ∨ state = .waitCpResponse)) :
    s.numbersBefore now = s.numbers := by
  subst hstate
  simp only [not_or] at hother
  obtain ⟨hreset, hack, hidle, hcp, hmsg, hrsp⟩ := hother
  rw [numbersBefore, if_neg, if_neg, if_neg]
  · exact fun h => h.1.1.elim hcp fun h => h.elim hmsg hrsp
  · exact fun h => hidle h.1
  · exact fun h => h.1.elim (fun h => hreset h.1) fun h => hack h.1

theorem numbers_waitStartupReset {now : OsalTickCount} (hstate : s.downlinkState = .waitStartupReset) :
    (s.waitStartupReset now).numbers = s.numbersBefore now := by
  have hidle : ¬s.StartsIdle := fun h => absurd (hstate.symm.trans h.1) (by decide)
  have hreport : ¬s.ReportsStatus now := fun h => h.1.1.elim
    (fun h => absurd (hstate.symm.trans h) (by decide))
    fun h => h.elim (fun h => absurd (hstate.symm.trans h) (by decide))
      fun h => absurd (hstate.symm.trans h) (by decide)
  unfold numbersBefore waitStartupReset
  rw [if_neg hidle, if_neg hreport]
  by_cases hreset : s.haveReset ∨ NI_RESET_WAIT_TIME < now - s.resetWaitTimer
  case neg =>
    have hresync : ¬s.Resyncs now := by
      rintro ⟨h | h, -⟩
      · exact hreset h.2
      · exact absurd (hstate.symm.trans h.1) (by decide)
    rw [if_neg hreset, if_neg hresync]
  case pos =>
    rw [if_pos hreset]
    have hsend : (sendResync { s with haveReset := false } now).numbers =
        if s.lonUsbIfaceType = .u50 then s.numbers.resynced else s.numbers :=
      numbers_sendResync now
    refine Eq.trans hsend (ite_congr (propext ?_) (fun _ => rfl) fun _ => rfl)
    exact ⟨fun hu50 => ⟨.inl ⟨hstate, hreset⟩, hu50⟩, fun h => h.2⟩

theorem numbers_waitStartupResyncAck {now : OsalTickCount}
    (hstate : s.downlinkState = .waitStartupResyncAck) :
    (s.waitStartupResyncAck now).numbers = s.numbersBefore now := by
  have hidle : ¬s.StartsIdle := fun h => absurd (hstate.symm.trans h.1) (by decide)
  have hreport : ¬s.ReportsStatus now := fun h => h.1.1.elim
    (fun h => absurd (hstate.symm.trans h) (by decide))
    fun h => h.elim (fun h => absurd (hstate.symm.trans h) (by decide))
      fun h => absurd (hstate.symm.trans h) (by decide)
  unfold numbersBefore waitStartupResyncAck
  rw [if_neg hidle, if_neg hreport]
  by_cases hnull : s.haveNull = true
  case pos =>
    have hresync : ¬s.Resyncs now := by
      rintro ⟨h | h, -⟩
      · exact absurd (hstate.symm.trans h.1) (by decide)
      · exact absurd (hnull.symm.trans h.2.1) (by decide)
    rw [if_pos hnull, if_neg hresync]
    rfl
  case neg =>
    rw [if_neg hnull]
    by_cases htime : NI_NULL_WAIT_TIME < now - s.nullWaitTimer
    case neg =>
      have hresync : ¬s.Resyncs now := by
        rintro ⟨h | h, -⟩
        · exact absurd (hstate.symm.trans h.1) (by decide)
        · exact htime h.2.2
      rw [if_neg htime, if_neg hresync]
    case pos =>
      rw [if_pos htime]
      refine Eq.trans (numbers_sendResync (s := s) now)
        (ite_congr (propext ?_) (fun _ => rfl) fun _ => rfl)
      exact ⟨fun hu50 => ⟨.inr ⟨hstate, Bool.eq_false_iff.mpr hnull, htime⟩, hu50⟩, fun h => h.2⟩

theorem numbers_idleStart {now : OsalTickCount} (hstate : s.downlinkState = .idleStart) :
    s.idleStart.numbers = s.numbersBefore now := by
  have hresync : ¬s.Resyncs now := fun h => h.1.elim
    (fun h => absurd (hstate.symm.trans h.1) (by decide))
    fun h => absurd (hstate.symm.trans h.1) (by decide)
  have hreport : ¬s.ReportsStatus now := fun h => h.1.1.elim
    (fun h => absurd (hstate.symm.trans h) (by decide))
    fun h => h.elim (fun h => absurd (hstate.symm.trans h) (by decide))
      fun h => absurd (hstate.symm.trans h) (by decide)
  rw [numbersBefore, if_neg hresync, if_neg hreport]
  unfold idleStart
  by_cases hmode : s.currentIfaceMode = LON_IFACE_MODE_LAYER2
  case pos =>
    have hidle : s.StartsIdle := ⟨hstate, hmode⟩
    rw [if_neg (not_not.mpr hmode), if_pos hidle]
    exact s.numbers_writeDownlinkCodePacket (by decide) 0
  case neg =>
    have hidle : ¬s.StartsIdle := fun h => hmode h.2
    rw [if_pos hmode, if_neg hidle]
    rfl

theorem numbers_beforeNext {now : OsalTickCount} (h : s.beforeNext now = some t) :
    t.numbers = s.numbersBefore now := by
  have hs := shutdown_of_beforeNext h
  unfold beforeNext at h
  rw [if_neg (by rw [hs]; decide)] at h
  cases hstate : s.downlinkState with
  | start | waitL5ResyncAck | waitL5Reset | waitL2ResyncAck | waitL2Reset | waitCpMsgReqAck
  | invalid =>
    rw [hstate] at h
    cases h
  | waitStartupReset =>
    rw [hstate] at h
    cases h
    exact numbers_waitStartupReset hstate
  | waitStartupResyncAck =>
    rw [hstate] at h
    cases h
    exact numbers_waitStartupResyncAck hstate
  | waitResyncReset =>
    rw [hstate] at h
    cases h
    exact (numbers_waitResyncReset now).trans (numbersBefore_of_state hstate (by decide)).symm
  | layer5Request | layer2Request =>
    rw [hstate] at h
    rw [← eq_of_afterSuccess h, numbers_layerRequest, numbersBefore_of_state hstate (by decide)]
  | waitLayer5Ack =>
    rw [hstate] at h
    cases h
    exact (numbers_waitLayer5Ack now).trans (numbersBefore_of_state hstate (by decide)).symm
  | niUniqueIdRequest =>
    rw [hstate] at h
    rw [← eq_of_afterSuccess h, numbers_niUniqueIdRequest, numbersBefore_of_state hstate (by decide)]
  | waitNiUniqueId =>
    rw [hstate] at h
    cases h
    exact (numbers_waitNiUniqueId now).trans (numbersBefore_of_state hstate (by decide)).symm
  | waitLayer2Ack =>
    rw [hstate] at h
    cases h
    exact (numbers_waitLayer2Ack now).trans (numbersBefore_of_state hstate (by decide)).symm
  | mipStatusRequest =>
    rw [hstate] at h
    rw [← eq_of_afterSuccess h, numbers_mipStatusRequest, numbersBefore_of_state hstate (by decide)]
  | waitMipStatus =>
    rw [hstate] at h
    cases h
    exact (numbers_waitMipStatus now).trans (numbersBefore_of_state hstate (by decide)).symm
  | idleStart =>
    rw [hstate] at h
    cases h
    exact numbers_idleStart hstate
  | idle =>
    rw [hstate] at h
    cases h
    exact (numbersBefore_of_state hstate (by decide)).symm
  | waitCpAck | waitMsgAck | waitCpResponse =>
    rw [hstate] at h
    dsimp only at h
    split at h
    case isFalse => cases h
    case isTrue htimeout =>
      cases h
      have hresync : ¬s.Resyncs now := fun h => h.1.elim
        (fun h => absurd (hstate.symm.trans h.1) (by decide))
        fun h => absurd (hstate.symm.trans h.1) (by decide)
      have hidle : ¬s.StartsIdle := fun h => absurd (hstate.symm.trans h.1) (by decide)
      rw [numbersBefore, if_neg hresync, if_neg hidle]
      exact numbers_ackTimeout hs htimeout

theorem numbers_of_beforeNext_none {now : OsalTickCount} (h : s.beforeNext now = none) :
    (s.processDownlinkRequests now).1.numbers = s.numbers := by
  unfold beforeNext at h
  unfold processDownlinkRequests
  split
  case isTrue => rfl
  case isFalse hs =>
    rw [if_neg hs] at h
    cases hstate : s.downlinkState with
    | start | waitL5ResyncAck | waitL5Reset | waitL2ResyncAck | waitL2Reset | waitCpMsgReqAck
    | invalid => rfl
    | layer5Request | layer2Request =>
      rw [hstate] at h
      exact (congrArg (fun r : Outcome => r.1.numbers) (onSuccess_of_none h _)).trans
        (numbers_layerRequest now _ _)
    | niUniqueIdRequest =>
      rw [hstate] at h
      exact (congrArg (fun r : Outcome => r.1.numbers) (onSuccess_of_none h _)).trans
        (numbers_niUniqueIdRequest now)
    | mipStatusRequest =>
      rw [hstate] at h
      exact (congrArg (fun r : Outcome => r.1.numbers) (onSuccess_of_none h _)).trans
        (numbers_mipStatusRequest now)
    | waitCpAck | waitMsgAck | waitCpResponse =>
      rw [hstate] at h
      dsimp only at h ⊢
      split at h
      case isTrue => cases h
      case isFalse htimeout =>
        have hearly : now - s.uplinkAckTimer < s.uplinkAckTimeout := by
          by_contra hlate
          exact htimeout ⟨by rw [hstate]; decide, hlate⟩
        unfold waitAck
        rw [if_pos hearly]
    | _ =>
      rw [hstate] at h
      cases h

theorem numbers_queueUplinkBuffer : s.queueUplinkBuffer.1.numbers = s.numbers := by
  unfold queueUplinkBuffer
  split <;> split <;> rfl

theorem numbers_processUplinkMessage : s.processUplinkMessage.1.numbers = s.numbers :=
  numbers_ite_fst (fun _ => numbers_ite_fst (fun _ => rfl) fun _ => rfl) fun _ =>
    numbers_ite_fst (fun _ => numbers_ite_fst (fun _ => rfl) fun _ => rfl) fun _ =>
      numbers_queueUplinkBuffer

theorem numbers_handleNiCommand (niCmd : UInt8) : (s.handleNiCommand niCmd).numbers = s.numbers :=
  numbers_ite (fun _ => rfl) fun _ => rfl

theorem numbers_acceptMessage : s.acceptMessage.1.numbers = s.numbers := by
  have hhandle := numbers_handleNiCommand (s := s) s.uplinkBuffer.usbNiDataFrame.niCommand
  exact numbers_ite_fst (fun _ => hhandle) fun _ => numbers_processUplinkMessage.trans hhandle

theorem numbers_checkUplinkCompleted : s.checkUplinkCompleted.1.numbers = s.numbers := by
  by_cases hc : s.Completed
  case pos =>
    rw [checkUplinkCompleted_of_completed hc]
    have hmessage : (if FilteredUplink s.uplinkBuffer.usbNiDataFrame.niCommand then
        (s, LonStatusCode.noError) else s.acceptMessage).1.numbers = s.numbers :=
      numbers_ite_fst (fun _ => rfl) fun _ => numbers_acceptMessage
    exact hmessage
  case neg =>
    rw [checkUplinkCompleted_of_not hc]
    rfl

theorem numbers_checkMsgTimer (now : OsalTickCount) : (s.checkMsgTimer now).numbers = s.numbers :=
  numbers_ite (fun _ => rfl) fun _ => rfl

theorem numbers_messageByte (now : OsalTickCount) (last : Bool) (b : UInt8) :
    (s.messageByte now last b).1.numbers = s.numbers := by
  have hcheck : (s.storeByte b).checkUplinkCompleted.1.numbers = s.numbers :=
    numbers_checkUplinkCompleted
  exact numbers_ite_fst (fun _ => numbers_checkMsgTimer now) fun _ =>
    numbers_ite_fst (fun _ => hcheck) fun _ =>
      numbers_ite_fst (fun _ => (numbers_checkMsgTimer now).trans hcheck) fun _ => hcheck

theorem numbers_escapedDataByte (b : UInt8) :
    (s.escapedDataByte b).1.numbers = if b = FRAME_SYNC then s.numbers else s.numbers.announced := by
  have hunescape : (s.unescape b).numbers =
      if b = FRAME_SYNC then s.numbers else s.numbers.announced := by
    unfold unescape
    dsimp only
    split
    case isTrue => rfl
    case isFalse => split <;> rfl
  exact numbers_checkUplinkCompleted.trans hunescape

theorem numbers_clearUplinkTransaction (s : LonUsbLinkState) :
    s.clearUplinkTransaction.numbers = s.numbers.advanced := by
  rw [clearUplinkTransaction_eq]
  have hrelease : s.releaseDownlink.numbers = s.numbers :=
    numbers_ite (fun _ => rfl) fun _ => numbers_ite (fun _ => rfl) fun _ => rfl
  exact congrArg Numbers.advanced hrelease

theorem numbers_rejectCodePacket (now : OsalTickCount) :
    (s.rejectCodePacket now).1.numbers = s.numbers ∨
      (s.rejectCodePacket now).1.numbers = s.numbers.acked := by
  unfold rejectCodePacket
  split
  case isTrue =>
    dsimp only
    split
    case isTrue => exact .inl rfl
    case isFalse =>
      split
      case isTrue =>
        exact .inr (numbers_writeDownlinkCodePacket (s.stopAckTimer.setRejectTimer 0) (by decide) _)
      case isFalse => exact .inl rfl
  case isFalse => exact .inl rfl

theorem numbers_shortNiCmdCodePacket (parameter sequenceNumber : UInt8) :
    (s.shortNiCmdCodePacket parameter sequenceNumber).1.numbers =
      ⟨if s.uplinkDuplicate = false ∧ parameter = LonNiResetDeviceCmd then 0
        else s.downlinkSeqNumber, sequenceNumber.toNat⟩ := by
  unfold shortNiCmdCodePacket
  dsimp only
  split
  case isTrue hdup =>
    rw [if_neg fun h => absurd (hdup.symm.trans h.1) (by decide)]
    rfl
  case isFalse hdup =>
    split
    case isTrue hack =>
      have hother : parameter ≠ LonNiResetDeviceCmd := by
        obtain rfl | rfl := hack <;> decide
      rw [if_neg fun h => hother h.2]
      rfl
    case isFalse =>
      refine numbers_onSuccess ?_ fun _ => rfl
      refine numbers_processUplinkMessage.trans ?_
      unfold restartOnReset
      by_cases hreset : parameter = LonNiResetDeviceCmd
      case pos =>
        rw [if_pos hreset, if_pos ⟨Bool.eq_false_iff.mpr hdup, hreset⟩]
        rfl
      case neg =>
        rw [if_neg hreset, if_neg fun h => hreset h.2]
        rfl

def Releases (s : LonUsbLinkState) (b : UInt8) : Prop :=
  s.uplinkState = .codePacketChecksum ∧ validateChecksum (s.completedHeader b).toList = true ∧
    (((s.completedHeader b).ack ≠ 0 ∧ ¬CpFailOrReject (s.completedHeader b).cmd ∧
        s.downlinkState ≠ .waitCpResponse) ∨
      (s.completedHeader b).cmd = FAIL_FRAME_CMD)

instance (b : UInt8) : Decidable (s.Releases b) := inferInstanceAs (Decidable (_ ∧ _ ∧ (_ ∨ _)))

def Restarts (s : LonUsbLinkState) (b : UInt8) : Prop :=
  s.uplinkState = .codePacketChecksum ∧ validateChecksum (s.completedHeader b).toList = true ∧
    (s.completedHeader b).cmd = SHORT_NI_CMD_FRAME_CMD ∧
      (s.packetReceived b).uplinkDuplicate = false ∧
        (s.completedHeader b).parameter = LonNiResetDeviceCmd

instance (b : UInt8) : Decidable (s.Restarts b) := inferInstanceAs (Decidable (_ ∧ _ ∧ _ ∧ _ ∧ _))

theorem numbers_packetReceived (b : UInt8) :
    (s.packetReceived b).numbers = if (s.completedHeader b).ack ≠ 0 ∧
      ¬CpFailOrReject (s.completedHeader b).cmd ∧ s.downlinkState ≠ .waitCpResponse then
        s.numbers.advanced else s.numbers := by
  have hcheck : ((s.setFrameHeader (s.completedHeader b)).checkSequence
      (s.completedHeader b)).numbers = s.numbers := numbers_ite (fun _ => rfl) fun _ => rfl
  have hstate : ((s.setFrameHeader (s.completedHeader b)).checkSequence
      (s.completedHeader b)).downlinkState = s.downlinkState := by
    unfold checkSequence
    split <;> rfl
  unfold packetReceived processAck
  generalize (s.setFrameHeader (s.completedHeader b)).checkSequence (s.completedHeader b) = t
    at hcheck hstate ⊢
  rw [hstate]
  split
  case isTrue => rw [numbers_clearUplinkTransaction, hcheck]
  case isFalse => exact hcheck

theorem packetHandled_eq (now : OsalTickCount) (b : UInt8) :
    s.packetHandled now b =
      if (s.completedHeader b).cmd = MSG_FRAME_CMD then
        ({ s.packetReceived b with
            downlinkAckSeqNumber := (s.completedHeader b).seq.toNat
            uplinkState := .message }, .noError)
      else if (s.completedHeader b).cmd = SHORT_NI_CMD_FRAME_CMD then
        (s.packetReceived b).shortNiCmdCodePacket (s.completedHeader b).parameter
          (s.completedHeader b).seq
      else if (s.completedHeader b).cmd = MSG_REJECT_FRAME_CMD then
        (s.packetReceived b).rejectCodePacket now
      else if (s.completedHeader b).cmd = FAIL_FRAME_CMD then
        ((s.packetReceived b).clearUplinkTransaction.stopAckTimer, .frameError)
      else if (s.completedHeader b).cmd = NULL_FRAME_CMD then
        ({ s.packetReceived b with
            waitForNull := false
            haveNull := (s.packetReceived b).haveNull || (s.packetReceived b).waitForNull },
          .noError)
      else (s.packetReceived b, .frameError) :=
  rfl

def seqAfter (s : LonUsbLinkState) (b : UInt8) : Int :=
  if s.Restarts b then 0
  else if s.Releases b then nextNumber s.downlinkSeqNumber
  else s.downlinkSeqNumber

theorem seq_packetReceived {b : UInt8} (hstate : s.uplinkState = .codePacketChecksum)
    (hvalid : validateChecksum (s.completedHeader b).toList = true)
    (hfail : (s.completedHeader b).cmd ≠ FAIL_FRAME_CMD) :
    (s.packetReceived b).downlinkSeqNumber =
      if s.Releases b then nextNumber s.downlinkSeqNumber else s.downlinkSeqNumber := by
  refine (congrArg Numbers.seq (numbers_packetReceived (s := s) b)).trans ?_
  by_cases hack : (s.completedHeader b).ack ≠ 0 ∧ ¬CpFailOrReject (s.completedHeader b).cmd ∧
      s.downlinkState ≠ .waitCpResponse
  case pos =>
    have hreleases : s.Releases b := ⟨hstate, hvalid, .inl hack⟩
    rw [if_pos hack, if_pos hreleases]
    rfl
  case neg =>
    have hreleases : ¬s.Releases b := fun h => h.2.2.elim hack hfail
    rw [if_neg hack, if_neg hreleases]
    rfl

theorem seq_packetHandled {b : UInt8} (hstate : s.uplinkState = .codePacketChecksum)
    (hvalid : validateChecksum (s.completedHeader b).toList = true) (now : OsalTickCount) :
    (s.packetHandled now b).1.downlinkSeqNumber = s.seqAfter b := by
  have hrestarts (hcmd : (s.completedHeader b).cmd ≠ SHORT_NI_CMD_FRAME_CMD) : ¬s.Restarts b :=
    fun h => hcmd h.2.2.1
  rw [packetHandled_eq]
  unfold seqAfter
  by_cases hmsg : (s.completedHeader b).cmd = MSG_FRAME_CMD
  case pos =>
    rw [if_pos hmsg, if_neg (hrestarts (by rw [hmsg]; decide))]
    exact seq_packetReceived hstate hvalid (by rw [hmsg]; decide)
  case neg =>
    rw [if_neg hmsg]
    by_cases hshort : (s.completedHeader b).cmd = SHORT_NI_CMD_FRAME_CMD
    case pos =>
      have hseq := seq_packetReceived hstate hvalid (by rw [hshort]; decide)
      rw [if_pos hshort]
      refine (congrArg Numbers.seq (numbers_shortNiCmdCodePacket _ _)).trans ?_
      rw [← hseq]
      refine ite_congr (propext ?_) (fun _ => rfl) fun _ => rfl
      exact ⟨fun h => ⟨hstate, hvalid, hshort, h.1, h.2⟩, fun h => h.2.2.2⟩
    case neg =>
      rw [if_neg hshort, if_neg (hrestarts hshort)]
      by_cases hreject : (s.completedHeader b).cmd = MSG_REJECT_FRAME_CMD
      case pos =>
        have hfail : (s.completedHeader b).cmd ≠ FAIL_FRAME_CMD := by rw [hreject]; decide
        rw [if_pos hreject, ← seq_packetReceived hstate hvalid hfail]
        cases numbers_rejectCodePacket (s := s.packetReceived b) now with
        | inl hsame => exact congrArg Numbers.seq hsame
        | inr hacked => exact congrArg Numbers.seq hacked
      case neg =>
        rw [if_neg hreject]
        by_cases hfail : (s.completedHeader b).cmd = FAIL_FRAME_CMD
        case pos =>
          have hreleases : s.Releases b := ⟨hstate, hvalid, .inr hfail⟩
          have hreceived := numbers_packetReceived (s := s) b
          rw [if_neg (fun h => h.2.1 (.inl hfail))] at hreceived
          rw [if_pos hfail, if_pos hreleases]
          refine (congrArg Numbers.seq (numbers_clearUplinkTransaction (s.packetReceived b))).trans ?_
          rw [hreceived]
          rfl
        case neg =>
          rw [if_neg hfail, ← seq_packetReceived hstate hvalid hfail]
          split <;> rfl

theorem seq_codePacketChecksumByte {b : UInt8} (hstate : s.uplinkState = .codePacketChecksum)
    (now : OsalTickCount) :
    (s.codePacketChecksumByte now b).1.downlinkSeqNumber = s.seqAfter b := by
  by_cases hvalid : validateChecksum (s.completedHeader b).toList = true
  case pos =>
    rw [s.codePacketChecksumByte_of_valid hvalid, ← seq_packetHandled hstate hvalid now]
    unfold onSuccess
    split
    case isTrue =>
      dsimp only
      split <;> rfl
    case isFalse => rfl
  case neg =>
    have hrestarts : ¬s.Restarts b := fun h => hvalid h.2.1
    have hreleases : ¬s.Releases b := fun h => hvalid h.2.1
    rw [s.codePacketChecksumByte_of_not hvalid, seqAfter, if_neg hrestarts, if_neg hreleases]
    simp only [packetDropped, setUplinkState, setDownlinkAckSeqNumber, setUplinkFrameError,
      setFrameHeader]

theorem numbers_idleByte (b : UInt8) : (s.idleByte b).numbers = s.numbers :=
  numbers_ite (fun _ => rfl) fun _ => rfl

theorem numbers_frameCodeByte (now : OsalTickCount) (b : UInt8) :
    (s.frameCodeByte now b).numbers = s.numbers :=
  numbers_ite (fun _ => rfl) fun _ => numbers_ite (fun _ => rfl) fun _ => numbers_idleByte b

theorem seq_processUplinkByte (now : OsalTickCount) (last : Bool) (b : UInt8) :
    (s.processUplinkByte now last b).1.downlinkSeqNumber = s.seqAfter b := by
  have hother (hstate : s.uplinkState ≠ .codePacketChecksum) :
      s.seqAfter b = s.downlinkSeqNumber := by
    have hrestarts : ¬s.Restarts b := fun h => hstate h.1
    have hreleases : ¬s.Releases b := fun h => hstate h.1
    rw [seqAfter, if_neg hrestarts, if_neg hreleases]
  unfold processUplinkByte
  cases hstate : s.uplinkState with
  | idle =>
    rw [hother (by rw [hstate]; decide)]
    exact congrArg Numbers.seq (numbers_idleByte (s := s) b)
  | frameCode =>
    rw [hother (by rw [hstate]; decide)]
    exact congrArg Numbers.seq (numbers_frameCodeByte (s := s) now b)
  | frameParameter =>
    rw [hother (by rw [hstate]; decide)]
    rfl
  | codePacketChecksum => exact seq_codePacketChecksumByte hstate now
  | message =>
    rw [hother (by rw [hstate]; decide)]
    exact congrArg Numbers.seq (numbers_messageByte (s := s) now last b)
  | escapedData =>
    rw [hother (by rw [hstate]; decide)]
    refine (congrArg Numbers.seq (numbers_escapedDataByte (s := s) b)).trans ?_
    split <;> rfl

end LonUsbLinkState

end LonStack.LonUsb
