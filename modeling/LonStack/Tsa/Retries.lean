import LonStack.TimerLaws
import LonStack.Tsa.Frame
import LonStack.Tsa.InTime
import LonStack.Tsa.TransAgree

namespace LonStack

open Lib

theorem decodeRptTimer_lt {code rptTimer : Nat} (h : decodeRptTimer code = some rptTimer) :
    rptTimer < 65536 := by
  have hall : ∀ t ∈ rptTimerCodeLGbl, t < 65536 := by decide
  exact hall _ (List.mem_of_getElem? h)

theorem decodeTxTimer_lt (code : Nat) : decodeTxTimer code < 65536 :=
  Nat.mod_lt _ (by decide)

structure RetryPlan where
  count : Nat
  interval : Nat

def TSASendParam.retryPlan (p : TSASendParam) (rptTimer : Nat) : RetryPlan where
  count := p.destAddr.retry
  interval := if p.service = .repeated then rptTimer else decodeTxTimer p.destAddr.transmitTimer

namespace Call

def retryPlan : Call → RetryPlan
  | .startTrans _ _ p _ rptTimer => p.retryPlan rptTimer
  | _ => ⟨0, 0⟩

def retries (b : Bool) : Call → Bool
  | .retransmit _ b' => b' == b
  | _ => false

def restarts (b : Bool) (gp : ProtocolStackData) : Call → Bool
  | .restartTimer b' => b' == b && (gp.xmitRec b').status != .unused
  | .sendReplyToChallenge _ p =>
    p.priority == b && p.srcAddr.dmn.domainIndex != FLEX_DOMAIN &&
      !ProtocolStackData.challengeIsStale (gp.xmitRec p.priority) p &&
      !(gp.nwOutQ p.priority).full
  | _ => false

end Call

def currentPlan (b : Bool) : CallHistory → RetryPlan
  | [] => ⟨0, 0⟩
  | x :: h => if startsTrans b x then x.2.retryPlan else currentPlan b h

def retriesMade (b : Bool) : CallHistory → Nat
  | [] => 0
  | x :: h => if startsTrans b x then 0 else retriesMade b h + (x.2.retries b).toNat

def timerSetAt (b : Bool) : CallHistory → UInt32
  | [] => 0
  | x :: h => if startsTrans b x || x.2.retries b || x.2.restarts b x.1 then x.1.tickCount
    else timerSetAt b h

variable {h : CallHistory} {gp : ProtocolStackData} {c : Call} {b : Bool}

structure Pace where
  retriesLeft : Nat
  xmitTimerValue : Nat
  xmitTimer : LonTimer

def TransmitRecord.pace (x : TransmitRecord) : Pace where
  retriesLeft := x.retriesLeft
  xmitTimerValue := x.xmitTimerValue
  xmitTimer := x.xmitTimer

def Pace.restart (tickCount : UInt32) (pace : Pace) : Pace :=
  { pace with xmitTimer := pace.xmitTimer.set tickCount (UInt32.ofNat pace.xmitTimerValue) }

def Call.setsPace (b : Bool) : Call → Bool
  | .retransmit _ b' => b' == b
  | .startTrans _ b' _ _ _ => b' == b
  | _ => false

namespace ProtocolStackData

theorem pace_modifyXmit {b' : Bool} {f : TransmitRecord → TransmitRecord}
    (hf : ∀ x, (f x).pace = x.pace) :
    ((gp.modifyXmit b' f).xmitRec b).pace = (gp.xmitRec b).pace := by
  by_cases hb : b = b'
  · subst hb
    rw [xmitRec_modifyXmit, hf]
  · rw [gp.xmitRec_modifyXmit_of_ne hb]

theorem pace_sendReplyToChallenge (useOma : Bool) (p : TSAReceiveParam) :
    ((gp.sendReplyToChallenge useOma p).xmitRec b).pace =
      if (Call.sendReplyToChallenge useOma p).restarts b gp then
        (gp.xmitRec b).pace.restart gp.tickCount
      else (gp.xmitRec b).pace := by
  have hrestart : ((gp.sendReplyToChallenge useOma p).xmitRec b).pace =
      ((gp.answerChallenge useOma p).xmitRec b).pace := by
    unfold sendReplyToChallenge writeBehind moveRecvRec
    repeat' split
    all_goals cases b <;> rfl
  rw [hrestart]
  simp only [answerChallenge]
  split
  case isTrue hflex => simp [Call.restarts, hflex, dropTsaIn]
  case isFalse hflex =>
    split
    case isTrue hstale => simp [Call.restarts, hstale, dropTsaIn]
    case isFalse hstale =>
      split
      case isTrue hfull => simp [Call.restarts, hfull]
      case isFalse hfull =>
        obtain ⟨altKey, version, heq⟩ := gp.replyingRec_eq useOma p
        by_cases hb : p.priority = b
        · subst hb
          simp only [Function.update_self, heq, Call.restarts, hstale, hfull]
          simp [hflex, TransmitRecord.pace, Pace.restart]
        · simp [Function.update_of_ne (Ne.symm hb), Call.restarts, hb]

theorem pace_restartTimer (b' : Bool) :
    ((gp.restartTimer b').xmitRec b).pace =
      if (Call.restartTimer b').restarts b gp then (gp.xmitRec b).pace.restart gp.tickCount
      else (gp.xmitRec b).pace := by
  simp only [restartTimer]
  split
  case isTrue hunused => simp [Call.restarts, hunused]
  case isFalse huse =>
    by_cases hb : b' = b
    · subst hb
      rw [xmitRec_modifyXmit, if_pos (by simp [Call.restarts, huse])]
      rfl
    · rw [gp.xmitRec_modifyXmit_of_ne (Ne.symm hb), if_neg (by simp [Call.restarts, hb])]

theorem pace_takeResponse (p : TSAReceiveParam) (sent : TSASendParam) :
    ((gp.takeResponse p sent).xmitRec b).pace = (gp.xmitRec b).pace := by
  simp only [takeResponse]
  split
  · by_cases hb : b = p.priority
    · subst hb
      simp only [xmitRec_modifyXmit]
      rfl
    · exact congrArg _ (Function.update_of_ne hb ..)
  · rfl

theorem xmitRec_retransmit_of_ne {b' : Bool} (layer : Layer) (hb : b ≠ b') :
    (gp.retransmit layer b').xmitRec b = gp.xmitRec b := by
  simp only [retransmit]
  repeat' split
  all_goals first
    | rfl
    | exact xmitRec_modifyXmit_of_ne _ hb _

theorem xmitRec_startTrans_of_ne {b' : Bool} (layer : Layer) (p : TSASendParam)
    (nwDestAddr : DestinationAddress) (rptTimer : Nat) (hb : b ≠ b') :
    (gp.startTrans layer b' p nwDestAddr rptTimer).xmitRec b = gp.xmitRec b := by
  simp only [startTrans]
  split
  · rfl
  · exact Function.update_of_ne hb ..

theorem pace_of_sameSending {gp' : ProtocolStackData} (hs : gp.SameSending gp') :
    (gp'.xmitRec b).pace = (gp.xmitRec b).pace := by
  rw [hs.xmitRec]

end ProtocolStackData

theorem pace_apply (hc : c.setsPace b = false) :
    ((c.apply gp).xmitRec b).pace =
      if c.restarts b gp then (gp.xmitRec b).pace.restart gp.tickCount
      else (gp.xmitRec b).pace := by
  cases c with
  | retransmit layer b' =>
    have hb : b ≠ b' := Ne.symm (by simpa [Call.setsPace] using hc)
    rw [Call.apply, gp.xmitRec_retransmit_of_ne layer hb]
    rfl
  | startTrans layer b' p nwDestAddr rptTimer =>
    have hb : b ≠ b' := Ne.symm (by simpa [Call.setsPace] using hc)
    rw [Call.apply, gp.xmitRec_startTrans_of_ne layer p nwDestAddr rptTimer hb]
    rfl
  | restartTimer b' => exact gp.pace_restartTimer b'
  | sendReplyToChallenge useOma p => exact gp.pace_sendReplyToChallenge useOma p
  | sendCompletion =>
    rw [Call.apply, ProtocolStackData.xmitRec_sendCompletion]
    rfl
  | terminate b' success =>
    rw [Call.apply, ProtocolStackData.terminate, ProtocolStackData.xmitRec_sendCompletion]
    change ((gp.modifyXmit b' fun x => { x with status := .unused }).xmitRec b).pace = _
    exact ProtocolStackData.pace_modifyXmit fun _ => rfl
  | countAck => exact ProtocolStackData.pace_modifyXmit fun _ => rfl
  | countMember =>
    refine ProtocolStackData.pace_modifyXmit fun x => ?_
    split <;> rfl
  | takeResponse p sent => exact gp.pace_takeResponse p sent
  | env e => cases e <;> rfl
  | releaseExpired layer => exact gp.pace_of_sameSending (gp.sameSending_releaseExpired layer)
  | initiateChallenge i => exact gp.pace_of_sameSending (gp.sameSending_initiateChallenge i)
  | deliver i => exact gp.pace_of_sameSending (gp.sameSending_deliver i)
  | tpSendAck i => exact gp.pace_of_sameSending (gp.sameSending_tpSendAck i)
  | snSendResponse nullResponse flexResponse i =>
    exact gp.pace_of_sameSending (gp.sameSending_snSendResponse nullResponse flexResponse i)
  | receiveNewMsg | receiveRem | processReply | tpReceiveAck | dropTsaIn | dropTsaResp | freeRR
    | initRR | retryRR | setNeedAuth | noteAnswered | authenticate | storeResponse => rfl

inductive TransmitRecord.Retried (x : TransmitRecord) (tickCount : UInt32) : TransmitRecord → Prop
  | lost : Retried x tickCount (x.loseRetry tickCount)
  | counted : Retried x tickCount (x.countRetry tickCount)
  | stopped : Retried x tickCount { x with retriesLeft := 0 }

theorem retried_retransmit {p : TSASendParam} (layer : Layer) (hp : (gp.tsaOutQ b).peek = some p) :
    (gp.xmitRec b).Retried gp.tickCount ((gp.retransmit layer b).xmitRec b) := by
  simp only [ProtocolStackData.retransmit, hp]
  repeat' split
  all_goals rw [ProtocolStackData.xmitRec_modifyXmit]
  all_goals first
    | exact .lost
    | exact .counted
    | exact .stopped

structure KeepsPlan (b : Bool) (h : CallHistory) (x : TransmitRecord) : Prop where
  made : retriesMade b h ≤ (currentPlan b h).count
  short : (currentPlan b h).interval < 65536
  left : x.status ≠ .unused → retriesMade b h + x.retriesLeft ≤ (currentPlan b h).count
  interval : x.status ≠ .unused → x.retriesLeft ≠ 0 →
    x.xmitTimerValue = (currentPlan b h).interval
  timer : x.status ≠ .unused → x.retriesLeft ≠ 0 →
    ∃ timer : LonTimer,
      x.xmitTimer = timer.set (timerSetAt b h) (UInt32.ofNat (currentPlan b h).interval)

theorem status_step (hg : c.Guard h gp) (hover : c.overwritesStatus gp = false)
    (hm : gp.QueuesMarked) (hs : startsTrans b (gp, c) = false)
    (huse : ((c.apply gp).xmitRec b).status ≠ .unused) : (gp.xmitRec b).status ≠ .unused := by
  have hstep := sendStep hg hover hm b
  have hasks (huse : ((c.apply gp).xmitRec b).status ≠ .unused) : c.asksFor b = none := by
    simpa [startsTrans, huse] using hs
  generalize c.apply gp = gp' at hstep huse hasks
  generalize hx' : gp'.xmitRec b = x, gp'.transCtrl b = ctrl, gp'.tsaOutQ b = q
    at hstep huse hasks
  cases hstep with
  | kept _ hx =>
    intro hunused
    exact huse ((congrArg Transaction.status hx).trans hunused)
  | completed | refused => exact huse
  | terminated => exact absurd rfl huse
  | started => simp [Call.asksFor, huse] at hasks
  | ackCounted hstatus => simp [hstatus]
  | memberCounted _ hstatus => simp [hstatus]
  | responseTaken _ _ hstatus => simp [hstatus]

theorem retriesMade_cons (hs : startsTrans b (gp, c) = false) :
    retriesMade b ((gp, c) :: h) = retriesMade b h + (c.retries b).toNat := by
  simp [retriesMade, hs]

theorem currentPlan_cons (hs : startsTrans b (gp, c) = false) :
    currentPlan b ((gp, c) :: h) = currentPlan b h := by
  simp [currentPlan, hs]

theorem timerSetAt_cons (hs : startsTrans b (gp, c) = false) :
    timerSetAt b ((gp, c) :: h) =
      if c.retries b || c.restarts b gp then gp.tickCount else timerSetAt b h := by
  simp [timerSetAt, hs]

theorem TSASendParam.interval_lt {p : TSASendParam} {rptTimer : Nat}
    (hrpt : decodeRptTimer p.destAddr.repeatTimer = some rptTimer) :
    (p.retryPlan rptTimer).interval < 65536 := by
  simp only [retryPlan]
  split
  · exact decodeRptTimer_lt hrpt
  · exact decodeTxTimer_lt _

theorem SendAddress.transmitTimer_setMaxResponses (a : SendAddress) (n : UInt8) :
    (a.setMaxResponses n).transmitTimer = a.transmitTimer := by
  simp only [transmitTimer, setMaxResponses]
  congr 1
  apply UInt8.toBitVec_inj.mp
  simp only [UInt8.toBitVec_and, UInt8.toBitVec_or, BitVec.and_or_distrib_right, BitVec.and_assoc]
  simp

@[simp]
theorem TSASendParam.retryPlan_forDest (p : TSASendParam) (nwDestAddr : DestinationAddress)
    (rptTimer : Nat) : (p.forDest nwDestAddr).retryPlan rptTimer = p.retryPlan rptTimer := by
  simp only [retryPlan, forDest]
  split
  · rw [SendAddress.transmitTimer_setMaxResponses]
    rfl
  · rfl

theorem pace_started {layer : Layer} {p : TSASendParam} {nwDestAddr : DestinationAddress}
    {rptTimer : Nat} (hunused : (gp.xmitRec b).status = .unused)
    (huse : ((gp.startTrans layer b p nwDestAddr rptTimer).xmitRec b).status ≠ .unused) :
    ((gp.startTrans layer b p nwDestAddr rptTimer).xmitRec b).pace =
      Pace.restart gp.tickCount
        ⟨(p.retryPlan rptTimer).count, (p.retryPlan rptTimer).interval,
          (gp.xmitRec b).xmitTimer⟩ := by
  simp only [ProtocolStackData.startTrans] at huse ⊢
  split
  case isTrue hcode =>
    rw [if_pos hcode] at huse
    exact absurd hunused huse
  case isFalse =>
    rw [← p.retryPlan_forDest nwDestAddr]
    simp only [Function.update_self]
    rfl

theorem KeepsPlan.started {layer : Layer} {p : TSASendParam} {nwDestAddr : DestinationAddress}
    {rptTimer : Nat} (hunused : (gp.xmitRec b).status = .unused)
    (hrpt : decodeRptTimer p.destAddr.repeatTimer = some rptTimer)
    (huse : ((gp.startTrans layer b p nwDestAddr rptTimer).xmitRec b).status ≠ .unused) :
    KeepsPlan b ((gp, .startTrans layer b p nwDestAddr rptTimer) :: h)
      ((gp.startTrans layer b p nwDestAddr rptTimer).xmitRec b) := by
  have hs : startsTrans b (gp, .startTrans layer b p nwDestAddr rptTimer) = true :=
    startsTrans_eq_true huse
  have hpace := pace_started hunused huse
  have hleft := congrArg Pace.retriesLeft hpace
  have hvalue := congrArg Pace.xmitTimerValue hpace
  have htimer := congrArg Pace.xmitTimer hpace
  simp only [TransmitRecord.pace, Pace.restart] at hleft hvalue htimer
  constructor
  · simp [retriesMade, hs]
  · simpa [currentPlan, hs, Call.retryPlan] using TSASendParam.interval_lt hrpt
  · simp [retriesMade, currentPlan, hs, Call.retryPlan, hleft]
  · simp [currentPlan, hs, Call.retryPlan, hvalue]
  · simp only [currentPlan, timerSetAt, hs, Call.retryPlan, htimer]
    exact fun _ _ => ⟨_, rfl⟩

theorem KeepsPlan.refused {layer : Layer} {p : TSASendParam} {nwDestAddr : DestinationAddress}
    {rptTimer : Nat} (hk : KeepsPlan b h (gp.xmitRec b))
    (hunused : ((gp.startTrans layer b p nwDestAddr rptTimer).xmitRec b).status = .unused) :
    KeepsPlan b ((gp, .startTrans layer b p nwDestAddr rptTimer) :: h)
      ((gp.startTrans layer b p nwDestAddr rptTimer).xmitRec b) := by
  have hs : startsTrans b (gp, .startTrans layer b p nwDestAddr rptTimer) = false := by
    simp [startsTrans, Call.apply, hunused]
  constructor
  · rw [retriesMade_cons hs, currentPlan_cons hs]
    exact hk.made
  · rw [currentPlan_cons hs]
    exact hk.short
  · exact fun huse => absurd hunused huse
  · exact fun huse => absurd hunused huse
  · exact fun huse => absurd hunused huse

theorem KeepsPlan.retried {layer : Layer} {p : TSASendParam} (hk : KeepsPlan b h (gp.xmitRec b))
    (hp : (gp.tsaOutQ b).peek = some p) (hdue : RetryDue layer b gp) :
    KeepsPlan b ((gp, .retransmit layer b) :: h) ((gp.retransmit layer b).xmitRec b) := by
  have hs : startsTrans b (gp, .retransmit layer b) = false := startsTrans_eq_false rfl
  have huse : (gp.xmitRec b).status ≠ .unused := hdue.status ▸ layer.txStatus_ne
  have hretry : (Call.retransmit layer b).retries b = true := beq_self_eq_true b
  have hleft := hk.left huse
  have hinterval := hk.interval huse hdue.retriesLeft
  have hpos := hdue.retriesLeft
  have hretried := retried_retransmit layer hp
  generalize (gp.retransmit layer b).xmitRec b = x at hretried ⊢
  constructor
  · rw [retriesMade_cons hs, currentPlan_cons hs, hretry, Bool.toNat_true]
    omega
  · rw [currentPlan_cons hs]
    exact hk.short
  · rw [retriesMade_cons hs, currentPlan_cons hs, hretry, Bool.toNat_true]
    intro _
    cases hretried <;> simp only [TransmitRecord.loseRetry, TransmitRecord.countRetry] <;> omega
  · rw [currentPlan_cons hs]
    intro _ hmore
    cases hretried with
    | lost => exact hinterval
    | counted =>
      simp only [TransmitRecord.countRetry] at hmore ⊢
      rw [if_neg hmore]
      exact hinterval
    | stopped => exact absurd rfl hmore
  · rw [currentPlan_cons hs, timerSetAt_cons hs, hretry, Bool.true_or, if_pos rfl, ← hinterval]
    intro _ hmore
    cases hretried with
    | lost => exact ⟨_, rfl⟩
    | counted =>
      simp only [TransmitRecord.countRetry] at hmore ⊢
      rw [if_neg hmore]
      exact ⟨_, rfl⟩
    | stopped => exact absurd rfl hmore

theorem asksFor_of_setsPace (hc : c.setsPace b = false) : c.asksFor b = none := by
  cases c with
  | startTrans => exact if_neg (by simpa [Call.setsPace] using hc)
  | _ => rfl

theorem retries_of_setsPace (hc : c.setsPace b = false) : c.retries b = false := by
  cases c with
  | retransmit => exact hc
  | _ => rfl

theorem KeepsPlan.kept (hk : KeepsPlan b h (gp.xmitRec b)) (hc : c.setsPace b = false)
    (hstatus : ((c.apply gp).xmitRec b).status ≠ .unused → (gp.xmitRec b).status ≠ .unused) :
    KeepsPlan b ((gp, c) :: h) ((c.apply gp).xmitRec b) := by
  have hpace := @pace_apply gp c b hc
  have hs : startsTrans b (gp, c) = false := startsTrans_eq_false (asksFor_of_setsPace hc)
  have hretry : c.retries b = false := retries_of_setsPace hc
  generalize (c.apply gp).xmitRec b = x at hstatus hpace ⊢
  have hleft : x.retriesLeft = (gp.xmitRec b).retriesLeft := by
    have := congrArg Pace.retriesLeft hpace
    split at this <;> exact this
  have hvalue : x.xmitTimerValue = (gp.xmitRec b).xmitTimerValue := by
    have := congrArg Pace.xmitTimerValue hpace
    split at this <;> exact this
  constructor
  · rw [retriesMade_cons hs, currentPlan_cons hs, hretry]
    exact hk.made
  · rw [currentPlan_cons hs]
    exact hk.short
  · rw [retriesMade_cons hs, currentPlan_cons hs, hretry, hleft]
    exact fun huse => hk.left (hstatus huse)
  · rw [currentPlan_cons hs, hleft, hvalue]
    exact fun huse => hk.interval (hstatus huse)
  · rw [currentPlan_cons hs, timerSetAt_cons hs, hretry, Bool.false_or, hleft]
    intro huse hmore
    have htimer := congrArg Pace.xmitTimer hpace
    split at htimer
    case isTrue hre =>
      rw [if_pos hre]
      refine ⟨(gp.xmitRec b).xmitTimer, ?_⟩
      rw [← hk.interval (hstatus huse) hmore]
      exact htimer
    case isFalse hre =>
      rw [if_neg hre]
      obtain ⟨timer, heq⟩ := hk.timer (hstatus huse) hmore
      exact ⟨timer, htimer.trans heq⟩

theorem keepsPlan_step (hg : c.Guard h gp) (hover : c.overwritesStatus gp = false)
    (hm : gp.QueuesMarked) (ha : TransAgrees b h gp) (hdue : c.Due gp)
    (hk : KeepsPlan b h (gp.xmitRec b)) :
    KeepsPlan b ((gp, c) :: h) ((c.apply gp).xmitRec b) := by
  cases hc : c.setsPace b with
  | true =>
    cases c with
    | retransmit layer b' =>
      obtain rfl : b' = b := eq_of_beq hc
      obtain ⟨p, hp⟩ := ha.head hg
      exact hk.retried hp.peek hdue.2
    | startTrans layer b' p nwDestAddr rptTimer =>
      obtain rfl : b' = b := eq_of_beq hc
      by_cases huse : ((gp.startTrans layer b' p nwDestAddr rptTimer).xmitRec b').status = .unused
      · exact hk.refused huse
      · exact .started hg.1 hdue.2 huse
    | _ => exact absurd hc Bool.false_ne_true
  | false =>
    exact hk.kept hc (status_step hg hover hm (startsTrans_eq_false (asksFor_of_setsPace hc)))

/-- A retry that the plan of its transaction allows: the transaction is that of the layer, answers
are missing, fewer retries were made than planned, and the interval has passed since the timer was
set. -/
structure RetryInTime (layer : Layer) (b : Bool) (h : CallHistory) (gp : ProtocolStackData) :
    Prop where
  status : (gp.xmitRec b).status = layer.txStatus
  answered : (gp.xmitRec b).answered = false
  made : retriesMade b h < (currentPlan b h).count
  elapsed : (currentPlan b h).interval ≤ (gp.tickCount - timerSetAt b h).toNat

theorem KeepsPlan.inTime {layer : Layer} (hk : KeepsPlan b h (gp.xmitRec b))
    (hdue : RetryDue layer b gp) : RetryInTime layer b h gp := by
  have huse : (gp.xmitRec b).status ≠ .unused := hdue.status ▸ layer.txStatus_ne
  have hleft := hk.left huse
  have hpos := hdue.retriesLeft
  obtain ⟨timer, htimer⟩ := hk.timer huse hdue.retriesLeft
  have hexpired := hdue.expired
  rw [htimer] at hexpired
  exact ⟨hdue.status, hdue.answered, by omega, LonTimer.le_elapsed hk.short hexpired⟩

/-- In every run in which no answer to a challenge runs over its record, each retry keeps to the plan
of its transaction, and no transaction exceeds its number of retries. -/
theorem retries_in_time {g₀ : ProtocolStackData} (hinit : g₀.PowerUp) (hrun : Reaches g₀ h gp)
    (hover : ∀ x ∈ h, x.2.overruns x.1 = false) (b : Bool) :
    retriesMade b h ≤ (currentPlan b h).count ∧
      EachCall (fun h gp c => ∀ layer, c = .retransmit layer b → RetryInTime layer b h gp) h := by
  have hprog (e : Event) (h : CallHistory) (gp : ProtocolStackData) :
      e.prog.wp Call.apply (fun h gp c => c.Guard h gp ∧ c.Due gp) (fun _ _ _ => True) h gp :=
    ((e.guarded h gp).and (e.inTime h gp)).mono (fun _ _ _ hc => hc) fun _ _ _ _ => trivial
  obtain ⟨hgp, hcalls⟩ := hrun.invariant_calls_while (P := fun x => x.2.overruns x.1 = false)
    (I := fun h gp => gp.QueuesMarked ∧ TransAgrees b h gp ∧ KeepsPlan b h (gp.xmitRec b))
    ⟨fun b m hm => by simp [hinit.messages b] at hm, hinit.transAgrees b,
      ⟨Nat.le_refl 0, Nat.zero_lt_succ _, fun huse => absurd (hinit.xmitRec b) huse,
        fun huse => absurd (hinit.xmitRec b) huse, fun huse => absurd (hinit.xmitRec b) huse⟩⟩
    hprog
    (fun _ _ _ hc hover hI =>
      have hstatus := (Call.not_overruns_iff.mp hover).2
      ⟨queuesMarked_step hc.1 hI.1, transAgrees_step hc.1 hstatus hI.1 hI.2.1,
        keepsPlan_step hc.1 hstatus hI.1 hI.2.1 hc.2 hI.2.2⟩)
  refine ⟨(hgp hover).2.2.made, (hcalls.of_forall hover).mono fun h gp c hx layer hc => ?_⟩
  subst hc
  exact hx.2.2.2.inTime hx.1.2.2

def oneRetry : List Event :=
  [.env (.appSend false
      (messageTo { nodeAddress 2 with repeatRetry := 3 } .acknowledged 7 [0x10, 0x20])),
    .transportLayerSend, .env (.tick 16), .transportLayerSend]

theorem retries_in_time_oneRetry :
    retriesMade false (runEvents oneRetry ([], .reset default 3 50)).1 = 1 ∧
      1 ≤ (currentPlan false (runEvents oneRetry ([], .reset default 3 50)).1).count := by
  have hmade : retriesMade false (runEvents oneRetry ([], .reset default 3 50)).1 = 1 := by
    decide +kernel
  have hintime := retries_in_time (ProtocolStackData.powerUp_reset default 3 50)
    (ProtocolStackData.reaches_runEvents _ oneRetry) (by decide +kernel) false
  exact ⟨hmade, hmade ▸ hintime.1⟩

abbrev TS_RESET_DELAY_TIME : UInt32 := 2000

def ProtocolStackData.startDelay (gp : ProtocolStackData) : ProtocolStackData :=
  { gp with tsDelayTimer := gp.tsDelayTimer.set gp.tickCount TS_RESET_DELAY_TIME }

theorem tsDelayTimer_apply : (c.apply gp).tsDelayTimer = gp.tsDelayTimer := by
  cases hc : c.outer with
  | false =>
    exact congrArg (fun x => x.1.tsDelayTimer) (c.frame_apply hc gp)
  | true =>
    cases c with
    | sendReplyToChallenge useOma p =>
      exact congrArg NodeData.tsDelayTimer (gp.toNodeData_sendReplyToChallenge useOma p)
    | dropTsaIn => rfl
    | env e => cases e <;> rfl
    | _ => exact absurd hc Bool.false_ne_true

/-- Nothing is sent on the node's own account while messages from before a reset may still be
pending in other nodes. -/
theorem sends_after_delay {g₀ : ProtocolStackData} (hrun : Reaches g₀.startDelay h gp) :
    EachCall
      (fun _ gp c => c.Plain ∨ TS_RESET_DELAY_TIME.toNat ≤ (gp.tickCount - g₀.tickCount).toNat)
      h := by
  have hcalls := (hrun.invariant_calls
    (I := fun _ gp => gp.tsDelayTimer = g₀.tsDelayTimer.set g₀.tickCount TS_RESET_DELAY_TIME) rfl
    Event.inTime fun _ _ _ _ ht => tsDelayTimer_apply.trans ht).2
  refine hcalls.mono fun _ gp c hc => ?_
  have hdelay (hopen : gp.sendBlocked = false) :
      TS_RESET_DELAY_TIME.toNat ≤ (gp.tickCount - g₀.tickCount).toNat := by
    rw [ProtocolStackData.sendBlocked, hc.2] at hopen
    exact LonTimer.le_elapsed (n := 2000) (by decide) hopen
  cases c with
  | retransmit | startTrans => exact .inr (hdelay hc.1.1)
  | storeResponse => exact .inr (hdelay hc.1)
  | _ => exact .inl trivial

theorem sends_after_delay_oneSend :
    EachCall
      (fun _ gp c => c.Plain ∨
        TS_RESET_DELAY_TIME.toNat ≤
          (gp.tickCount - (ProtocolStackData.reset default 3 50).tickCount).toNat)
      (runEvents (oneSend ++ [.env (.tick 2000), .transportLayerSend])
        ([], (ProtocolStackData.reset default 3 50).startDelay)).1 :=
  sends_after_delay (ProtocolStackData.reaches_runEvents _ _)

end LonStack
