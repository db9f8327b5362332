import LonStack.TcsLaws
import LonStack.Tsa.Guard

namespace LonStack

open Lib

structure Transaction where
  status : TxStatus
  nwDestAddr : DestinationAddress
  ackReceived : Nat → Bool
  destCount : Nat
  ackCount : Nat
  apdu : Nat
  apduSize : Nat

def TransmitRecord.transaction (x : TransmitRecord) : Transaction where
  status := x.status
  nwDestAddr := x.nwDestAddr
  ackReceived := x.ackReceived
  destCount := x.destCount
  ackCount := x.ackCount
  apdu := x.apdu
  apduSize := x.apduSize

structure Message where
  service : ServiceType
  tag : MsgTag
  priority : Bool
  apdu : List UInt8

def TSASendParam.message (p : TSASendParam) : Message where
  service := p.service
  tag := p.tag
  priority := p.priority
  apdu := p.apdu

@[simp]
theorem TSASendParam.message_forDest (p : TSASendParam) (nwDestAddr : DestinationAddress) :
    (p.forDest nwDestAddr).message = p.message := by
  unfold forDest
  split <;> rfl

@[simp]
theorem TSASendParam.apduSize_forDest (p : TSASendParam) (nwDestAddr : DestinationAddress) :
    (p.forDest nwDestAddr).apduSize = p.apduSize := by
  unfold forDest
  split <;> rfl

namespace Queue

def messages (q : Queue TSASendParam) : List Message := q.toList.map TSASendParam.message

structure Grows (priority : Bool) (q q' : Queue TSASendParam) : Prop where
  headIndex : q'.headIndex = q.headIndex
  messages : ∃ more : List Message,
    (∀ m ∈ more, m.priority = priority) ∧ q'.messages = q.messages ++ more

variable {priority : Bool} {q : Queue TSASendParam}

theorem Grows.refl : Grows priority q q := ⟨rfl, [], by simp⟩

theorem Grows.of_eq {q' : Queue TSASendParam} (hq : q' = q) : Grows priority q q' := hq ▸ .refl

theorem headIndex_fillHead (x : TSASendParam) : (q.fillHead x).headIndex = q.headIndex := by
  unfold fillHead
  split <;> rfl

theorem messages_fillHead {p x : TSASendParam} (hp : q.peek = some p)
    (hx : x.message = p.message) : (q.fillHead x).messages = q.messages := by
  rw [peek_eq_head?] at hp
  rw [messages, messages, toList_fillHead]
  cases hl : q.toList with
  | nil => rfl
  | cons y ys =>
    simp only [hl, List.head?_cons, Option.some.injEq] at hp
    simp [hx, hp]

theorem Grows.fillHead {p x : TSASendParam} (hp : q.peek = some p)
    (hx : x.message = p.message) : Grows priority q (q.fillHead x) :=
  ⟨headIndex_fillHead x, [], by simp [messages_fillHead hp hx]⟩

theorem headIndex_push (fill : TSASendParam → TSASendParam) :
    (q.push fill).headIndex = q.headIndex := by
  unfold push
  split
  · rfl
  · rw [headIndex_write, Queue.fillTail]
    split <;> rfl

theorem Grows.push (p : TSASendParam) (hp : p.priority = priority) :
    Grows priority q (q.push fun _ => p) := by
  refine ⟨headIndex_push _, ?_⟩
  simp only [Queue.messages, toList_push]
  split
  case isTrue =>
    refine ⟨[p.message], ?_, by simp⟩
    simpa [TSASendParam.message] using hp
  case isFalse => exact ⟨[], by simp⟩

theorem messages_dropHead : q.dropHead.messages = q.messages.tail := by
  rw [messages, toList_dropHead, List.map_tail, messages]

end Queue

namespace ProtocolStackData

structure SameSending (gp gp' : ProtocolStackData) : Prop where
  xmitRec : gp'.xmitRec = gp.xmitRec
  transCtrl : gp'.transCtrl = gp.transCtrl
  tsaOutQ : gp'.tsaOutQ = gp.tsaOutQ
  appCeRspInQ : gp'.appCeRspInQ = gp.appCeRspInQ

variable (gp : ProtocolStackData)

theorem SameSending.refl : SameSending gp gp := ⟨rfl, rfl, rfl, rfl⟩

theorem sameSending_releaseExpired (layer : Layer) : SameSending gp (gp.releaseExpired layer) :=
  ⟨rfl, rfl, rfl, rfl⟩

theorem sameSending_initiateChallenge (i : Fin RECEIVE_TRANS_COUNT) :
    SameSending gp (gp.initiateChallenge i) := by
  have hdraw : SameSending gp (gp.drawChallenge i) := by
    unfold drawChallenge
    split
    · exact ⟨rfl, rfl, rfl, rfl⟩
    · exact ⟨rfl, rfl, rfl, rfl⟩
  simp only [initiateChallenge]
  split
  · exact .refl gp
  · split
    · exact hdraw
    · exact ⟨hdraw.xmitRec, hdraw.transCtrl, hdraw.tsaOutQ, hdraw.appCeRspInQ⟩

theorem sameSending_deliver (i : Fin RECEIVE_TRANS_COUNT) : SameSending gp (gp.deliver i) := by
  simp only [deliver]
  repeat' split
  all_goals exact ⟨rfl, rfl, rfl, rfl⟩

theorem sameSending_tpSendAck (i : Fin RECEIVE_TRANS_COUNT) :
    SameSending gp (gp.tpSendAck i) := by
  simp only [tpSendAck]
  repeat' split
  all_goals exact ⟨rfl, rfl, rfl, rfl⟩

theorem sameSending_snSendResponse (nullResponse flexResponse : Bool)
    (i : Fin RECEIVE_TRANS_COUNT) :
    SameSending gp (gp.snSendResponse i nullResponse flexResponse) := by
  simp only [snSendResponse]
  repeat' split
  all_goals exact ⟨rfl, rfl, rfl, rfl⟩

end ProtocolStackData

def Call.transacts (priority : Bool) : Call → Bool
  | .sendCompletion b _ => b == priority
  | .terminate b _ => b == priority
  | .startTrans _ b _ _ _ => b == priority
  | .countAck b => b == priority
  | .countMember b _ => b == priority
  | .takeResponse p _ => p.priority == priority
  | _ => false

inductive SendStep (gp : ProtocolStackData) (priority : Bool) :
    Call → TransmitRecord → TransCtrl → Queue TSASendParam → Prop
  | kept {c : Call} {x : TransmitRecord} {q : Queue TSASendParam} :
      c.transacts priority = false →
      x.transaction = (gp.xmitRec priority).transaction →
      Queue.Grows priority (gp.tsaOutQ priority) q →
      SendStep gp priority c x (gp.transCtrl priority) q
  | completed (success : Bool) {q : Queue TSASendParam} :
      (gp.xmitRec priority).status = .unused →
      q.messages =
        (if gp.appCeRspInQ.full then (gp.tsaOutQ priority).messages
          else (gp.tsaOutQ priority).messages.tail) →
      SendStep gp priority (.sendCompletion priority success) (gp.xmitRec priority)
        (gp.transCtrl priority) q
  | terminated {p : TSASendParam} {q : Queue TSASendParam} :
      (gp.xmitRec priority).status ≠ .unused → gp.appCeRspInQ.full = false →
      (gp.tsaOutQ priority).peek = some p →
      q.messages = (gp.tsaOutQ priority).messages.tail →
      SendStep gp priority (.terminate priority ((gp.xmitRec priority).succeeded p))
        { gp.xmitRec priority with status := .unused } (gp.transCtrl priority).transDone q
  | refused {layer : Layer} {p : TSASendParam} (nwDestAddr : DestinationAddress) (rptTimer : Nat)
      {ctrl : TransCtrl} {q : Queue TSASendParam} :
      (gp.xmitRec priority).status = .unused →
      ctrl.inProgress = (gp.transCtrl priority).inProgress →
      Queue.Grows priority (gp.tsaOutQ priority) q →
      SendStep gp priority (.startTrans layer priority p nwDestAddr rptTimer)
        (gp.xmitRec priority) ctrl q
  | started {layer : Layer} {p : TSASendParam} {nwDestAddr : DestinationAddress} (rptTimer : Nat)
      {x : TransmitRecord} {ctrl : TransCtrl} {q : Queue TSASendParam} :
      (gp.xmitRec priority).status = .unused → (gp.tsaOutQ priority).peek = some p →
      layer.Sends p.service →
      ctrl.inProgress = true →
      x.transaction =
        { status := layer.txStatus
          nwDestAddr := nwDestAddr
          ackReceived := fun _ => false
          destCount :=
            TransmitRecord.destCountFor nwDestAddr.addr (p.forDest nwDestAddr).destAddr.groupSize
          ackCount := 0
          apdu := (gp.tsaOutQ priority).headIndex
          apduSize := p.apduSize } →
      Queue.Grows priority (gp.tsaOutQ priority) q →
      SendStep gp priority (.startTrans layer priority p nwDestAddr rptTimer) x ctrl q
  | ackCounted {x : TransmitRecord} :
      (gp.xmitRec priority).status = .transport →
      (gp.xmitRec priority).nwDestAddr.addressMode ≠ .multicast →
      x.transaction =
        { (gp.xmitRec priority).transaction with
          ackCount := ((gp.xmitRec priority).ackCount + 1) % 256 } →
      SendStep gp priority (.countAck priority) x (gp.transCtrl priority) (gp.tsaOutQ priority)
  | memberCounted (member : Nat) {x : TransmitRecord} :
      (gp.xmitRec priority).status = .transport →
      (gp.xmitRec priority).nwDestAddr.addressMode = .multicast →
      x.transaction =
        (if (gp.xmitRec priority).ackReceived member then (gp.xmitRec priority).transaction
          else
            { (gp.xmitRec priority).transaction with
              ackReceived := Function.update (gp.xmitRec priority).ackReceived member true
              ackCount := ((gp.xmitRec priority).ackCount + 1) % 256 }) →
      SendStep gp priority (.countMember priority member) x (gp.transCtrl priority)
        (gp.tsaOutQ priority)
  | responseTaken {p : TSAReceiveParam} (sent : TSASendParam) {x : TransmitRecord}
      {q : Queue TSASendParam} :
      p.priority = priority → (gp.xmitRec priority).status = .session →
      x.transaction =
        { (gp.xmitRec priority).transaction with
          ackReceived := x.ackReceived
          ackCount := x.ackCount } →
      Queue.Grows priority (gp.tsaOutQ priority) q →
      SendStep gp priority (.takeResponse p sent) x (gp.transCtrl priority) q

namespace ProtocolStackData

def QueuesMarked (gp : ProtocolStackData) : Prop :=
  ∀ priority, ∀ m ∈ (gp.tsaOutQ priority).messages, m.priority = priority

variable {gp : ProtocolStackData} {b b' : Bool}

theorem QueuesMarked.peek (hm : gp.QueuesMarked) {p : TSASendParam}
    (hp : (gp.tsaOutQ b).peek = some p) : p.priority = b := by
  rw [Queue.peek_eq_head?] at hp
  exact hm b p.message (List.mem_map_of_mem (List.mem_of_mem_head? hp))

theorem xmitRec_sendCompletion (success : Bool) :
    (gp.sendCompletion b success).xmitRec = gp.xmitRec := by
  simp only [sendCompletion]
  split
  · rfl
  · split <;> rfl

theorem transCtrl_sendCompletion (success : Bool) :
    (gp.sendCompletion b success).transCtrl = gp.transCtrl := by
  simp only [sendCompletion]
  split
  · rfl
  · split <;> rfl

theorem tsaOutQ_sendCompletion_of_ne (hm : gp.QueuesMarked) (hb : b' ≠ b) (success : Bool) :
    (gp.sendCompletion b success).tsaOutQ b' = gp.tsaOutQ b' := by
  simp only [sendCompletion]
  split
  case h_1 => rfl
  case h_2 p hp =>
    split
    case isTrue => rfl
    case isFalse =>
      simp only [hm.peek hp, modifyTsaOut]
      rw [Function.update_of_ne hb, Function.update_of_ne hb]

theorem messages_sendCompletion (hm : gp.QueuesMarked) (success : Bool) :
    ((gp.sendCompletion b success).tsaOutQ b).messages =
      if gp.appCeRspInQ.full then (gp.tsaOutQ b).messages
      else (gp.tsaOutQ b).messages.tail := by
  simp only [sendCompletion]
  split
  case h_1 hnone =>
    rw [Queue.peek_eq_head?, List.head?_eq_none_iff] at hnone
    simp [Queue.messages, hnone]
  case h_2 p hp =>
    split
    case isTrue => rfl
    case isFalse =>
      have hx : ({ p with proxy := false } : TSASendParam).message = p.message := rfl
      simp only [hm.peek hp, modifyTsaOut, Function.update_self]
      rw [Queue.messages_dropHead, Queue.messages_fillHead hp (hm.peek hp ▸ hx)]

theorem transaction_modifyXmit {f : TransmitRecord → TransmitRecord}
    (hf : ∀ x, (f x).transaction = x.transaction) :
    ((gp.modifyXmit b' f).xmitRec b).transaction = (gp.xmitRec b).transaction := by
  by_cases hb : b = b'
  · subst hb
    rw [xmitRec_modifyXmit, hf]
  · rw [gp.xmitRec_modifyXmit_of_ne hb]

theorem transaction_retransmit (layer : Layer) :
    ((gp.retransmit layer b').xmitRec b).transaction = (gp.xmitRec b).transaction := by
  simp only [retransmit]
  repeat' split
  all_goals first
    | rfl
    | exact transaction_modifyXmit fun _ => rfl

theorem transCtrl_retransmit (layer : Layer) :
    (gp.retransmit layer b').transCtrl = gp.transCtrl := by
  simp only [retransmit]
  repeat' split
  all_goals rfl

theorem tsaOutQ_retransmit (layer : Layer) :
    (gp.retransmit layer b').tsaOutQ = gp.tsaOutQ := by
  simp only [retransmit]
  repeat' split
  all_goals rfl

theorem transaction_restartTimer :
    ((gp.restartTimer b').xmitRec b).transaction = (gp.xmitRec b).transaction := by
  simp only [restartTimer]
  split
  · rfl
  · exact transaction_modifyXmit fun _ => rfl

end ProtocolStackData

variable {h : CallHistory} {gp : ProtocolStackData} {c : Call} {b : Bool}

theorem ProtocolStackData.SameSending.sendStep (hs : gp.SameSending (c.apply gp))
    (hc : c.transacts b = false) :
    SendStep gp b c ((c.apply gp).xmitRec b) ((c.apply gp).transCtrl b)
      ((c.apply gp).tsaOutQ b) := by
  rw [hs.xmitRec, hs.transCtrl, hs.tsaOutQ]
  exact .kept hc rfl .refl

theorem sendStep_startTrans {layer : Layer} {p : TSASendParam} (nwDestAddr : DestinationAddress)
    (rptTimer : Nat) (hstatus : (gp.xmitRec b).status = .unused)
    (hp : (gp.tsaOutQ b).peek = some p) (hservice : layer.Sends p.service) :
    SendStep gp b (.startTrans layer b p nwDestAddr rptTimer)
      ((gp.startTrans layer b p nwDestAddr rptTimer).xmitRec b)
      ((gp.startTrans layer b p nwDestAddr rptTimer).transCtrl b)
      ((gp.startTrans layer b p nwDestAddr rptTimer).tsaOutQ b) := by
  have hgrows : Queue.Grows b (gp.tsaOutQ b)
      ((gp.modifyTsaOut b fun q => q.fillHead (p.forDest nwDestAddr)).tsaOutQ b) := by
    simp only [ProtocolStackData.modifyTsaOut, Function.update_self]
    exact .fillHead hp (by simp)
  simp only [ProtocolStackData.startTrans]
  split
  case isTrue hcode =>
    refine .refused nwDestAddr rptTimer hstatus ?_ hgrows
    simp only [Function.update_self]
    rcases (gp.transCtrl b).newTrans_numbers gp.eep gp.tickCount nwDestAddr with
      ⟨-, heq⟩ | ⟨-, heq⟩ | ⟨-, heq, -⟩
    · simp [ProtocolStackData.modifyTsaOut, heq]
    · simp [ProtocolStackData.modifyTsaOut, heq]
    · exact absurd heq hcode
  case isFalse hcode =>
    rw [ne_eq, Decidable.not_not, TransCtrl.newTrans_granted_iff] at hcode
    refine .started rptTimer hstatus hp hservice ?_ ?_ hgrows
    · simp only [Function.update_self, ProtocolStackData.inheritTrans]
      split
      · exact hcode.2
      · exact hcode.2
    · simp only [Function.update_self]
      simp [ProtocolStackData.newXmitRec, TransmitRecord.transaction,
        ProtocolStackData.modifyTsaOut, Queue.headIndex_fillHead]

theorem sendStep_countAck (hstatus : (gp.xmitRec b).status = .transport)
    (hmode : (gp.xmitRec b).nwDestAddr.addressMode ≠ .multicast) :
    SendStep gp b (.countAck b) ((gp.countAck b).xmitRec b) (gp.transCtrl b) (gp.tsaOutQ b) := by
  refine .ackCounted hstatus hmode ?_
  rw [ProtocolStackData.countAck, ProtocolStackData.xmitRec_modifyXmit]
  rfl

theorem sendStep_countMember (member : Nat) (hstatus : (gp.xmitRec b).status = .transport)
    (hmode : (gp.xmitRec b).nwDestAddr.addressMode = .multicast) :
    SendStep gp b (.countMember b member) ((gp.countMember b member).xmitRec b) (gp.transCtrl b)
      (gp.tsaOutQ b) := by
  refine .memberCounted member hstatus hmode ?_
  rw [ProtocolStackData.countMember, ProtocolStackData.xmitRec_modifyXmit]
  split <;> rfl

theorem sendStep_takeResponse {p : TSAReceiveParam} {sent : TSASendParam}
    (hstatus : (gp.xmitRec p.priority).status = .session)
    (hp : (gp.tsaOutQ p.priority).peek = some sent) :
    SendStep gp p.priority (.takeResponse p sent) ((gp.takeResponse p sent).xmitRec p.priority)
      ((gp.takeResponse p sent).transCtrl p.priority)
      ((gp.takeResponse p sent).tsaOutQ p.priority) := by
  have hgrows : Queue.Grows p.priority (gp.tsaOutQ p.priority)
      ((gp.modifyTsaOut p.priority fun q => q.fillHead { sent with proxyDone := true }).tsaOutQ
        p.priority) := by
    simp only [ProtocolStackData.modifyTsaOut, Function.update_self]
    exact .fillHead hp rfl
  simp only [ProtocolStackData.takeResponse]
  split
  case isTrue =>
    refine .responseTaken sent rfl hstatus ?_ hgrows
    simp only [ProtocolStackData.xmitRec_modifyXmit]
    rfl
  case isFalse => exact .responseTaken sent rfl hstatus rfl hgrows

theorem sendStep_terminate {p : TSASendParam} (hm : gp.QueuesMarked)
    (hstatus : (gp.xmitRec b).status ≠ .unused) (hroom : gp.appCeRspInQ.full = false)
    (hp : (gp.tsaOutQ b).peek = some p) :
    SendStep gp b (.terminate b ((gp.xmitRec b).succeeded p))
      ((gp.terminate b ((gp.xmitRec b).succeeded p)).xmitRec b)
      ((gp.terminate b ((gp.xmitRec b).succeeded p)).transCtrl b)
      ((gp.terminate b ((gp.xmitRec b).succeeded p)).tsaOutQ b) := by
  have hx : ((gp.endTrans b).xmitRec b) = { gp.xmitRec b with status := .unused } :=
    Function.update_self ..
  have hctrl : (gp.endTrans b).transCtrl b = (gp.transCtrl b).transDone := Function.update_self ..
  have hq := @ProtocolStackData.messages_sendCompletion (gp.endTrans b) b hm
    ((gp.xmitRec b).succeeded p)
  have hroom' : ¬(gp.endTrans b).appCeRspInQ.full = true := by
    rw [Bool.not_eq_true]
    exact hroom
  rw [ProtocolStackData.terminate, ProtocolStackData.xmitRec_sendCompletion,
    ProtocolStackData.transCtrl_sendCompletion, hx, hctrl]
  rw [if_neg hroom'] at hq
  exact .terminated hstatus hroom hp hq

theorem SendStep.same (hc : c.transacts b = false) (hx : (c.apply gp).xmitRec b = gp.xmitRec b)
    (hctrl : (c.apply gp).transCtrl b = gp.transCtrl b)
    (hq : (c.apply gp).tsaOutQ b = gp.tsaOutQ b) :
    SendStep gp b c ((c.apply gp).xmitRec b) ((c.apply gp).transCtrl b)
      ((c.apply gp).tsaOutQ b) := by
  rw [hx, hctrl, hq]
  exact .kept hc rfl .refl

theorem sendStep_env (e : EnvCall) :
    SendStep gp b (.env e) ((e.apply gp).xmitRec b) ((e.apply gp).transCtrl b)
      ((e.apply gp).tsaOutQ b) := by
  cases e with
  | appSend b' p =>
    by_cases hb : b = b'
    · subst hb
      refine .kept rfl rfl ?_
      simp only [EnvCall.apply, ProtocolStackData.modifyTsaOut, Function.update_self]
      exact .push _ rfl
    · exact .same (c := .env _) rfl rfl rfl (Function.update_of_ne hb ..)
  | _ => exact .same (c := .env _) rfl rfl rfl rfl

theorem sendStep_restartTimer (b' : Bool) :
    SendStep gp b (.restartTimer b') ((gp.restartTimer b').xmitRec b)
      ((gp.restartTimer b').transCtrl b) ((gp.restartTimer b').tsaOutQ b) := by
  have hsame : (gp.restartTimer b').transCtrl = gp.transCtrl ∧
      (gp.restartTimer b').tsaOutQ = gp.tsaOutQ := by
    simp only [ProtocolStackData.restartTimer]
    split
    · exact ⟨rfl, rfl⟩
    · exact ⟨rfl, rfl⟩
  rw [hsame.1, hsame.2]
  exact .kept rfl ProtocolStackData.transaction_restartTimer .refl

theorem ProtocolStackData.transaction_answerChallenge (useOma : Bool) (p : TSAReceiveParam) :
    ((gp.answerChallenge useOma p).xmitRec b).transaction = (gp.xmitRec b).transaction := by
  simp only [answerChallenge]
  split
  · rfl
  · split
    · rfl
    · split
      · rfl
      · obtain ⟨altKey, version, heq⟩ := gp.replyingRec_eq useOma p
        by_cases hb : b = p.priority
        · subst hb
          simp only [Function.update_self, heq]
          rfl
        · simp only [Function.update_of_ne hb]

theorem sendStep_sendReplyToChallenge {useOma : Bool} {p : TSAReceiveParam}
    (hstatus : gp.overwritesStatus useOma p = false) :
    SendStep gp b (.sendReplyToChallenge useOma p)
      ((gp.sendReplyToChallenge useOma p).xmitRec b)
      ((gp.sendReplyToChallenge useOma p).transCtrl b)
      ((gp.sendReplyToChallenge useOma p).tsaOutQ b) := by
  rw [gp.transCtrl_sendReplyToChallenge, gp.tsaOutQ_sendReplyToChallenge,
    gp.xmitRec_sendReplyToChallenge hstatus]
  exact .kept rfl (gp.transaction_answerChallenge useOma p) .refl

theorem sendStep (hg : c.Guard h gp) (hover : c.overwritesStatus gp = false)
    (hm : gp.QueuesMarked) (b : Bool) :
    SendStep gp b c ((c.apply gp).xmitRec b) ((c.apply gp).transCtrl b)
      ((c.apply gp).tsaOutQ b) := by
  have hother {b' : Bool} (hb : b ≠ b') : (b' == b) = false := beq_false_of_ne (Ne.symm hb)
  cases c with
  | sendCompletion b' success =>
    by_cases hb : b = b'
    · subst hb
      rw [Call.apply, ProtocolStackData.xmitRec_sendCompletion,
        ProtocolStackData.transCtrl_sendCompletion]
      exact .completed success hg (ProtocolStackData.messages_sendCompletion hm success)
    · exact .same (hother hb) (by rw [Call.apply, ProtocolStackData.xmitRec_sendCompletion])
        (by rw [Call.apply, ProtocolStackData.transCtrl_sendCompletion])
        (ProtocolStackData.tsaOutQ_sendCompletion_of_ne hm hb success)
  | terminate b' success =>
    obtain ⟨hstatus, hroom, p, hp, rfl⟩ := hg
    by_cases hb : b = b'
    · subst hb
      exact sendStep_terminate hm hstatus hroom hp
    · refine .same (hother hb) ?_ ?_
        (@ProtocolStackData.tsaOutQ_sendCompletion_of_ne (gp.endTrans b') b' b hm hb _)
      · rw [Call.apply, ProtocolStackData.terminate, ProtocolStackData.xmitRec_sendCompletion]
        exact Function.update_of_ne hb ..
      · rw [Call.apply, ProtocolStackData.terminate, ProtocolStackData.transCtrl_sendCompletion]
        exact Function.update_of_ne hb ..
  | startTrans layer b' p nwDestAddr rptTimer =>
    by_cases hb : b = b'
    · subst hb
      exact sendStep_startTrans _ _ hg.1 hg.2.1 hg.2.2.1
    · have hq : (gp.modifyTsaOut b' fun q => q.fillHead (p.forDest nwDestAddr)).tsaOutQ b =
          gp.tsaOutQ b := Function.update_of_ne hb ..
      refine .same (hother hb) ?_ ?_ ?_
      all_goals
        simp only [Call.apply, ProtocolStackData.startTrans]
        split
      · rfl
      · exact Function.update_of_ne hb ..
      · exact Function.update_of_ne hb ..
      · exact Function.update_of_ne hb ..
      · exact hq
      · exact hq
  | countAck b' =>
    by_cases hb : b = b'
    · subst hb
      exact sendStep_countAck hg.1 hg.2
    · exact .same (hother hb) (gp.xmitRec_modifyXmit_of_ne hb _) rfl rfl
  | countMember b' member =>
    by_cases hb : b = b'
    · subst hb
      exact sendStep_countMember member hg.1 hg.2.1
    · exact .same (hother hb) (gp.xmitRec_modifyXmit_of_ne hb _) rfl rfl
  | takeResponse p sent =>
    by_cases hb : b = p.priority
    · subst hb
      exact sendStep_takeResponse hg.1 hg.2
    · have hq : (gp.modifyTsaOut p.priority fun q =>
          q.fillHead { sent with proxyDone := true }).tsaOutQ b = gp.tsaOutQ b :=
        Function.update_of_ne hb ..
      refine .same (hother hb) ?_ ?_ ?_
      all_goals
        simp only [Call.apply, ProtocolStackData.takeResponse]
        split
      · exact Function.update_of_ne hb ..
      · rfl
      · rfl
      · rfl
      · exact hq
      · exact hq
  | retransmit layer b' =>
    rw [Call.apply, ProtocolStackData.transCtrl_retransmit, ProtocolStackData.tsaOutQ_retransmit]
    exact .kept rfl (ProtocolStackData.transaction_retransmit layer) .refl
  | restartTimer b' => exact sendStep_restartTimer b'
  | sendReplyToChallenge useOma p => exact sendStep_sendReplyToChallenge hover
  | env e => exact sendStep_env e
  | releaseExpired layer =>
    exact (gp.sameSending_releaseExpired layer).sendStep rfl
  | initiateChallenge i => exact (gp.sameSending_initiateChallenge i).sendStep rfl
  | deliver i => exact (gp.sameSending_deliver i).sendStep rfl
  | tpSendAck i => exact (gp.sameSending_tpSendAck i).sendStep rfl
  | snSendResponse nullResponse flexResponse i =>
    exact (gp.sameSending_snSendResponse nullResponse flexResponse i).sendStep rfl
  | receiveNewMsg | receiveRem | processReply | tpReceiveAck | dropTsaIn | dropTsaResp | freeRR
    | initRR | retryRR | setNeedAuth | noteAnswered | authenticate | storeResponse =>
    exact ProtocolStackData.SameSending.sendStep ⟨rfl, rfl, rfl, rfl⟩ rfl

theorem exists_sendStep (hg : c.Guard h gp) (hm : gp.QueuesMarked) (b : Bool) :
    ∃ x, SendStep gp b c x ((c.apply gp).transCtrl b) ((c.apply gp).tsaOutQ b) ∧
      ∃ status, (c.apply gp).xmitRec b = { x with status := status } := by
  cases hover : c.overwritesStatus gp with
  | false => exact ⟨_, sendStep hg hover hm b, _, rfl⟩
  | true =>
    cases c with
    | sendReplyToChallenge useOma p =>
      rw [Call.apply, gp.transCtrl_sendReplyToChallenge, gp.tsaOutQ_sendReplyToChallenge]
      exact ⟨_, .kept rfl (gp.transaction_answerChallenge useOma p) .refl,
        gp.exists_xmitRec_sendReplyToChallenge useOma p b⟩
    | _ => exact absurd hover Bool.false_ne_true

end LonStack
