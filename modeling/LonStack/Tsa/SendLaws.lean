import LonStack.QueueLaws
import LonStack.Tsa.Auth
import LonStack.Tsa.Send

namespace LonStack

theorem Layer.txStatus_ne (layer : Layer) : layer.txStatus ≠ .unused := by
  cases layer <;> simp [Layer.txStatus]

namespace ProtocolStackData

variable (gp : ProtocolStackData)

theorem status_of_answerIsStale_eq_false {gp : ProtocolStackData} {layer : Layer}
    {p : TSAReceiveParam} (h : gp.answerIsStale layer p = false) :
    (gp.xmitRec p.priority).status = layer.txStatus := by
  simp only [answerIsStale, Bool.or_eq_false_iff, bne_eq_false_iff_eq] at h
  exact h.1.1.2

@[simp]
theorem xmitRec_modifyXmit (priority : Bool) (f : TransmitRecord → TransmitRecord) :
    (gp.modifyXmit priority f).xmitRec priority = f (gp.xmitRec priority) :=
  Function.update_self ..

theorem xmitRec_modifyXmit_of_ne {priority priority' : Bool} (h : priority' ≠ priority)
    (f : TransmitRecord → TransmitRecord) :
    (gp.modifyXmit priority f).xmitRec priority' = gp.xmitRec priority' :=
  Function.update_of_ne h ..

@[simp]
theorem xmitRec_pushNw (priority : Bool) (fill : NWSendParam → NWSendParam) :
    (gp.pushNw priority fill).xmitRec = gp.xmitRec := rfl

@[simp]
theorem status_countAck (priority : Bool) :
    ((gp.countAck priority).xmitRec priority).status = (gp.xmitRec priority).status := by
  simp [countAck]

@[simp]
theorem status_countMember (priority : Bool) (member : Nat) :
    ((gp.countMember priority member).xmitRec priority).status = (gp.xmitRec priority).status := by
  rw [countMember, xmitRec_modifyXmit]
  split <;> rfl

@[simp]
theorem status_takeResponse (p : TSAReceiveParam) (sent : TSASendParam) :
    ((gp.takeResponse p sent).xmitRec p.priority).status = (gp.xmitRec p.priority).status := by
  unfold takeResponse
  split <;> simp [modifyTsaOut]

theorem replyingRec_eq (useOma : Bool) (p : TSAReceiveParam) :
    ∃ altKey version,
      gp.replyingRec useOma p =
        { gp.xmitRec p.priority with altKey := altKey, version := version } := by
  have hload (x : TransmitRecord) (domIdx : Nat) :
      ∃ altKey version,
        x.loadKeys gp.eep domIdx = { x with altKey := altKey, version := version } := by
    unfold TransmitRecord.loadKeys
    split
    · exact ⟨_, _, rfl⟩
    · split
      · exact ⟨_, _, rfl⟩
      · exact ⟨_, _, rfl⟩
  simp only [replyingRec]
  split
  · exact ⟨_, _, rfl⟩
  · exact hload _ _

theorem exists_xmitRec_sendReplyToChallenge (useOma : Bool) (p : TSAReceiveParam) (b : Bool) :
    ∃ status, (gp.sendReplyToChallenge useOma p).xmitRec b =
      { (gp.answerChallenge useOma p).xmitRec b with status := status } := by
  unfold sendReplyToChallenge writeBehind moveRecvRec
  repeat' split
  case isTrue.isFalse =>
    cases b with
    | true => exact ⟨_, rfl⟩
    | false => exact ⟨_, rfl⟩
  all_goals exact ⟨_, rfl⟩

theorem xmitRec_sendReplyToChallenge {useOma : Bool} {p : TSAReceiveParam}
    (hstatus : gp.overwritesStatus useOma p = false) :
    (gp.sendReplyToChallenge useOma p).xmitRec = (gp.answerChallenge useOma p).xmitRec := by
  rw [sendReplyToChallenge]
  split
  case isFalse => rfl
  case isTrue hover =>
    rw [writeBehind]
    split
    case isTrue =>
      rw [moveRecvRec]
      split <;> rfl
    case isFalse hpriority =>
      simp only [overwritesStatus, hpriority, hover, Bool.not_false, Bool.and_self, Bool.true_and,
        bne_eq_false_iff_eq] at hstatus
      have hother : (gp.answerChallenge useOma p).xmitRec true = gp.xmitRec true := by
        have hne : true ≠ p.priority := fun heq => hpriority heq.symm
        unfold answerChallenge
        repeat' split
        all_goals first
          | rfl
          | exact Function.update_of_ne hne ..
      rw [hstatus, ← hother]
      exact Function.update_eq_self ..

theorem transCtrl_sendReplyToChallenge (useOma : Bool) (p : TSAReceiveParam) :
    (gp.sendReplyToChallenge useOma p).transCtrl = gp.transCtrl := by
  unfold sendReplyToChallenge writeBehind moveRecvRec answerChallenge
  repeat' split
  all_goals rfl

theorem tsaOutQ_sendReplyToChallenge (useOma : Bool) (p : TSAReceiveParam) :
    (gp.sendReplyToChallenge useOma p).tsaOutQ = gp.tsaOutQ := by
  unfold sendReplyToChallenge writeBehind moveRecvRec answerChallenge
  repeat' split
  all_goals rfl

theorem transCtrl_takeResponse (p : TSAReceiveParam) (sent : TSASendParam) :
    (gp.takeResponse p sent).transCtrl = gp.transCtrl := by
  simp only [takeResponse]
  split <;> rfl

theorem recvRec_sendCompletion (priority success : Bool) :
    (gp.sendCompletion priority success).recvRec = gp.recvRec := by
  simp only [sendCompletion]
  split
  · rfl
  · split <;> rfl

theorem recvRec_terminate (priority success : Bool) :
    (gp.terminate priority success).recvRec = gp.recvRec :=
  recvRec_sendCompletion ..

theorem recvRec_retransmit (layer : Layer) (priority : Bool) :
    (gp.retransmit layer priority).recvRec = gp.recvRec := by
  simp only [retransmit]
  repeat' split
  all_goals rfl

theorem recvRec_startTrans (layer : Layer) (priority : Bool) (p : TSASendParam)
    (nwDestAddr : DestinationAddress) (rptTimer : Nat) :
    (gp.startTrans layer priority p nwDestAddr rptTimer).recvRec = gp.recvRec := by
  simp only [startTrans]
  split <;> rfl

theorem recvRec_takeResponse (p : TSAReceiveParam) (sent : TSASendParam) :
    (gp.takeResponse p sent).recvRec = gp.recvRec := by
  simp only [takeResponse]
  split <;> rfl

theorem recvRec_restartTimer (priority : Bool) :
    (gp.restartTimer priority).recvRec = gp.recvRec := by
  simp only [restartTimer]
  split <;> rfl

end ProtocolStackData

end LonStack
