import LonStack.QueueLaws
import LonStack.Tsa.Layer

namespace LonStack

namespace Call

def outer : Call → Bool
  | .dropTsaIn => true
  | .sendReplyToChallenge _ _ => true
  | .env _ => true
  | _ => false

end Call

def ProtocolStackData.frame (gp : ProtocolStackData) : NodeData × Queue TSAReceiveParam :=
  (gp.toNodeData, gp.tsaInQ)

theorem Call.frame_apply {c : Call} (hc : c.outer = false) (gp : ProtocolStackData) :
    (c.apply gp).frame = gp.frame := by
  cases c with
  | env | dropTsaIn | sendReplyToChallenge => cases hc
  | initiateChallenge i =>
    simp only [Call.apply, ProtocolStackData.initiateChallenge, ProtocolStackData.drawChallenge]
    repeat' split
    all_goals rfl
  | deliver i =>
    simp only [Call.apply, ProtocolStackData.deliver]
    repeat' split
    all_goals rfl
  | tpSendAck i =>
    simp only [Call.apply, ProtocolStackData.tpSendAck]
    repeat' split
    all_goals rfl
  | snSendResponse nullResponse flexResponse i =>
    simp only [Call.apply, ProtocolStackData.snSendResponse]
    repeat' split
    all_goals rfl
  | sendCompletion b success =>
    simp only [Call.apply, ProtocolStackData.sendCompletion]
    repeat' split
    all_goals rfl
  | terminate b success =>
    simp only [Call.apply, ProtocolStackData.terminate, ProtocolStackData.sendCompletion]
    repeat' split
    all_goals rfl
  | retransmit layer b =>
    simp only [Call.apply, ProtocolStackData.retransmit]
    repeat' split
    all_goals rfl
  | startTrans layer b p a rpt =>
    simp only [Call.apply, ProtocolStackData.startTrans]
    repeat' split
    all_goals rfl
  | takeResponse p sent =>
    simp only [Call.apply, ProtocolStackData.takeResponse]
    repeat' split
    all_goals rfl
  | restartTimer b =>
    simp only [Call.apply, ProtocolStackData.restartTimer]
    repeat' split
    all_goals rfl
  | receiveNewMsg | receiveRem | processReply | tpReceiveAck | releaseExpired | freeRR | initRR
  | retryRR | setNeedAuth | noteAnswered | authenticate | storeResponse | dropTsaResp | countAck
  | countMember => rfl

namespace ProtocolStackData

variable (gp : ProtocolStackData) (useOma : Bool) (p : TSAReceiveParam)

theorem frame_writeBehind (priority : Bool) (byte : UInt8) :
    (gp.writeBehind priority byte).toNodeData = gp.toNodeData ∧
      (gp.writeBehind priority byte).toNetData = gp.toNetData := by
  unfold writeBehind moveRecvRec
  repeat' split
  all_goals exact ⟨rfl, rfl⟩

theorem toNetData_sendReplyToChallenge :
    (gp.sendReplyToChallenge useOma p).toNetData = (gp.answerChallenge useOma p).toNetData := by
  unfold sendReplyToChallenge
  split
  · exact (frame_writeBehind _ _ _).2
  · rfl

theorem toNodeData_sendReplyToChallenge :
    (gp.sendReplyToChallenge useOma p).toNodeData = gp.toNodeData := by
  have hanswer : (gp.answerChallenge useOma p).toNodeData = gp.toNodeData := by
    unfold answerChallenge
    repeat' split
    all_goals rfl
  unfold sendReplyToChallenge
  split
  · exact (frame_writeBehind _ _ _).1.trans hanswer
  · exact hanswer

end ProtocolStackData

theorem Call.mem_tsaInQ_apply {c : Call} {gp : ProtocolStackData} {p : TSAReceiveParam}
    (hp : p ∈ (c.apply gp).tsaInQ.toList) :
    p ∈ gp.tsaInQ.toList ∨ c = .env (.networkReceive p) := by
  cases hc : c.outer with
  | false =>
    have hframe : (c.apply gp).tsaInQ = gp.tsaInQ := congrArg Prod.snd (c.frame_apply hc gp)
    exact .inl (hframe ▸ hp)
  | true =>
    cases c with
    | dropTsaIn => exact .inl (Queue.mem_of_mem_dropHead hp)
    | sendReplyToChallenge useOma q =>
      left
      have hdrop : (gp.sendReplyToChallenge useOma q).tsaInQ = gp.tsaInQ ∨
          (gp.sendReplyToChallenge useOma q).tsaInQ = gp.tsaInQ.dropHead := by
        rw [congrArg NetData.tsaInQ (gp.toNetData_sendReplyToChallenge useOma q)]
        unfold ProtocolStackData.answerChallenge
        repeat' split
        all_goals first | exact .inl rfl | exact .inr rfl
      rcases hdrop with hdrop | hdrop
      · exact hdrop ▸ hp
      · exact Queue.mem_of_mem_dropHead (hdrop ▸ hp)
    | env e =>
      cases e with
      | networkReceive q =>
        simp only [Call.apply, EnvCall.apply, Queue.toList_push] at hp
        split at hp
        case isTrue =>
          rcases List.mem_append.mp hp with hp | hp
          · exact .inl hp
          · exact .inr (by rw [List.mem_singleton.mp hp])
        case isFalse => exact .inl hp
      | networkSend | networkApdu | networkCompletion | appReceive | appCeRspReceive | appSend
      | appSendApdu | appRespond | configure | tick => exact .inl hp
    | _ => cases hc

end LonStack
