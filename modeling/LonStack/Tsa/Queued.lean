import LonStack.Tsa.Retransmit
import LonStack.Tsa.Response

namespace LonStack

open Lib

inductive Queued (gp : ProtocolStackData) (b : Bool) (nw : NWSendParam) : Call → Prop
  | message {c : Call} :
      c.transmits b = true → nw.pdu.pduMsgType ≠ Pdu.ACK_MSG → Queued gp b nw c
  | ack (i : Fin RECEIVE_TRANS_COUNT) (destAddr : DestinationAddress) (slot : NWSendParam) :
      (gp.recvRec i).priority = b →
      (gp.recvRec i).answerAddr gp.eep (gp.recvRec i).srcAddr.dmn = some destAddr →
      nw = (gp.recvRec i).ack destAddr slot → Queued gp b nw (.tpSendAck i)
  | response (i : Fin RECEIVE_TRANS_COUNT) (nullResponse flexResponse : Bool)
      (destAddr : DestinationAddress) (slot : NWSendParam) :
      (gp.recvRec i).priority = b →
      (gp.recvRec i).answerAddr gp.eep
          (if flexResponse then { (gp.recvRec i).srcAddr.dmn with domainIndex := FLEX_DOMAIN }
            else (gp.recvRec i).srcAddr.dmn) = some destAddr →
      nw = (gp.recvRec i).responsePdu destAddr slot →
      Queued gp b nw (.snSendResponse nullResponse flexResponse i)
  | authpdu {c : Call} : nw.pduType = .authpdu → Queued gp b nw c
  | apdu : Queued gp b nw (.env (.appSendApdu b nw))

variable {gp : ProtocolStackData} {b b' : Bool} {nw : NWSendParam} {i : Fin RECEIVE_TRANS_COUNT}

theorem mem_added_update {q : Bool → Queue NWSendParam} {fill : NWSendParam → NWSendParam}
    (h : nw ∈ (q b).added (Function.update q b' ((q b').push fill) b)) :
    b' = b ∧ ∃ slot, nw = fill slot := by
  by_cases hb : b = b'
  · subst hb
    rw [Function.update_self] at h
    exact ⟨rfl, _, Queue.eq_of_mem_added_push h⟩
  · simp [Function.update_of_ne hb, Queue.added_self] at h

theorem not_mem_added {gp' : ProtocolStackData} (hq : gp'.nwOutQ = gp.nwOutQ) :
    nw ∉ (gp.nwOutQ b).added (gp'.nwOutQ b) := by
  simp [hq, Queue.added_self]

namespace TransmitRecord

variable (x : TransmitRecord) (p : TSASendParam) (layer : Layer) (deltaBL : Nat)
  {pduMsgType : UInt8} (bytes : List UInt8) (slot : NWSendParam)

theorem pduMsgType_retry (htype : pduMsgType < 8) :
    (x.retry p layer deltaBL pduMsgType bytes slot).pdu.pduMsgType = pduMsgType :=
  (Pdu.tspduHdr_fields htype _ _ _).1

theorem pduMsgType_retryAfterReminder (htype : pduMsgType < 8) :
    (x.retryAfterReminder p layer deltaBL pduMsgType bytes slot).pdu.pduMsgType = pduMsgType :=
  (Pdu.tspduHdr_fields htype _ _ _).1

theorem pduMsgType_firstPdu :
    (x.firstPdu p layer bytes slot).pdu.pduMsgType =
      if p.service = .repeated then Pdu.UNACK_RPT_MSG else 0 := by
  refine (Pdu.tspduHdr_fields ?_ _ _ _).1.trans ?_
  · split
    · decide
    · cases layer <;> decide
  · split
    · rfl
    · cases layer <;> rfl

end TransmitRecord

namespace ProtocolStackData

theorem nwOutQ_deliver (i : Fin RECEIVE_TRANS_COUNT) : (gp.deliver i).nwOutQ = gp.nwOutQ := by
  simp only [deliver]
  repeat' split
  all_goals rfl

theorem nwOutQ_sendCompletion (success : Bool) :
    (gp.sendCompletion b success).nwOutQ = gp.nwOutQ := by
  simp only [sendCompletion]
  repeat' split
  all_goals rfl

theorem nwOutQ_takeResponse (p : TSAReceiveParam) (sent : TSASendParam) :
    (gp.takeResponse p sent).nwOutQ = gp.nwOutQ := by
  simp only [takeResponse]
  split <;> rfl

theorem nwOutQ_restartTimer (b : Bool) : (gp.restartTimer b).nwOutQ = gp.nwOutQ := by
  simp only [restartTimer]
  split <;> rfl

theorem nwOutQ_retransmit_of_ne (hb : b ≠ b') (layer : Layer) :
    (gp.retransmit layer b').nwOutQ b = gp.nwOutQ b := by
  simp only [retransmit]
  repeat' split
  all_goals simp [modifyXmit, pushNw, hb]

theorem pduMsgType_retransmit {layer : Layer}
    (h : nw ∈ (gp.nwOutQ b).added ((gp.retransmit layer b).nwOutQ b)) :
    nw.pdu.pduMsgType ≠ Pdu.ACK_MSG := by
  simp only [retransmit] at h
  split at h
  case h_1 => exact absurd h (not_mem_added rfl)
  case h_2 p _ =>
    split at h
    case isTrue => exact absurd h (not_mem_added rfl)
    case isFalse =>
      split at h
      case isTrue =>
        obtain ⟨-, slot, rfl⟩ := mem_added_update h
        rw [TransmitRecord.pduMsgType_retry _ _ _ _ _ _ (by decide)]
        decide
      case isFalse =>
        split at h
        case isTrue =>
          split at h
          case isTrue =>
            obtain ⟨-, slot, rfl⟩ := mem_added_update h
            rw [TransmitRecord.pduMsgType_retry _ _ _ _ _ _ (by cases layer <;> decide)]
            cases layer <;> decide
          case isFalse => exact absurd h (not_mem_added rfl)
        case isFalse =>
          split at h
          case h_1 => exact absurd h (not_mem_added rfl)
          case h_2 =>
            split at h
            case isTrue =>
              obtain ⟨-, slot, rfl⟩ := mem_added_update h
              rw [TransmitRecord.pduMsgType_retry _ _ _ _ _ _ (by decide)]
              decide
            case isFalse =>
              split at h
              case isTrue => exact absurd h (not_mem_added rfl)
              case isFalse =>
                simp only [modifyXmit, pushNw, Function.update_self] at h
                have hsecond {slot : NWSendParam} {deltaBL : Nat} :
                    ((gp.xmitRec b).retryAfterReminder p layer deltaBL
                      (if p.service = .acknowledged then Pdu.ACKD_MSG else Pdu.REQUEST_MSG)
                      (bytesAt ((gp.tsaOutQ b).data (gp.xmitRec b).apdu).apdu 0
                        (gp.xmitRec b).apduSize) slot).pdu.pduMsgType ≠ Pdu.ACK_MSG := by
                  rw [TransmitRecord.pduMsgType_retryAfterReminder _ _ _ _ _ _
                    (by split <;> decide)]
                  split <;> decide
                split at h
                case isTrue =>
                  simp only [Function.update_self] at h
                  have hfirst {slot : NWSendParam} {bytes : List UInt8} :
                      ((gp.xmitRec b).retry p layer 0 Pdu.REMINDER_MSG bytes slot).pdu.pduMsgType ≠
                        Pdu.ACK_MSG := by
                    rw [TransmitRecord.pduMsgType_retry _ _ _ _ _ _ (by decide)]
                    decide
                  rcases Queue.eq_of_mem_added_push_push h with rfl | rfl
                  · exact hfirst
                  · exact hsecond
                case isFalse =>
                  rw [Queue.eq_of_mem_added_push h]
                  exact hsecond

end ProtocolStackData

theorem queued_tpSendAck (h : nw ∈ (gp.nwOutQ b).added ((gp.tpSendAck i).nwOutQ b)) :
    Queued gp b nw (.tpSendAck i) := by
  simp only [ProtocolStackData.tpSendAck] at h
  split at h
  case isTrue => exact absurd h (not_mem_added rfl)
  case isFalse =>
    split at h
    case h_1 => exact absurd h (not_mem_added rfl)
    case h_2 destAddr hanswer =>
      obtain ⟨hb, slot, hnw⟩ := mem_added_update h
      exact .ack i destAddr slot hb hanswer hnw

theorem queued_snSendResponse {nullResponse flexResponse : Bool}
    (h : nw ∈ (gp.nwOutQ b).added ((gp.snSendResponse i nullResponse flexResponse).nwOutQ b)) :
    Queued gp b nw (.snSendResponse nullResponse flexResponse i) := by
  simp only [ProtocolStackData.snSendResponse] at h
  split at h
  case isTrue => exact absurd h (not_mem_added rfl)
  case isFalse =>
    split at h
    case isTrue => exact absurd h (not_mem_added rfl)
    case isFalse =>
      split at h
      case isTrue => exact absurd h (not_mem_added rfl)
      case isFalse =>
        split at h
        case isTrue => exact absurd h (not_mem_added rfl)
        case isFalse =>
          split at h
          case h_1 => exact absurd h (not_mem_added rfl)
          case h_2 =>
            split at h
            case isFalse => exact absurd h (not_mem_added rfl)
            case isTrue =>
              split at h
              case h_1 => exact absurd h (not_mem_added rfl)
              case h_2 destAddr hanswer =>
                obtain ⟨hb, slot, hnw⟩ := mem_added_update h
                exact .response i nullResponse flexResponse destAddr slot hb hanswer hnw

theorem queued_initiateChallenge {c : Call}
    (h : nw ∈ (gp.nwOutQ b).added ((gp.initiateChallenge i).nwOutQ b)) : Queued gp b nw c := by
  have hdraw : (gp.drawChallenge i).nwOutQ = gp.nwOutQ := by
    unfold ProtocolStackData.drawChallenge
    split <;> rfl
  simp only [ProtocolStackData.initiateChallenge] at h
  split at h
  case isTrue => exact absurd h (not_mem_added rfl)
  case isFalse =>
    split at h
    case h_1 => exact absurd h (not_mem_added hdraw)
    case h_2 destAddr _ =>
      rw [← hdraw] at h
      obtain ⟨-, slot, rfl⟩ := mem_added_update h
      exact .authpdu rfl

theorem queued_sendReplyToChallenge {useOma : Bool} {p : TSAReceiveParam} {c : Call}
    (h : nw ∈ (gp.nwOutQ b).added ((gp.sendReplyToChallenge useOma p).nwOutQ b)) :
    Queued gp b nw c := by
  rw [congrArg NetData.nwOutQ (gp.toNetData_sendReplyToChallenge useOma p)] at h
  simp only [ProtocolStackData.answerChallenge] at h
  repeat' split at h
  all_goals first
    | exact absurd h (not_mem_added rfl)
    | obtain ⟨-, slot, rfl⟩ := mem_added_update h
      exact .authpdu rfl

theorem queued_startTrans {layer : Layer} {p : TSASendParam} {a : DestinationAddress} {rpt : Nat}
    (h : nw ∈ (gp.nwOutQ b).added ((gp.startTrans layer b' p a rpt).nwOutQ b)) :
    Queued gp b nw (.startTrans layer b' p a rpt) := by
  simp only [ProtocolStackData.startTrans] at h
  split at h
  case isTrue => exact absurd h (not_mem_added rfl)
  case isFalse =>
    obtain ⟨rfl, slot, rfl⟩ := mem_added_update h
    refine .message (by simp [Call.transmits]) ?_
    rw [TransmitRecord.pduMsgType_firstPdu]
    split <;> decide

theorem queued_retransmit {layer : Layer}
    (h : nw ∈ (gp.nwOutQ b).added ((gp.retransmit layer b').nwOutQ b)) :
    Queued gp b nw (.retransmit layer b') := by
  by_cases hb : b = b'
  · subst hb
    exact .message (by simp [Call.transmits]) (ProtocolStackData.pduMsgType_retransmit h)
  · rw [ProtocolStackData.nwOutQ_retransmit_of_ne hb] at h
    exact absurd h (not_mem_added rfl)

theorem queued {c : Call} (h : nw ∈ (gp.nwOutQ b).added ((c.apply gp).nwOutQ b)) :
    Queued gp b nw c := by
  cases c with
  | startTrans => exact queued_startTrans h
  | retransmit => exact queued_retransmit h
  | tpSendAck => exact queued_tpSendAck h
  | snSendResponse => exact queued_snSendResponse h
  | initiateChallenge => exact queued_initiateChallenge h
  | sendReplyToChallenge => exact queued_sendReplyToChallenge h
  | env e =>
    cases e with
    | appSendApdu b' x =>
      obtain ⟨rfl, slot, rfl⟩ := mem_added_update h
      exact .apdu
    | networkSend b' =>
      have hq : (gp.nwOutQ b).added ((Call.apply (.env (.networkSend b')) gp).nwOutQ b) = [] := by
        by_cases hb : b = b'
        · subst hb
          refine Queue.added_of_tail (f := id) ?_
          simp [Call.apply, EnvCall.apply, Queue.toList_dropHead]
        · simp [Call.apply, EnvCall.apply, Function.update_of_ne hb, Queue.added_self]
      simp [hq] at h
    | _ => exact absurd h (not_mem_added rfl)
  | deliver => exact absurd h (not_mem_added (ProtocolStackData.nwOutQ_deliver _))
  | sendCompletion => exact absurd h (not_mem_added (ProtocolStackData.nwOutQ_sendCompletion _))
  | terminate => exact absurd h (not_mem_added (ProtocolStackData.nwOutQ_sendCompletion _))
  | takeResponse => exact absurd h (not_mem_added (ProtocolStackData.nwOutQ_takeResponse _ _))
  | restartTimer => exact absurd h (not_mem_added (ProtocolStackData.nwOutQ_restartTimer _))
  | _ => exact absurd h (not_mem_added rfl)

end LonStack
