import LonStack.NetworkLaws
import LonStack.Tsa.Layer

namespace LonStack

-- The steps of the network layer are steps that the environment of the transaction services may
-- take.

theorem Queue.push_const {α : Type} (q : Queue α) (fill : α → α) :
    q.push fill = q.push fun _ => fill q.tailSlot := by
  cases h : q.full with
  | true => rw [push, push, q.tail_eq_none_iff.mpr h]
  | false => rw [q.push_eq fill h, q.push_eq _ h]

namespace NetworkStackData

variable {gp : NetworkStackData}

inductive ReceiveStep (gp : NetworkStackData) : ProtocolStackData → Prop
  | dropped : ReceiveStep gp gp.toProtocolStackData
  | apdu (x : APPReceiveParam) :
      x.pduSize ≤ gp.appInBufSize →
        ReceiveStep gp ((EnvCall.networkApdu x).apply gp.toProtocolStackData)
  | tspdu (p : TSAReceiveParam) :
      p.pduSize ≤ gp.tsaInBufSize →
        ReceiveStep gp ((EnvCall.networkReceive p).apply gp.toProtocolStackData)

theorem receiveApdu_step (r : NWReceiveParam) (srcAddr : SourceAddress) (j pduSize : Nat) :
    gp.ReceiveStep (gp.receiveApdu r srcAddr j pduSize).toProtocolStackData := by
  unfold receiveApdu
  split
  case isTrue => exact .dropped
  case isFalse hfits =>
    rw [not_or, Nat.not_lt] at hfits
    rw [Queue.push_const]
    exact .apdu _ hfits.2

theorem receiveTsa_step (r : NWReceiveParam) (srcAddr : SourceAddress) (j pduSize : Nat) :
    gp.ReceiveStep (gp.receiveTsa r srcAddr j pduSize).toProtocolStackData := by
  unfold receiveTsa
  split
  case isTrue => exact .dropped
  case isFalse hfits =>
    rw [not_or, Nat.not_lt] at hfits
    rw [Queue.push_const]
    exact .tspdu _ hfits.2

theorem networkLayerReceive_step (uninit : SourceAddress) :
    gp.ReceiveStep (gp.networkLayerReceive uninit).toProtocolStackData := by
  unfold networkLayerReceive
  split
  case h_1 => exact .dropped
  case h_2 r _ =>
    change gp.ReceiveStep (gp.receiveNpdu uninit r).toProtocolStackData
    simp only [receiveNpdu]
    split
    case isTrue => exact .dropped
    case isFalse =>
      split
      case isTrue => exact .dropped
      case isFalse =>
        split
        case isTrue => exact .dropped
        case isFalse =>
          split
          case isTrue => exact receiveApdu_step _ _ _ _
          case isFalse => exact receiveTsa_step _ _ _ _

inductive SendStep (gp : NetworkStackData) : ProtocolStackData → Prop
  | idle : SendStep gp gp.toProtocolStackData
  | sent (priority : Bool) :
      SendStep gp ((EnvCall.networkSend priority).apply gp.toProtocolStackData)
  | completed (priority : Bool) (x : APPReceiveParam) :
      SendStep gp ((EnvCall.networkCompletion x).apply
        ((EnvCall.networkSend priority).apply gp.toProtocolStackData))

end NetworkStackData

end LonStack
