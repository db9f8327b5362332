import LonStack.Tsa.Layer
import LonStack.Tsa.RecordLaws
import LonStack.Tsa.SendLaws

namespace LonStack

open Lib

abbrev CallHistory := List (ProtocolStackData × Call)

namespace ProtocolStackData

def leaves (gp : ProtocolStackData) (layer : Layer) (p : TSAReceiveParam)
    (i : Fin RECEIVE_TRANS_COUNT) : Bool :=
  if p.isRemOf layer (gp.recvRec i) then (gp.recvRec i).serviceType == .repeated
  else (gp.recvRec i).transState != .delivered && (gp.recvRec i).transState != .done

inductive OpensForRem (gp : ProtocolStackData) (layer : Layer) (p : TSAReceiveParam) :
    ProtocolStackData → Prop
  | fresh : gp.retrieveRR p.srcAddr p.priority = none → OpensForRem gp layer p gp
  | freed {j : Fin RECEIVE_TRANS_COUNT} :
      gp.retrieveRR p.srcAddr p.priority = some j → OpensForRem gp layer p (gp.freeRR j)
  | left {j : Fin RECEIVE_TRANS_COUNT} :
      gp.retrieveRR p.srcAddr p.priority = some j → gp.leaves layer p j = true →
        OpensForRem gp layer p gp

structure Takes (gp : ProtocolStackData) (p : TSAReceiveParam) : Prop where
  head : gp.tsaInQ.peek = some p
  pduSize : 1 ≤ p.pduSize

inductive Opens (gp : ProtocolStackData) (h : CallHistory) (layer : Layer) (p : TSAReceiveParam)
    (i : Fin RECEIVE_TRANS_COUNT) : ServiceType → List UInt8 → Prop
  | newMsg :
      gp.Takes p → p.pdu.pduMsgType ≠ Pdu.REM_MSG_MSG → (gp, .receiveNewMsg layer p) ∈ h →
      (gp.retrieveRR p.srcAddr p.priority = none ∧ gp.allocateRR = some i ∨
        gp.retrieveRR p.srcAddr p.priority = some i ∧
          p.isRetryOf layer (gp.recvRec i) = false) →
      Opens gp h layer p i (p.newMsgService layer) p.newMsgApdu
  | rem {r : ProtocolStackData} :
      gp.Takes p → p.pdu.pduMsgType = Pdu.REM_MSG_MSG → (r, .receiveRem layer p) ∈ h →
      p.isReminder = false → r.OpensForRem layer p gp →
      gp.allocateRR = some i → Opens gp h layer p i layer.remService p.remApdu

def JustAuthenticated (gp : ProtocolStackData) (h : CallHistory) (i : Fin RECEIVE_TRANS_COUNT) :
    Prop :=
  ∃ r useOma p h', h = (r, .authenticate useOma p i) :: h' ∧
    gp.retrieveRR p.replySource p.priority = some i

end ProtocolStackData

def Layer.Sends : Layer → ServiceType → Prop
  | .transport, service => service = .acknowledged ∨ service = .repeated
  | .session, service => service = .request

def Call.Guard (h : CallHistory) (gp : ProtocolStackData) : Call → Prop
  | .initRR layer p serviceType apdu _ i => gp.Opens h layer p i serviceType apdu
  | .freeRR i =>
    ∃ layer p, (gp, .receiveRem layer p) ∈ h ∧ p.isReminder = false ∧
      gp.retrieveRR p.srcAddr p.priority = some i ∧ p.isRemOf layer (gp.recvRec i) = false ∧
      ((gp.recvRec i).transState = .delivered ∨ (gp.recvRec i).transState = .done)
  | .noteAnswered i =>
    (gp.recvRec i).transState = .delivered ∨ (gp.recvRec i).transState = .responded
  | .initiateChallenge i => (gp.recvRec i).InUse ∧ (gp.recvRec i).unchallenged = true
  | .authenticate _ p i =>
    (gp.recvRec i).transState = .authenticating ∧ p.transNum = (gp.recvRec i).transNum ∧
      gp.retrieveRR p.replySource p.priority = some i
  | .deliver i =>
    (gp.recvRec i).handled = false ∧ (gp.recvRec i).unchallenged = false ∧
      ((gp.recvRec i).InUse ∨ gp.JustAuthenticated h i)
  | .tpSendAck i =>
    (gp.recvRec i).InUse ∧
      ((gp.recvRec i).transState = .delivered ∨ (gp.recvRec i).transState = .responded)
  | .storeResponse response i =>
    ((gp.recvRec i).status = .session ∧ (gp.recvRec i).transState = .delivered) ∧
      ∃ p, gp.tsaRespQ.peek = some p ∧ p.apdu = response ∧ gp.findRR p.reqId = some i
  | .snSendResponse _ _ i => (gp.recvRec i).InUse ∧ (gp.recvRec i).transState = .responded
  | .sendCompletion priority _ => (gp.xmitRec priority).status = .unused
  | .terminate priority success =>
    (gp.xmitRec priority).status ≠ .unused ∧ gp.appCeRspInQ.full = false ∧
      ∃ p, (gp.tsaOutQ priority).peek = some p ∧ success = (gp.xmitRec priority).succeeded p
  | .retransmit _ priority => (gp.xmitRec priority).status ≠ .unused
  | .startTrans layer priority p _ _ =>
    (gp.xmitRec priority).status = .unused ∧ (gp.tsaOutQ priority).peek = some p ∧
      layer.Sends p.service ∧ p.rejected (gp.nwOutBufSize priority) = false
  | .countAck priority =>
    (gp.xmitRec priority).status = .transport ∧
      (gp.xmitRec priority).nwDestAddr.addressMode ≠ .multicast
  | .countMember priority member =>
    (gp.xmitRec priority).status = .transport ∧
      (gp.xmitRec priority).nwDestAddr.addressMode = .multicast ∧ member ≤ MAX_GROUP_NUMBER
  | .takeResponse p sent =>
    (gp.xmitRec p.priority).status = .session ∧ (gp.tsaOutQ p.priority).peek = some sent
  | _ => True

namespace Tsa

variable {G : CallHistory → ProtocolStackData → Call → Prop} {h : CallHistory}
  {gp : ProtocolStackData}

@[simp]
theorem wp_gp {Q : ProtocolStackData → CallHistory → ProtocolStackData → Prop} :
    Tsa.gp.wp Call.apply G Q h gp ↔ Q gp h gp := Iff.rfl

@[simp]
theorem wp_call (c : Call) {Q : Unit → CallHistory → ProtocolStackData → Prop} :
    (call c).wp Call.apply G Q h gp ↔ G h gp c ∧ Q () ((gp, c) :: h) (c.apply gp) := Iff.rfl

@[simp]
theorem apply_receiveNewMsg (layer : Layer) (p : TSAReceiveParam) :
    (Call.receiveNewMsg layer p).apply gp = gp := rfl

@[simp]
theorem apply_receiveRem (layer : Layer) (p : TSAReceiveParam) :
    (Call.receiveRem layer p).apply gp = gp := rfl

@[simp]
theorem apply_processReply (useOma : Bool) (p : TSAReceiveParam) :
    (Call.processReply useOma p).apply gp = gp := rfl

abbrev Guarded (m : Tsa Unit) (h : CallHistory) (gp : ProtocolStackData) : Prop :=
  m.wp Call.apply Call.Guard (fun _ _ _ => True) h gp

theorem wp_terminateTrans {priority : Bool} {Q : Unit → CallHistory → ProtocolStackData → Prop}
    (hstatus : (gp.xmitRec priority).status ≠ .unused) (hQ : ∀ h gp, Q () h gp) :
    (terminateTrans priority).wp Call.apply Call.Guard Q h gp := by
  simp only [terminateTrans, Prog.monadBind_eq, Prog.wp_bind, wp_gp]
  split
  case h_1 => exact hQ _ _
  case h_2 p hp =>
    split
    case isTrue => exact hQ _ _
    case isFalse hroom =>
      rw [wp_call]
      exact ⟨⟨hstatus, Bool.eq_false_iff.mpr hroom, p, hp, rfl⟩, hQ _ _⟩

theorem guarded_xmitTimerExpiration {layer : Layer} {priority : Bool}
    (hstatus : (gp.xmitRec priority).status ≠ .unused) :
    Guarded (xmitTimerExpiration layer priority) h gp := by
  simp only [Guarded, xmitTimerExpiration, Prog.monadBind_eq, Prog.wp_bind, wp_gp]
  split
  · exact wp_terminateTrans hstatus fun _ _ => trivial
  · exact ⟨hstatus, trivial⟩

theorem guarded_sendNewMsg {layer : Layer} {priority : Bool}
    (hstatus : (gp.xmitRec priority).status = .unused) :
    Guarded (sendNewMsg layer priority) h gp := by
  simp only [Guarded, sendNewMsg, Prog.monadBind_eq, Prog.wp_bind, wp_gp]
  split
  case h_1 => trivial
  case h_2 p hp =>
    split
    case isTrue => trivial
    case isFalse htransport =>
      split
      case isTrue => exact ⟨hstatus, trivial⟩
      case isFalse =>
        split
        case isTrue => trivial
        case isFalse hsession =>
          split
          case isTrue => exact ⟨hstatus, trivial⟩
          case isFalse hfits =>
            split
            case h_1 =>
              refine ⟨⟨hstatus, hp, ?_, Bool.eq_false_iff.mpr hfits⟩, trivial⟩
              cases layer with
              | transport =>
                simpa [Layer.Sends, Classical.or_iff_not_imp_left] using htransport
              | session => simpa [Layer.Sends] using hsession
            case h_2 => exact ⟨hstatus, trivial⟩

theorem guarded_layerSend {layer : Layer} : Guarded (layerSend layer) h gp := by
  have hlayer := layer.txStatus_ne
  simp only [Guarded, layerSend, Prog.monadBind_eq, Prog.wp_bind, wp_gp]
  split
  case isTrue htimeout =>
    simp only [Bool.and_eq_true, beq_iff_eq] at htimeout
    exact guarded_xmitTimerExpiration (htimeout.1 ▸ hlayer)
  case isFalse =>
    split
    case isTrue hready =>
      simp only [Bool.and_eq_true, beq_iff_eq] at hready
      exact guarded_sendNewMsg hready.1.1
    case isFalse =>
      split
      case isTrue htimeout =>
        simp only [Bool.and_eq_true, beq_iff_eq] at htimeout
        exact guarded_xmitTimerExpiration (htimeout.1 ▸ hlayer)
      case isFalse =>
        split
        case isTrue hready =>
          simp only [Bool.and_eq_true, beq_iff_eq] at hready
          exact guarded_sendNewMsg hready.1.1
        case isFalse => trivial

theorem guarded_transportLayerSend : Guarded transportLayerSend h gp := by
  simp only [Guarded, transportLayerSend, Prog.monadBind_eq, Prog.wp_bind, wp_gp]
  split
  · trivial
  · exact guarded_layerSend

theorem guarded_sendResponse {p : TSASendParam} (hp : gp.tsaRespQ.peek = some p) :
    Guarded (sendResponse p) h gp := by
  simp only [Guarded, sendResponse, Prog.monadBind_eq, Prog.wp_bind, wp_gp]
  split
  case isTrue => exact ⟨trivial, trivial⟩
  case isFalse =>
    split
    case h_1 => exact ⟨trivial, trivial⟩
    case h_2 i hi =>
      have hrr := ProtocolStackData.findRR_eq_some hi
      refine ⟨⟨hrr, p, hp, rfl, hi⟩, ⟨?_, ?_⟩, trivial, trivial⟩
      · simp [Call.apply, ReceiveRecord.InUse, hrr.1]
      · simp [Call.apply]

theorem guarded_sessionLayerSend : Guarded sessionLayerSend h gp := by
  simp only [Guarded, sessionLayerSend, Prog.monadBind_eq, Prog.wp_bind, wp_gp]
  split
  case isTrue => trivial
  case isFalse =>
    split
    case isTrue =>
      split
      case h_1 => trivial
      case h_2 p hp => exact guarded_sendResponse hp
    case isFalse => exact guarded_layerSend

theorem guarded_tpReceiveAck {p : TSAReceiveParam} : Guarded (tpReceiveAck p) h gp := by
  simp only [Guarded, tpReceiveAck, Prog.monadBind_eq, Prog.wp_bind, wp_gp, wp_call]
  refine ⟨trivial, ?_⟩
  split
  case isTrue => exact ⟨trivial, trivial⟩
  case isFalse hok =>
    rw [Bool.or_eq_true, not_or, Bool.not_eq_true] at hok
    have hstatus : (gp.xmitRec p.priority).status = .transport :=
      ProtocolStackData.status_of_answerIsStale_eq_false hok.1
    split
    case h_1 hmode =>
      split
      case isTrue hmember =>
        simp only [Prog.wp_bind, wp_call, wp_gp]
        refine ⟨⟨hstatus, hmode, hmember⟩, ?_⟩
        split
        case isTrue =>
          rw [Prog.wp_bind]
          refine wp_terminateTrans ?_ fun _ _ => ⟨trivial, trivial, trivial⟩
          simp [Call.apply, hstatus]
        case isFalse => exact ⟨trivial, trivial, trivial⟩
      case isFalse => exact ⟨trivial, trivial, trivial⟩
    case h_2 => exact ⟨trivial, trivial, trivial⟩
    case h_3 => exact ⟨trivial, trivial, trivial⟩
    case h_4 hmode _ _ =>
      simp only [Prog.wp_bind, wp_call]
      refine ⟨⟨hstatus, hmode⟩, wp_terminateTrans ?_ fun _ _ => ⟨trivial, trivial, trivial⟩⟩
      simp [Call.apply, hstatus]

theorem guarded_snReceiveResponse {p : TSAReceiveParam} : Guarded (snReceiveResponse p) h gp := by
  simp only [Guarded, snReceiveResponse, Prog.monadBind_eq, Prog.wp_bind, wp_gp]
  split
  case isTrue => exact ⟨trivial, trivial⟩
  case isFalse hok =>
    have hstatus : (gp.xmitRec p.priority).status = .session :=
      ProtocolStackData.status_of_answerIsStale_eq_false (Bool.eq_false_iff.mpr hok)
    split
    case isTrue => trivial
    case isFalse =>
      split
      case h_1 => trivial
      case h_2 sent hsent =>
        simp only [Prog.wp_bind, wp_call, wp_gp]
        refine ⟨⟨hstatus, hsent⟩, ?_⟩
        split
        case isTrue =>
          rw [Prog.wp_bind]
          refine wp_terminateTrans ?_ fun _ _ => ⟨trivial, trivial, trivial⟩
          simp [Call.apply, hstatus]
        case isFalse => exact ⟨trivial, trivial, trivial⟩

def answerNewMsg (layer : Layer) (i : Fin RECEIVE_TRANS_COUNT) (gp : ProtocolStackData) :
    Tsa Unit :=
  match layer with
  | .transport =>
    if (gp.recvRec i).transState = .delivered ∧ (gp.recvRec i).serviceType = .acknowledged then
      call (.tpSendAck i)
    else Prog.pure ()
  | .session =>
    if (gp.recvRec i).transState = .responded then call (.snSendResponse false false i)
    else Prog.pure ()

theorem guarded_answerNewMsg {layer : Layer} {i : Fin RECEIVE_TRANS_COUNT}
    (huse : (gp.recvRec i).InUse) : Guarded (answerNewMsg layer i gp) h gp := by
  unfold answerNewMsg
  split
  · split
    case isTrue hstate => exact ⟨⟨huse, .inl hstate.1⟩, trivial⟩
    case isFalse => trivial
  · split
    case isTrue hstate => exact ⟨⟨huse, hstate⟩, trivial⟩
    case isFalse => trivial

theorem guarded_handleNewMsg {layer : Layer} {i : Fin RECEIVE_TRANS_COUNT}
    (huse : (gp.recvRec i).InUse) : Guarded (handleNewMsg layer i) h gp := by
  simp only [Guarded, handleNewMsg, Prog.monadBind_eq, Prog.wp_bind, wp_gp]
  split
  case isTrue hchallenge => exact ⟨⟨huse, hchallenge⟩, trivial⟩
  case isFalse hchallenge =>
    split
    case isTrue hhandled =>
      simp only [Prog.wp_bind, wp_call, wp_gp]
      refine ⟨⟨hhandled, Bool.eq_false_iff.mpr hchallenge, .inl huse⟩, guarded_answerNewMsg ?_⟩
      simpa [Call.apply, ReceiveRecord.InUse] using huse
    case isFalse => exact guarded_answerNewMsg huse

theorem guarded_receiveNewMsg {layer : Layer} {p : TSAReceiveParam} (hp : gp.Takes p)
    (hmsg : p.pdu.pduMsgType ≠ Pdu.REM_MSG_MSG) : Guarded (receiveNewMsg layer p) h gp := by
  simp only [Guarded, receiveNewMsg, Prog.monadBind_eq, Prog.wp_bind, wp_gp, wp_call]
  refine ⟨trivial, ?_⟩
  have hmark : (gp, Call.receiveNewMsg layer p) ∈ (gp, Call.receiveNewMsg layer p) :: h :=
    List.mem_cons_self
  -- the record is in use once it has been prepared, and stays so
  have hrest (h : CallHistory) (gp : ProtocolStackData) (i : Fin RECEIVE_TRANS_COUNT)
      (needAuth : Bool) (huse : (gp.recvRec i).InUse) :
      Guarded
        ((call .dropTsaIn).bind fun _ => (call (.setNeedAuth needAuth i)).bind fun _ =>
          handleNewMsg layer i) h gp := by
    simp only [Guarded, Prog.wp_bind, wp_call]
    refine ⟨trivial, trivial, guarded_handleNewMsg ?_⟩
    simpa [Call.apply, ReceiveRecord.InUse] using huse
  rw [apply_receiveNewMsg]
  cases hfound : gp.retrieveRR p.srcAddr p.priority with
  | none =>
    cases halloc : gp.allocateRR with
    | none => exact ⟨trivial, trivial⟩
    | some i =>
      simp only [Option.map_some, Prog.wp_bind, wp_call]
      exact ⟨.newMsg hp hmsg hmark (.inl ⟨hfound, halloc⟩), hrest _ _ i _ (gp.inUse_initRR i)⟩
  | some i =>
    simp only [Prog.wp_bind, wp_call]
    cases hretry : p.isRetryOf layer (gp.recvRec i) with
    | true =>
      refine ⟨trivial, hrest _ _ i _ ?_⟩
      simp only [TSAReceiveParam.isRetryOf, Bool.and_eq_true, beq_iff_eq] at hretry
      simp only [if_true, Call.apply, ReceiveRecord.InUse, ProtocolStackData.recvRec_modifyRR]
      rw [hretry.1.1.2]
      exact layer.rrStatus_ne
    | false =>
      exact ⟨.newMsg hp hmsg hmark (.inr ⟨hfound, hretry⟩), hrest _ _ i _ (gp.inUse_initRR i)⟩

theorem guarded_receiveRemAsNew {layer : Layer} {p : TSAReceiveParam} {r : ProtocolStackData}
    (hp : r.Takes p) (htype : p.isReminder = true ∨ p.pdu.pduMsgType = Pdu.REM_MSG_MSG)
    (hmark : (r, .receiveRem layer p) ∈ h) (hmsg : p.isReminder = false)
    (hopens : r.OpensForRem layer p gp) : Guarded (receiveRemAsNew layer p) h gp := by
  have hp' : gp.Takes p := by
    cases hopens with
    | fresh | left => exact hp
    | freed => exact ⟨hp.head, hp.pduSize⟩
  rw [hmsg, or_iff_right Bool.false_ne_true] at htype
  simp only [Guarded, receiveRemAsNew, Prog.monadBind_eq, Prog.wp_bind, wp_gp]
  split
  case h_1 => trivial
  case h_2 i halloc =>
    simp only [Prog.wp_bind, wp_call]
    refine ⟨.rem hp' htype hmark hmsg hopens halloc, trivial, trivial, ?_⟩
    have huse : ((gp.initRR layer p layer.remService p.remApdu false i).recvRec i).InUse :=
      gp.inUse_initRR i
    split
    case isTrue hauth =>
      refine ⟨⟨?_, ?_⟩, trivial⟩
      · simpa [Call.apply, ReceiveRecord.InUse] using huse
      · simp [Call.apply, ReceiveRecord.unchallenged, hauth]
    case isFalse hauth =>
      simp only [Prog.wp_bind, wp_call, wp_gp]
      refine ⟨⟨?_, ?_, .inl ?_⟩, ?_⟩
      · simp [Call.apply, ReceiveRecord.handled]
      · simp [Call.apply, ReceiveRecord.unchallenged, hauth]
      · simpa [Call.apply, ReceiveRecord.InUse] using huse
      · split
        case isTrue hstate =>
          refine ⟨⟨?_, .inl hstate.2⟩, trivial⟩
          simpa [Call.apply, ReceiveRecord.InUse] using huse
        case isFalse => trivial

def answerRemAgain (layer : Layer) (i : Fin RECEIVE_TRANS_COUNT) (gp : ProtocolStackData) :
    Tsa Unit :=
  match layer with
  | .transport =>
    if (gp.recvRec i).transState = .delivered ∨ (gp.recvRec i).transState = .responded then
      call (.tpSendAck i)
    else Prog.pure ()
  | .session =>
    if (gp.recvRec i).transState = .responded then call (.snSendResponse false false i)
    else Prog.pure ()

theorem guarded_answerRemAgain {layer : Layer} {i : Fin RECEIVE_TRANS_COUNT}
    (huse : (gp.recvRec i).InUse) : Guarded (answerRemAgain layer i gp) h gp.dropTsaIn := by
  unfold answerRemAgain
  split
  · split
    case isTrue hstate => exact ⟨⟨huse, hstate⟩, trivial⟩
    case isFalse => trivial
  · split
    case isTrue hstate => exact ⟨⟨huse, hstate⟩, trivial⟩
    case isFalse => trivial

theorem guarded_answerRem {layer : Layer} {i : Fin RECEIVE_TRANS_COUNT}
    (huse : (gp.recvRec i).InUse) : Guarded (answerRem layer i) h gp := by
  simp only [Guarded, answerRem, Prog.monadBind_eq, Prog.wp_bind, wp_gp]
  split
  case isTrue hchallenge =>
    simp only [Prog.wp_bind, wp_call]
    exact ⟨⟨huse, hchallenge⟩, trivial, trivial⟩
  case isFalse hchallenge =>
    split
    case isTrue hhandled =>
      simp only [Prog.wp_bind, wp_call, wp_gp]
      refine ⟨⟨hhandled, Bool.eq_false_iff.mpr hchallenge, .inl huse⟩, trivial, guarded_answerRemAgain ?_⟩
      simpa [Call.apply, ReceiveRecord.InUse] using huse
    case isFalse =>
      simp only [Prog.wp_bind, wp_call, wp_gp]
      exact ⟨trivial, guarded_answerRemAgain huse⟩

theorem guarded_receiveRemFor {layer : Layer} {p : TSAReceiveParam} {i : Fin RECEIVE_TRANS_COUNT}
    (huse : (gp.recvRec i).InUse) : Guarded (receiveRemFor layer p i) h gp := by
  simp only [Guarded, receiveRemFor, Prog.monadBind_eq, Prog.wp_bind, wp_gp]
  split
  case h_1 => exact ⟨trivial, trivial⟩
  case h_2 =>
    split
    case isTrue =>
      split
      · exact ⟨trivial, trivial⟩
      · exact guarded_answerRem huse
    case isFalse =>
      split
      case isTrue hstate =>
        simp only [Prog.wp_bind, wp_call]
        exact ⟨hstate, trivial, trivial⟩
      case isFalse => exact ⟨trivial, trivial⟩

theorem guarded_receiveRem {layer : Layer} {p : TSAReceiveParam} (hp : gp.Takes p)
    (htype : p.isReminder = true ∨ p.pdu.pduMsgType = Pdu.REM_MSG_MSG) :
    Guarded (receiveRem layer p) h gp := by
  simp only [Guarded, receiveRem, Prog.monadBind_eq, Prog.wp_bind, wp_gp, wp_call]
  refine ⟨trivial, ?_⟩
  have hmark : (gp, Call.receiveRem layer p) ∈ (gp, Call.receiveRem layer p) :: h :=
    List.mem_cons_self
  rw [apply_receiveRem]
  split
  case h_1 hfound =>
    split
    case isTrue => exact ⟨trivial, trivial⟩
    case isFalse hmsg =>
      exact guarded_receiveRemAsNew hp htype hmark (Bool.eq_false_iff.mpr hmsg) (.fresh hfound)
  case h_2 i hfound =>
    split
    case isTrue hrem =>
      split
      case isTrue => exact ⟨trivial, trivial⟩
      case isFalse hmsg =>
        rw [Bool.not_eq_true] at hmsg
        split
        case isTrue hstate =>
          simp only [Prog.wp_bind, wp_call]
          refine ⟨⟨layer, p, hmark, hmsg, hfound, hrem, hstate⟩, ?_⟩
          exact guarded_receiveRemAsNew hp htype (List.mem_cons_of_mem _ hmark) hmsg (.freed hfound)
        case isFalse hstate =>
          refine guarded_receiveRemAsNew hp htype hmark hmsg (.left hfound ?_)
          rw [not_or] at hstate
          simp [ProtocolStackData.leaves, hrem, hstate]
    case isFalse hrem =>
      rw [Bool.not_eq_false] at hrem
      split
      case isTrue hservice =>
        split
        case isTrue => exact ⟨trivial, trivial⟩
        case isFalse hmsg =>
          refine guarded_receiveRemAsNew hp htype hmark (Bool.eq_false_iff.mpr hmsg) (.left hfound ?_)
          simp [ProtocolStackData.leaves, hrem, hservice]
      case isFalse =>
        simp only [TSAReceiveParam.isRemOf, Bool.and_eq_true, beq_iff_eq] at hrem
        have huse : (gp.recvRec i).InUse := by
          rw [ReceiveRecord.InUse, hrem.1.2]
          exact layer.rrStatus_ne
        exact guarded_receiveRemFor huse

theorem guarded_processReply {useOma : Bool} {p : TSAReceiveParam} :
    Guarded (processReply useOma p) h gp := by
  simp only [Guarded, processReply, Prog.monadBind_eq, Prog.wp_bind, wp_gp, wp_call]
  refine ⟨trivial, ?_⟩
  rw [apply_processReply]
  split
  case h_1 => exact ⟨trivial, trivial⟩
  case h_2 i hfound =>
    split
    case isTrue => exact ⟨trivial, trivial⟩
    case isFalse hstate =>
      rw [ne_eq, Decidable.not_not] at hstate
      split
      case isTrue => exact ⟨trivial, trivial⟩
      case isFalse =>
        split
        case isTrue => exact ⟨trivial, trivial⟩
        case isFalse hnum =>
          rw [ne_eq, Decidable.not_not] at hnum
          simp only [Prog.wp_bind, wp_call, wp_gp]
          refine ⟨⟨hstate, hnum, hfound⟩, ⟨?_, ?_, .inr ?_⟩, ?_⟩
          · simp [Call.apply, ReceiveRecord.handled, ProtocolStackData.authenticate]
          · simp [Call.apply, ReceiveRecord.unchallenged, ProtocolStackData.authenticate]
          · refine ⟨gp, useOma, p, (gp, .processReply useOma p) :: h, rfl, ?_⟩
            rw [← hfound]
            exact gp.retrieveRR_authenticate i
          · split
            case isTrue hack =>
              simp only [Prog.wp_bind, wp_call]
              refine ⟨⟨?_, .inl hack.2.2⟩, trivial, trivial⟩
              simp [ReceiveRecord.InUse, hack.1]
            case isFalse => exact ⟨trivial, trivial⟩

theorem guarded_transportLayerReceive : Guarded transportLayerReceive h gp := by
  simp only [Guarded, transportLayerReceive, Prog.monadBind_eq, Prog.wp_bind, wp_gp, wp_call]
  refine ⟨trivial, ?_⟩
  split
  case h_1 => trivial
  case h_2 p hp =>
    split
    case isTrue => trivial
    case isFalse =>
      split
      case isTrue => exact ⟨trivial, trivial⟩
      case isFalse hsize =>
        have hp : ProtocolStackData.Takes _ p := ⟨hp, by omega⟩
        split
        case isTrue => exact guarded_tpReceiveAck
        case isFalse =>
          split
          case isTrue htype => exact guarded_receiveNewMsg hp (by rcases htype with h | h <;> rw [h] <;> decide)
          case isFalse =>
            split
            case isTrue htype =>
              exact guarded_receiveRem hp (htype.imp_left beq_iff_eq.mpr)
            case isFalse => exact ⟨trivial, trivial⟩

theorem guarded_sessionLayerReceive : Guarded sessionLayerReceive h gp := by
  simp only [Guarded, sessionLayerReceive, Prog.monadBind_eq, Prog.wp_bind, wp_gp, wp_call]
  refine ⟨trivial, ?_⟩
  split
  case h_1 => trivial
  case h_2 p hp =>
    split
    case isTrue => trivial
    case isFalse =>
      split
      case isTrue => exact ⟨trivial, trivial⟩
      case isFalse hsize =>
        have hp : ProtocolStackData.Takes _ p := ⟨hp, by omega⟩
        split
        case isTrue => exact guarded_snReceiveResponse
        case isFalse =>
          split
          case isTrue htype => exact guarded_receiveNewMsg hp (by rw [htype]; decide)
          case isFalse =>
            split
            case isTrue htype =>
              exact guarded_receiveRem hp (htype.imp_left beq_iff_eq.mpr)
            case isFalse => exact ⟨trivial, trivial⟩

theorem guarded_sendChallenges (is : List (Fin RECEIVE_TRANS_COUNT)) :
    Guarded (sendChallenges is) h gp := by
  induction is generalizing h gp with
  | nil => trivial
  | cons i is ih =>
    simp only [Guarded, sendChallenges, Prog.monadBind_eq, Prog.wp_bind, wp_gp]
    split
    case isTrue hpending =>
      simp only [Prog.wp_bind, wp_call]
      refine ⟨⟨hpending.1, ?_⟩, ih⟩
      simp [ReceiveRecord.unchallenged, hpending.2]
    case isFalse => exact ih

theorem guarded_authReceive : Guarded authReceive h gp := by
  simp only [Guarded, authReceive, Prog.monadBind_eq, Prog.wp_bind, wp_gp]
  split
  case h_1 => trivial
  case h_2 =>
    split
    case isTrue => trivial
    case isFalse =>
      split
      case isTrue => exact ⟨trivial, trivial⟩
      case isFalse => exact guarded_processReply

end Tsa

theorem Event.guarded (e : Event) (h : CallHistory) (gp : ProtocolStackData) :
    Tsa.Guarded e.prog h gp := by
  cases e with
  | transportLayerSend => exact Tsa.guarded_transportLayerSend
  | sessionLayerSend => exact Tsa.guarded_sessionLayerSend
  | transportLayerReceive => exact Tsa.guarded_transportLayerReceive
  | sessionLayerReceive => exact Tsa.guarded_sessionLayerReceive
  | authSend => exact Tsa.guarded_sendChallenges _
  | authReceive => exact Tsa.guarded_authReceive
  | env e => exact ⟨trivial, trivial⟩

end LonStack
