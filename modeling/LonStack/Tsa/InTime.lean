import LonStack.Tsa.Inner

namespace LonStack

open Lib

structure RetryDue (layer : Layer) (b : Bool) (gp : ProtocolStackData) : Prop where
  status : (gp.xmitRec b).status = layer.txStatus
  expired : (gp.xmitRec b).xmitTimer.running gp.tickCount = false
  retriesLeft : (gp.xmitRec b).retriesLeft ≠ 0
  answered : (gp.xmitRec b).answered = false

def Call.Plain : Call → Prop
  | .retransmit _ _ => False
  | .startTrans _ _ _ _ _ => False
  | .storeResponse _ _ => False
  | _ => True

def Call.Due (gp : ProtocolStackData) : Call → Prop
  | .retransmit layer b => gp.sendBlocked = false ∧ RetryDue layer b gp
  | .startTrans _ _ p _ rptTimer =>
    gp.sendBlocked = false ∧ decodeRptTimer p.destAddr.repeatTimer = some rptTimer
  | .storeResponse _ _ => gp.sendBlocked = false
  | _ => True

namespace Tsa

variable {h : CallHistory} {gp : ProtocolStackData}

abbrev OnlyPlain (m : Tsa Unit) : Prop := m.Only Call.Plain

theorem plain_of_inner (c : Call) (hc : c.Inner) : c.Plain := by
  cases c <;> first | exact trivial | exact hc

theorem OnlyInner.plain {m : Tsa Unit} (hm : OnlyInner m) : OnlyPlain m := hm.mono plain_of_inner

theorem EntersBy.plain {c : Call} {m : Tsa Unit} (hm : EntersBy c m) (hc : c.Plain) :
    OnlyPlain m := hm.only hc plain_of_inner

theorem onlyPlain_answered (b : Bool) :
    OnlyPlain ((call .dropTsaIn).bind fun _ => call (.restartTimer b)) := by
  simp [Call.Plain]

theorem onlyPlain_tpReceiveAck (p : TSAReceiveParam) : OnlyPlain (tpReceiveAck p) := by
  simp only [OnlyPlain, tpReceiveAck, Prog.monadBind_eq, only_call_bind, only_gp_bind]
  refine ⟨trivial, fun gp => ?_⟩
  split
  · simp [Call.Plain]
  · split
    · split
      · simp only [only_call_bind, only_gp_bind]
        refine ⟨trivial, fun gp => ?_⟩
        split
        · exact (onlyInner_terminateTrans _).plain.bind fun _ => onlyPlain_answered _
        · exact onlyPlain_answered _
      · exact onlyPlain_answered _
    · exact onlyPlain_answered _
    · exact onlyPlain_answered _
    · simp only [only_call_bind]
      exact ⟨trivial, (onlyInner_terminateTrans _).plain.bind fun _ => onlyPlain_answered _⟩

theorem onlyPlain_snReceiveResponse (p : TSAReceiveParam) : OnlyPlain (snReceiveResponse p) := by
  simp only [OnlyPlain, snReceiveResponse, Prog.monadBind_eq, only_gp_bind]
  intro gp
  split
  · simp [Call.Plain]
  · split
    · trivial
    · split
      · trivial
      · simp only [only_call_bind, only_gp_bind]
        refine ⟨trivial, fun gp => ?_⟩
        split
        · exact (onlyInner_terminateTrans _).plain.bind fun _ => onlyPlain_answered _
        · exact onlyPlain_answered _

theorem onlyPlain_transportLayerReceive : OnlyPlain transportLayerReceive := by
  simp only [OnlyPlain, transportLayerReceive, Prog.monadBind_eq, only_call_bind, only_gp_bind]
  refine ⟨trivial, fun gp => ?_⟩
  split
  · trivial
  · split
    · trivial
    · split
      · simp [Call.Plain]
      · split
        · exact onlyPlain_tpReceiveAck _
        · split
          · exact (entersBy_receiveNewMsg _ _).plain trivial
          · split
            · exact (entersBy_receiveRem _ _).plain trivial
            · simp [Call.Plain]

theorem onlyPlain_sessionLayerReceive : OnlyPlain sessionLayerReceive := by
  simp only [OnlyPlain, sessionLayerReceive, Prog.monadBind_eq, only_call_bind, only_gp_bind]
  refine ⟨trivial, fun gp => ?_⟩
  split
  · trivial
  · split
    · trivial
    · split
      · simp [Call.Plain]
      · split
        · exact onlyPlain_snReceiveResponse _
        · split
          · exact (entersBy_receiveNewMsg _ _).plain trivial
          · split
            · exact (entersBy_receiveRem _ _).plain trivial
            · simp [Call.Plain]

theorem onlyPlain_authReceive : OnlyPlain authReceive := by
  simp only [OnlyPlain, authReceive, Prog.monadBind_eq, only_gp_bind]
  intro gp
  split
  · trivial
  · split
    · trivial
    · split
      · simp [Call.Plain]
      · exact (entersBy_processReply _ _).plain trivial

abbrev InTime (m : Tsa Unit) (h : CallHistory) (gp : ProtocolStackData) : Prop :=
  m.wp Call.apply (fun _ gp c => c.Due gp) (fun _ _ _ => True) h gp

theorem OnlyPlain.inTime {m : Tsa Unit} (hm : OnlyPlain m) : InTime m h gp := by
  refine (hm.wp (Prog.wp_true m)).mono (fun _ gp c hc => ?_) fun _ _ _ _ => trivial
  cases c <;> first | exact trivial | exact hc.2.elim

theorem inTime_xmitTimerExpiration {layer : Layer} {b : Bool}
    (hstatus : (gp.xmitRec b).status = layer.txStatus)
    (hexpired : (gp.xmitRec b).xmitTimer.running gp.tickCount = false)
    (hopen : gp.sendBlocked = false) : InTime (xmitTimerExpiration layer b) h gp := by
  simp only [InTime, xmitTimerExpiration, Prog.monadBind_eq, Prog.wp_bind, wp_gp]
  split
  case isTrue => exact (onlyInner_terminateTrans b).plain.inTime
  case isFalse hgo =>
    simp only [Bool.or_eq_true, decide_eq_true_eq, not_or, Bool.not_eq_true] at hgo
    exact ⟨⟨hopen, hstatus, hexpired, hgo.1, hgo.2⟩, trivial⟩

theorem inTime_sendNewMsg {layer : Layer} {b : Bool} (hopen : gp.sendBlocked = false) :
    InTime (sendNewMsg layer b) h gp := by
  simp only [InTime, sendNewMsg, Prog.monadBind_eq, Prog.wp_bind, wp_gp]
  split
  case h_1 => trivial
  case h_2 p hp =>
    split
    · trivial
    · split
      · exact ⟨trivial, trivial⟩
      · split
        · trivial
        · split
          · exact ⟨trivial, trivial⟩
          · split
            case h_1 hrpt _ => exact ⟨⟨hopen, hrpt⟩, trivial⟩
            case h_2 => exact ⟨trivial, trivial⟩

theorem inTime_layerSend {layer : Layer} (hopen : gp.sendBlocked = false) : InTime (layerSend layer) h gp := by
  have htimeout {b : Bool} (ht : ((gp.xmitRec b).status == layer.txStatus &&
      !(gp.xmitRec b).xmitTimer.running gp.tickCount) = true) :
      InTime (xmitTimerExpiration layer b) h gp := by
    simp only [Bool.and_eq_true, beq_iff_eq, Bool.not_eq_true'] at ht
    exact inTime_xmitTimerExpiration ht.1 ht.2 hopen
  simp only [InTime, layerSend, Prog.monadBind_eq, Prog.wp_bind, wp_gp]
  split
  case isTrue ht => exact htimeout ht
  case isFalse =>
    split
    · exact inTime_sendNewMsg hopen
    · split
      case isTrue ht => exact htimeout ht
      case isFalse =>
        split
        · exact inTime_sendNewMsg hopen
        · trivial

theorem inTime_transportLayerSend : InTime transportLayerSend h gp := by
  simp only [InTime, transportLayerSend, Prog.monadBind_eq, Prog.wp_bind, wp_gp]
  split
  case isTrue => trivial
  case isFalse hopen => exact inTime_layerSend (Bool.eq_false_iff.mpr hopen)

theorem inTime_sendResponse {p : TSASendParam} (hopen : gp.sendBlocked = false) :
    InTime (sendResponse p) h gp := by
  simp only [InTime, sendResponse, Prog.monadBind_eq, Prog.wp_bind, wp_gp]
  split
  case isTrue => exact ⟨trivial, trivial⟩
  case isFalse =>
    split
    case h_1 => exact ⟨trivial, trivial⟩
    case h_2 => exact ⟨hopen, trivial, trivial, trivial⟩

theorem inTime_sessionLayerSend : InTime sessionLayerSend h gp := by
  simp only [InTime, sessionLayerSend, Prog.monadBind_eq, Prog.wp_bind, wp_gp]
  split
  case isTrue => trivial
  case isFalse hopen =>
    rw [Bool.not_eq_true] at hopen
    split
    case isTrue =>
      split
      · trivial
      · exact inTime_sendResponse hopen
    case isFalse => exact inTime_layerSend hopen

end Tsa

theorem Event.inTime (e : Event) (h : CallHistory) (gp : ProtocolStackData) :
    Tsa.InTime e.prog h gp := by
  cases e with
  | transportLayerSend => exact Tsa.inTime_transportLayerSend
  | sessionLayerSend => exact Tsa.inTime_sessionLayerSend
  | transportLayerReceive => exact Tsa.onlyPlain_transportLayerReceive.inTime
  | sessionLayerReceive => exact Tsa.onlyPlain_sessionLayerReceive.inTime
  | authSend => exact (Tsa.onlyInner_sendChallenges _).plain.inTime
  | authReceive => exact Tsa.onlyPlain_authReceive.inTime
  | env e => exact ⟨trivial, trivial⟩

end LonStack
