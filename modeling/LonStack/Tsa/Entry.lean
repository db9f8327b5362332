import LonStack.Tsa.Inner

namespace LonStack

open Lib

structure ProtocolStackData.Hands (gp : ProtocolStackData) (layer : Layer) (p : TSAReceiveParam) :
    Prop where
  head : gp.tsaInQ.peek = some p
  pduType : p.pduType = layer.pduType

def Call.Entered (h : CallHistory) (gp : ProtocolStackData) : Call → Prop
  | .receiveNewMsg layer p => gp.Hands layer p ∧ p.pdu.pduMsgType < Pdu.ACK_MSG
  | .receiveRem layer p =>
    gp.Hands layer p ∧
      (p.pdu.pduMsgType = Pdu.REMINDER_MSG ∨ p.pdu.pduMsgType = Pdu.REM_MSG_MSG)
  | .tpReceiveAck p => gp.Hands .transport p ∧ p.pdu.pduMsgType = Pdu.ACK_MSG
  | .countAck b =>
    ∃ p h', h = (gp, .tpReceiveAck p) :: h' ∧ p.priority = b ∧
      gp.answerIsStale .transport p = false
  | .takeResponse p _ =>
    gp.Hands .session p ∧ p.pdu.pduMsgType = Pdu.RESPONSE_MSG ∧
      gp.answerIsStale .session p = false
  | _ => True

def Call.Free : Call → Prop
  | .receiveNewMsg _ _ => False
  | .receiveRem _ _ => False
  | .tpReceiveAck _ => False
  | .countAck _ => False
  | .takeResponse _ _ => False
  | _ => True

theorem Call.Free.entered {c : Call} (hc : c.Free) {h : CallHistory} {gp : ProtocolStackData} :
    c.Entered h gp := by
  cases c <;> first | exact trivial | exact hc.elim

theorem Call.free_of_inner (c : Call) (hc : c.Inner) : c.Free := by
  cases c <;> first | exact trivial | exact hc

namespace Tsa

variable {h : CallHistory} {gp : ProtocolStackData}

abbrev EntryChecked (m : Tsa Unit) (h : CallHistory) (gp : ProtocolStackData) : Prop :=
  m.wp Call.apply Call.Entered (fun _ _ _ => True) h gp

abbrev OnlyFree (m : Tsa Unit) : Prop := m.Only Call.Free

theorem OnlyFree.entryChecked {m : Tsa Unit} (hm : OnlyFree m) : EntryChecked m h gp :=
  (hm.wp (Prog.wp_true m)).mono (fun _ _ _ hc => hc.2.entered) fun _ _ _ _ => trivial

theorem OnlyInner.free {m : Tsa Unit} (hm : OnlyInner m) : OnlyFree m := hm.mono Call.free_of_inner

theorem EntersBy.entryChecked {c : Call} {m : Tsa Unit} (hm : EntersBy c m) (hc : c.Entered h gp) :
    EntryChecked m h gp := by
  obtain ⟨tail, rfl, htail⟩ := hm
  exact ⟨hc, htail.free.entryChecked⟩

theorem onlyFree_xmitTimerExpiration (layer : Layer) (b : Bool) :
    OnlyFree (xmitTimerExpiration layer b) := by
  simp only [OnlyFree, xmitTimerExpiration, Prog.monadBind_eq, only_gp_bind]
  intro gp
  split
  · exact (onlyInner_terminateTrans b).free
  · simp [Call.Free]

theorem onlyFree_sendNewMsg (layer : Layer) (b : Bool) : OnlyFree (sendNewMsg layer b) := by
  simp only [OnlyFree, sendNewMsg, Prog.monadBind_eq, only_gp_bind]
  intro gp
  repeat' split
  all_goals trivial

theorem onlyFree_layerSend (layer : Layer) : OnlyFree (layerSend layer) := by
  simp only [OnlyFree, layerSend, Prog.monadBind_eq, only_gp_bind]
  intro gp
  split
  · exact onlyFree_xmitTimerExpiration layer true
  · split
    · exact onlyFree_sendNewMsg layer true
    · split
      · exact onlyFree_xmitTimerExpiration layer false
      · split
        · exact onlyFree_sendNewMsg layer false
        · trivial

theorem onlyFree_transportLayerSend : OnlyFree transportLayerSend := by
  simp only [OnlyFree, transportLayerSend, Prog.monadBind_eq, only_gp_bind]
  intro gp
  split
  · trivial
  · exact onlyFree_layerSend .transport

theorem onlyFree_sendResponse (p : TSASendParam) : OnlyFree (sendResponse p) := by
  simp only [OnlyFree, sendResponse, Prog.monadBind_eq, only_gp_bind]
  intro gp
  split
  · simp [Call.Free]
  · split
    · simp [Call.Free]
    · exact ⟨trivial, trivial, trivial, trivial⟩

theorem onlyFree_sessionLayerSend : OnlyFree sessionLayerSend := by
  simp only [OnlyFree, sessionLayerSend, Prog.monadBind_eq, only_gp_bind]
  intro gp
  split
  · trivial
  · split
    · split
      · trivial
      · exact onlyFree_sendResponse _
    · exact onlyFree_layerSend .session

theorem onlyFree_answered (b : Bool) :
    OnlyFree ((call .dropTsaIn).bind fun _ => call (.restartTimer b)) := by
  simp [Call.Free]

theorem entryChecked_snReceiveResponse {p : TSAReceiveParam} (hp : gp.Hands .session p)
    (htype : p.pdu.pduMsgType = Pdu.RESPONSE_MSG) : EntryChecked (snReceiveResponse p) h gp := by
  simp only [EntryChecked, snReceiveResponse, Prog.monadBind_eq, Prog.wp_bind, wp_gp]
  split
  case isTrue => exact ⟨trivial, trivial⟩
  case isFalse hok =>
    have hanswered := onlyFree_answered p.priority
    have hended := (onlyInner_terminateTrans p.priority).free.bind fun _ => hanswered
    split
    · trivial
    · split
      · trivial
      · refine ⟨⟨hp, htype, Bool.eq_false_iff.mpr hok⟩, OnlyFree.entryChecked ?_⟩
        change Prog.Only _ (Prog.bind Tsa.gp _)
        simp only [only_gp_bind]
        intro gp
        split
        · exact hended
        · exact hanswered

theorem entryChecked_tpReceiveAck {p : TSAReceiveParam} (hp : gp.Hands .transport p)
    (htype : p.pdu.pduMsgType = Pdu.ACK_MSG) : EntryChecked (tpReceiveAck p) h gp := by
  simp only [EntryChecked, tpReceiveAck, Prog.monadBind_eq, Prog.wp_bind, wp_gp, wp_call]
  refine ⟨⟨hp, htype⟩, ?_⟩
  split
  case isTrue => exact ⟨trivial, trivial⟩
  case isFalse hok =>
    rw [Bool.or_eq_true, not_or, Bool.not_eq_true] at hok
    have hanswered := onlyFree_answered p.priority
    have hended := (onlyInner_terminateTrans p.priority).free.bind fun _ => hanswered
    split
    · split
      · refine ⟨trivial, OnlyFree.entryChecked ?_⟩
        change Prog.Only _ (Prog.bind Tsa.gp _)
        simp only [only_gp_bind]
        intro gp
        split
        · exact hended
        · exact hanswered
      · exact hanswered.entryChecked
    · exact hanswered.entryChecked
    · exact hanswered.entryChecked
    · exact ⟨⟨p, _, rfl, rfl, hok.1⟩, OnlyFree.entryChecked hended⟩

theorem entryChecked_transportLayerReceive : EntryChecked transportLayerReceive h gp := by
  simp only [EntryChecked, transportLayerReceive, Prog.monadBind_eq, Prog.wp_bind, wp_gp, wp_call]
  refine ⟨trivial, ?_⟩
  split
  case h_1 => trivial
  case h_2 p hp =>
    split
    case isTrue => trivial
    case isFalse htype =>
      rw [ne_eq, Decidable.not_not] at htype
      have hhands : (Call.apply (.releaseExpired .transport) gp).Hands .transport p := ⟨hp, htype⟩
      split
      · exact ⟨trivial, trivial⟩
      · split
        case isTrue hack => exact entryChecked_tpReceiveAck hhands hack
        case isFalse =>
          split
          case isTrue hnew =>
            refine (entersBy_receiveNewMsg _ _).entryChecked ⟨hhands, ?_⟩
            rcases hnew with hnew | hnew <;> rw [hnew] <;> decide
          case isFalse =>
            split
            case isTrue hrem => exact (entersBy_receiveRem _ _).entryChecked ⟨hhands, hrem⟩
            case isFalse => exact ⟨trivial, trivial⟩

theorem entryChecked_sessionLayerReceive : EntryChecked sessionLayerReceive h gp := by
  simp only [EntryChecked, sessionLayerReceive, Prog.monadBind_eq, Prog.wp_bind, wp_gp, wp_call]
  refine ⟨trivial, ?_⟩
  split
  case h_1 => trivial
  case h_2 p hp =>
    split
    case isTrue => trivial
    case isFalse htype =>
      rw [ne_eq, Decidable.not_not] at htype
      have hhands : (Call.apply (.releaseExpired .session) gp).Hands .session p := ⟨hp, htype⟩
      split
      · exact ⟨trivial, trivial⟩
      · split
        case isTrue hresponse => exact entryChecked_snReceiveResponse hhands hresponse
        case isFalse =>
          split
          case isTrue hnew =>
            refine (entersBy_receiveNewMsg _ _).entryChecked ⟨hhands, ?_⟩
            rw [hnew]
            decide
          case isFalse =>
            split
            case isTrue hrem => exact (entersBy_receiveRem _ _).entryChecked ⟨hhands, hrem⟩
            case isFalse => exact ⟨trivial, trivial⟩

theorem onlyFree_authReceive : OnlyFree authReceive := by
  simp only [OnlyFree, authReceive, Prog.monadBind_eq, only_gp_bind]
  intro gp
  split
  · trivial
  · split
    · trivial
    · split
      · simp [Call.Free]
      · exact (entersBy_processReply _ _).only trivial Call.free_of_inner

end Tsa

theorem Event.entryChecked (e : Event) (h : CallHistory) (gp : ProtocolStackData) :
    Tsa.EntryChecked e.prog h gp := by
  cases e with
  | transportLayerSend => exact Tsa.onlyFree_transportLayerSend.entryChecked
  | sessionLayerSend => exact Tsa.onlyFree_sessionLayerSend.entryChecked
  | transportLayerReceive => exact Tsa.entryChecked_transportLayerReceive
  | sessionLayerReceive => exact Tsa.entryChecked_sessionLayerReceive
  | authSend => exact (Tsa.onlyInner_sendChallenges _).free.entryChecked
  | authReceive => exact Tsa.onlyFree_authReceive.entryChecked
  | env e => exact ⟨trivial, trivial⟩

end LonStack
