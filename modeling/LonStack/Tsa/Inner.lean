import LonStack.Tsa.Guard

namespace LonStack

open Lib

def Call.Inner : Call → Prop
  | .receiveNewMsg _ _ => False
  | .receiveRem _ _ => False
  | .processReply _ _ => False
  | .tpReceiveAck _ => False
  | .countAck _ => False
  | .takeResponse _ _ => False
  | .retransmit _ _ => False
  | .startTrans _ _ _ _ _ => False
  | .storeResponse _ _ => False
  | .env _ => False
  | _ => True

namespace Tsa

variable {P : Call → Prop} {α : Type} {h : CallHistory} {gp : ProtocolStackData}

@[simp]
theorem only_pure (a : α) : (Prog.pure a : Tsa α).Only P ↔ True := Iff.rfl

@[simp]
theorem only_call (c : Call) : (call c).Only P ↔ P c := and_iff_left trivial

@[simp]
theorem only_call_bind (c : Call) (f : Unit → Tsa α) :
    ((call c).bind f).Only P ↔ P c ∧ (f ()).Only P := Iff.rfl

@[simp]
theorem only_gp_bind (f : ProtocolStackData → Tsa α) :
    (Tsa.gp.bind f).Only P ↔ ∀ s, (f s).Only P := Iff.rfl

abbrev OnlyInner (m : Tsa Unit) : Prop := m.Only Call.Inner

def EntersBy (c : Call) (m : Tsa Unit) : Prop :=
  ∃ tail : Tsa Unit, m = (call c).bind (fun _ => tail) ∧ OnlyInner tail

theorem EntersBy.only {c : Call} {m : Tsa Unit} (hm : EntersBy c m) (hc : P c)
    (hP : ∀ c : Call, c.Inner → P c) : m.Only P := by
  obtain ⟨tail, rfl, htail⟩ := hm
  exact ⟨hc, htail.mono hP⟩

theorem onlyInner_terminateTrans (b : Bool) : OnlyInner (terminateTrans b) := by
  simp only [OnlyInner, terminateTrans, Prog.monadBind_eq, only_gp_bind]
  intro gp
  split
  · trivial
  · split <;> simp [Call.Inner]

theorem onlyInner_handleNewMsg (layer : Layer) (i : Fin RECEIVE_TRANS_COUNT) :
    OnlyInner (handleNewMsg layer i) := by
  simp only [OnlyInner, handleNewMsg, Prog.monadBind_eq, only_gp_bind]
  intro gp
  split
  · simp [Call.Inner]
  · split
    · simp only [only_call_bind, only_gp_bind]
      refine ⟨trivial, fun gp => ?_⟩
      cases layer <;> dsimp only <;> split <;> simp [Call.Inner]
    · simp only [only_gp_bind]
      intro gp
      cases layer <;> dsimp only <;> split <;> simp [Call.Inner]

theorem entersBy_receiveNewMsg (layer : Layer) (p : TSAReceiveParam) :
    EntersBy (.receiveNewMsg layer p) (receiveNewMsg layer p) := by
  refine ⟨_, rfl, ?_⟩
  simp only [OnlyInner, only_gp_bind, Prog.monadBind_eq]
  intro gp
  split
  case h_1 => simp [Call.Inner]
  case h_2 i prepare hfound =>
    simp only [only_call_bind]
    refine ⟨?_, trivial, trivial, onlyInner_handleNewMsg layer i⟩
    split at hfound
    · simp only [Option.map_eq_some_iff, Prod.mk.injEq] at hfound
      obtain ⟨j, -, -, rfl⟩ := hfound
      trivial
    · simp only [Option.some.injEq, Prod.mk.injEq] at hfound
      obtain ⟨-, rfl⟩ := hfound
      split <;> trivial

theorem onlyInner_receiveRemAsNew (layer : Layer) (p : TSAReceiveParam) :
    OnlyInner (receiveRemAsNew layer p) := by
  simp only [OnlyInner, receiveRemAsNew, Prog.monadBind_eq, only_gp_bind]
  intro gp
  split
  · trivial
  · simp only [only_call_bind]
    refine ⟨trivial, trivial, trivial, ?_⟩
    split
    · simp [Call.Inner]
    · simp only [only_call_bind, only_gp_bind]
      refine ⟨trivial, fun gp => ?_⟩
      split <;> simp [Call.Inner]

theorem onlyInner_answerRem (layer : Layer) (i : Fin RECEIVE_TRANS_COUNT) :
    OnlyInner (answerRem layer i) := by
  simp only [OnlyInner, answerRem, Prog.monadBind_eq, only_gp_bind]
  intro gp
  split
  · simp [Call.Inner]
  · split
    · simp only [only_call_bind, only_gp_bind]
      refine ⟨trivial, fun gp => ⟨trivial, ?_⟩⟩
      cases layer <;> dsimp only <;> split <;> simp [Call.Inner]
    · simp only [only_call_bind, only_gp_bind]
      refine fun gp => ⟨trivial, ?_⟩
      cases layer <;> dsimp only <;> split <;> simp [Call.Inner]

theorem onlyInner_receiveRemFor (layer : Layer) (p : TSAReceiveParam)
    (i : Fin RECEIVE_TRANS_COUNT) : OnlyInner (receiveRemFor layer p i) := by
  simp only [OnlyInner, receiveRemFor, Prog.monadBind_eq, only_gp_bind]
  intro gp
  split
  · simp [Call.Inner]
  · split
    · split
      · simp [Call.Inner]
      · exact onlyInner_answerRem layer i
    · split <;> simp [Call.Inner]

theorem entersBy_receiveRem (layer : Layer) (p : TSAReceiveParam) :
    EntersBy (.receiveRem layer p) (receiveRem layer p) := by
  refine ⟨_, rfl, ?_⟩
  simp only [OnlyInner, only_gp_bind, Prog.monadBind_eq]
  intro gp
  split
  · split
    · simp [Call.Inner]
    · exact onlyInner_receiveRemAsNew layer p
  · split
    · split
      · simp [Call.Inner]
      · split
        · exact ⟨trivial, onlyInner_receiveRemAsNew layer p⟩
        · exact onlyInner_receiveRemAsNew layer p
    · split
      · split
        · simp [Call.Inner]
        · exact onlyInner_receiveRemAsNew layer p
      · exact onlyInner_receiveRemFor layer p _

theorem entersBy_processReply (useOma : Bool) (p : TSAReceiveParam) :
    EntersBy (.processReply useOma p) (processReply useOma p) := by
  refine ⟨_, rfl, ?_⟩
  simp only [OnlyInner, only_gp_bind, Prog.monadBind_eq]
  intro gp
  split
  · simp [Call.Inner]
  · split
    · simp [Call.Inner]
    · split
      · simp [Call.Inner]
      · split
        · simp [Call.Inner]
        · simp only [only_call_bind, only_gp_bind]
          refine ⟨trivial, trivial, fun gp => ?_⟩
          split <;> simp [Call.Inner]

theorem onlyInner_sendChallenges (is : List (Fin RECEIVE_TRANS_COUNT)) :
    OnlyInner (sendChallenges is) := by
  induction is with
  | nil => trivial
  | cons i is ih =>
    simp only [OnlyInner, sendChallenges, Prog.monadBind_eq, only_gp_bind]
    intro gp
    split
    · exact ⟨trivial, ih⟩
    · exact ih

end Tsa

end LonStack
