import LonStack.Tsa.SendStep
import LonStack.Tsa.System

namespace LonStack

open Lib

def Call.asksFor (b : Bool) : Call → Option Message
  | .startTrans _ b' p _ _ => if b' = b then some p.message else none
  | _ => none

def startsTrans (b : Bool) (x : ProtocolStackData × Call) : Bool :=
  (x.2.asksFor b).isSome && ((x.2.apply x.1).xmitRec b).status != .unused

def lastStarted (b : Bool) : CallHistory → Option Message
  | [] => none
  | x :: h => if startsTrans b x then x.2.asksFor b else lastStarted b h

structure HeadOfTrans (b : Bool) (h : CallHistory) (x : TransmitRecord) (q : Queue TSASendParam)
    (p : TSASendParam) : Prop where
  peek : q.peek = some p
  started : lastStarted b h = some p.message
  apdu : x.apdu = q.headIndex
  apduSize : x.apduSize = p.apduSize
  service : ∀ layer : Layer, x.status = layer.txStatus → layer.Sends p.service

structure TransAgrees (b : Bool) (h : CallHistory) (gp : ProtocolStackData) : Prop where
  inProgress : (gp.xmitRec b).status ≠ .unused ↔ (gp.transCtrl b).inProgress = true
  head : (gp.xmitRec b).status ≠ .unused →
    ∃ p, HeadOfTrans b h (gp.xmitRec b) (gp.tsaOutQ b) p

variable {h : CallHistory} {gp : ProtocolStackData} {c : Call} {b : Bool}

theorem Call.asksFor_of_transacts (hc : c.transacts b = false) : c.asksFor b = none := by
  cases c with
  | startTrans => exact if_neg (by simpa [Call.transacts] using hc)
  | _ => rfl

theorem startsTrans_eq_false (hc : c.asksFor b = none) : startsTrans b (gp, c) = false := by
  simp [startsTrans, hc]

theorem startsTrans_eq_true {layer : Layer} {p : TSASendParam} {a : DestinationAddress} {rpt : Nat}
    (hstatus : ((gp.startTrans layer b p a rpt).xmitRec b).status ≠ .unused) :
    startsTrans b (gp, .startTrans layer b p a rpt) = true := by
  simp [startsTrans, Call.asksFor, Call.apply, hstatus]

theorem lastStarted_cons (hc : startsTrans b (gp, c) = false) :
    lastStarted b ((gp, c) :: h) = lastStarted b h := by
  rw [lastStarted, hc, if_neg Bool.false_ne_true]

theorem Queue.Grows.peek {q q' : Queue TSASendParam} (hq : Grows b q q') {p : TSASendParam}
    (hp : q.peek = some p) : ∃ p', q'.peek = some p' ∧ p'.message = p.message := by
  obtain ⟨more, -, hmessages⟩ := hq.messages
  rw [peek_eq_head?] at hp ⊢
  cases hl : q.toList with
  | nil => simp [hl] at hp
  | cons y ys =>
    obtain rfl : y = p := by simpa [hl] using hp
    cases hl' : q'.toList with
    | nil => simp [Queue.messages, hl, hl'] at hmessages
    | cons y' ys' =>
      simp only [Queue.messages, hl, hl', List.map_cons, List.cons_append, List.cons.injEq]
        at hmessages
      exact ⟨y', rfl, hmessages.1⟩

theorem TSASendParam.apduSize_eq {p p' : TSASendParam} (hp : p'.message = p.message) :
    p'.apduSize = p.apduSize :=
  congrArg (fun m : Message => m.apdu.length) hp

theorem HeadOfTrans.keep {x x' : TransmitRecord} {q q' : Queue TSASendParam} {p : TSASendParam}
    {h' : CallHistory} (hp : HeadOfTrans b h x q p) (hq : q.Grows b q')
    (hstarted : lastStarted b h' = lastStarted b h) (hstatus : x'.status = x.status)
    (hapdu : x'.apdu = x.apdu) (hsize : x'.apduSize = x.apduSize) :
    ∃ p', HeadOfTrans b h' x' q' p' := by
  obtain ⟨p', hp', hmessage⟩ := hq.peek hp.peek
  refine ⟨p', hp', ?_, ?_, ?_, fun layer hlayer => ?_⟩
  · rw [hstarted, hmessage, hp.started]
  · rw [hapdu, hp.apdu, hq.headIndex]
  · rw [hsize, hp.apduSize, TSASendParam.apduSize_eq hmessage]
  · have hservice : p'.service = p.service := congrArg Message.service hmessage
    rw [hservice]
    exact hp.service layer (hstatus ▸ hlayer)

theorem SendStep.marked {x : TransmitRecord} {ctrl : TransCtrl} {q : Queue TSASendParam}
    (hstep : SendStep gp b c x ctrl q) (hm : ∀ m ∈ (gp.tsaOutQ b).messages, m.priority = b) :
    ∀ m ∈ q.messages, m.priority = b := by
  have hgrows {q : Queue TSASendParam} (hq : Queue.Grows b (gp.tsaOutQ b) q) :
      ∀ m ∈ q.messages, m.priority = b := by
    obtain ⟨more, hmore, heq⟩ := hq.messages
    rw [heq, List.forall_mem_append]
    exact ⟨hm, hmore⟩
  cases hstep with
  | kept _ _ hq | refused _ _ _ _ hq | started _ _ _ _ _ _ hq | responseTaken _ _ _ _ hq =>
    exact hgrows hq
  | completed _ _ hq =>
    rw [hq]
    split
    · exact hm
    · exact fun m hmem => hm m (List.mem_of_mem_tail hmem)
  | terminated _ _ _ hq =>
    rw [hq]
    exact fun m hmem => hm m (List.mem_of_mem_tail hmem)
  | ackCounted | memberCounted => exact hm

theorem TransAgrees.keep {gp' : ProtocolStackData} (ha : TransAgrees b h gp) {h' : CallHistory}
    (hstatus : (gp'.xmitRec b).status = (gp.xmitRec b).status)
    (hapdu : (gp'.xmitRec b).apdu = (gp.xmitRec b).apdu)
    (hsize : (gp'.xmitRec b).apduSize = (gp.xmitRec b).apduSize)
    (hctrl : (gp'.transCtrl b).inProgress = (gp.transCtrl b).inProgress)
    (hq : (gp.xmitRec b).status ≠ .unused → (gp.tsaOutQ b).Grows b (gp'.tsaOutQ b))
    (hstarted : (gp.xmitRec b).status ≠ .unused → lastStarted b h' = lastStarted b h) :
    TransAgrees b h' gp' where
  inProgress := by rw [hstatus, hctrl, ha.inProgress]
  head huse := by
    rw [hstatus] at huse
    obtain ⟨p, hp⟩ := ha.head huse
    exact hp.keep (hq huse) (hstarted huse) hstatus hapdu hsize

theorem transAgrees_step (hg : c.Guard h gp) (hover : c.overwritesStatus gp = false)
    (hm : gp.QueuesMarked) (ha : TransAgrees b h gp) :
    TransAgrees b ((gp, c) :: h) (c.apply gp) := by
  have hstep := sendStep hg hover hm b
  generalize hgp' : c.apply gp = gp' at hstep ⊢
  generalize hx' : gp'.xmitRec b = x, hctrl' : gp'.transCtrl b = ctrl, hq' : gp'.tsaOutQ b = q
    at hstep
  cases hstep with
  | kept hc hx hq =>
    subst hx' hq'
    exact ha.keep (congrArg Transaction.status hx) (congrArg Transaction.apdu hx)
      (congrArg Transaction.apduSize hx) (by rw [hctrl']) (fun _ => hq)
      fun _ => lastStarted_cons (startsTrans_eq_false (Call.asksFor_of_transacts hc))
  | completed success hstatus =>
    exact ha.keep (by rw [hx']) (by rw [hx']) (by rw [hx']) (by rw [hctrl'])
      (fun huse => absurd hstatus huse) fun huse => absurd hstatus huse
  | refused _ _ hstatus hctrl =>
    exact ha.keep (by rw [hx']) (by rw [hx']) (by rw [hx']) (by rw [hctrl', hctrl])
      (fun huse => absurd hstatus huse) fun huse => absurd hstatus huse
  | terminated =>
    have hstatus : (gp'.xmitRec b).status = .unused := by rw [hx']
    exact ⟨by simp [hstatus, hctrl', TransCtrl.transDone], fun huse => absurd hstatus huse⟩
  | @started layer p nwDestAddr rptTimer _ _ _ hstatus hp hservice hctrl hx hq =>
    subst hx' hctrl' hq'
    have hstatus' : (gp'.xmitRec b).status = layer.txStatus := congrArg Transaction.status hx
    refine ⟨?_, fun _ => ?_⟩
    · rw [hstatus', hctrl]
      simp [layer.txStatus_ne]
    · obtain ⟨p', hp', hmessage⟩ := hq.peek hp
      refine ⟨p', hp', ?_, ?_, ?_, fun layer' hlayer' => ?_⟩
      · rw [lastStarted, startsTrans_eq_true, if_pos rfl, Call.asksFor, if_pos rfl, hmessage]
        rw [show gp.startTrans layer b p nwDestAddr rptTimer = gp' from hgp', hstatus']
        exact layer.txStatus_ne
      · rw [hq.headIndex]
        exact congrArg Transaction.apdu hx
      · rw [TSASendParam.apduSize_eq hmessage]
        exact congrArg Transaction.apduSize hx
      · have hservice' : p'.service = p.service := congrArg Message.service hmessage
        have hlayer : layer' = layer := by
          rw [hstatus'] at hlayer'
          cases layer <;> cases layer' <;> simp [Layer.txStatus] at hlayer' ⊢
        rw [hservice', hlayer]
        exact hservice
  | ackCounted _ _ hx =>
    subst hx'
    exact ha.keep (congrArg Transaction.status hx) (congrArg Transaction.apdu hx)
      (congrArg Transaction.apduSize hx) (by rw [hctrl']) (fun _ => .of_eq hq')
      fun _ => lastStarted_cons (startsTrans_eq_false rfl)
  | memberCounted _ _ _ hx =>
    subst hx'
    have hkept : (gp'.xmitRec b).status = (gp.xmitRec b).status ∧
        (gp'.xmitRec b).apdu = (gp.xmitRec b).apdu ∧
        (gp'.xmitRec b).apduSize = (gp.xmitRec b).apduSize := by
      split at hx
      all_goals
        exact ⟨congrArg Transaction.status hx, congrArg Transaction.apdu hx,
          congrArg Transaction.apduSize hx⟩
    exact ha.keep hkept.1 hkept.2.1 hkept.2.2 (by rw [hctrl']) (fun _ => .of_eq hq')
      fun _ => lastStarted_cons (startsTrans_eq_false rfl)
  | responseTaken _ _ _ hx hq =>
    subst hx' hq'
    exact ha.keep (congrArg Transaction.status hx) (congrArg Transaction.apdu hx)
      (congrArg Transaction.apduSize hx) (by rw [hctrl']) (fun _ => hq)
      fun _ => lastStarted_cons (startsTrans_eq_false rfl)

theorem ProtocolStackData.PowerUp.messages {gp : ProtocolStackData} (hinit : gp.PowerUp)
    (b : Bool) : (gp.tsaOutQ b).messages = [] := by
  rw [Queue.messages, List.map_eq_nil_iff, Queue.toList_eq_nil_iff]
  exact hinit.tsaOutQ b

theorem queuesMarked_step (hg : c.Guard h gp) (hm : gp.QueuesMarked) :
    (c.apply gp).QueuesMarked := fun b =>
  have ⟨_, hstep, _⟩ := exists_sendStep hg hm b
  hstep.marked (hm b)

theorem Reaches.queuesMarked {g₀ : ProtocolStackData} (hinit : g₀.PowerUp)
    (hrun : Reaches g₀ h gp) :
    gp.QueuesMarked ∧ EachCall (fun _ gp _ => gp.QueuesMarked) h := by
  obtain ⟨hgp, hcalls⟩ := hrun.invariant (I := fun _ gp => gp.QueuesMarked)
    (fun b m hm => by simp [hinit.messages b] at hm)
    (fun _ _ _ hg hm => queuesMarked_step hg hm)
  exact ⟨hgp, hcalls.mono fun _ _ _ hx => hx.2⟩

theorem ProtocolStackData.PowerUp.transAgrees {gp : ProtocolStackData} (hinit : gp.PowerUp)
    (b : Bool) : TransAgrees b [] gp where
  inProgress := by simp [hinit.xmitRec b, hinit.transCtrl b]
  head huse := absurd (hinit.xmitRec b) huse

/-- The transmit record and the transaction control of each priority agree in every state of a run
in which no answer to a challenge runs over its record, also between the calls of a layer. -/
theorem record_agrees_of_not_overruns {g₀ : ProtocolStackData} (hinit : g₀.PowerUp)
    (hrun : Reaches g₀ h gp) (hover : ∀ x ∈ h, x.2.overruns x.1 = false) :
    (∀ b, TransAgrees b h gp) ∧ EachCall (fun h gp _ => ∀ b, TransAgrees b h gp) h := by
  obtain ⟨hgp, hcalls⟩ := hrun.invariant_of_forall
    (I := fun h gp => gp.QueuesMarked ∧ ∀ b, TransAgrees b h gp) hover
    ⟨fun b m hm => by simp [hinit.messages b] at hm, hinit.transAgrees⟩
    (fun _ _ _ hg hover hI => ⟨queuesMarked_step hg hI.1, fun b =>
      transAgrees_step hg (Call.not_overruns_iff.mp hover).2 hI.1 (hI.2 b)⟩)
  exact ⟨hgp.2, hcalls.mono fun _ _ _ hx => hx.2.2⟩

theorem not_record_agrees :
    ¬∀ (g₀ gp : ProtocolStackData) (h : CallHistory), g₀.PowerUp → Reaches g₀ h gp →
      (∀ b, TransAgrees b h gp) ∧ EachCall (fun h gp _ => ∀ b, TransAgrees b h gp) h := by
  intro hall
  have hagrees := (hall _ _ _ (ProtocolStackData.powerUp_reset boundNode 3 50)
    (ProtocolStackData.reaches_runEvents _ (challengedMessage false))).1 true
  exact absurd (hagrees.inProgress.mp (by decide +kernel)) (by decide +kernel)

def oneSend : List Event :=
  [.env (.appSend false (messageTo (nodeAddress 2) .acknowledged 7 [0x10, 0x20])),
    .transportLayerSend]

theorem record_agrees_oneSend :
    ∃ p,
      HeadOfTrans false (runEvents oneSend ([], .reset default 3 50)).1
        ((runEvents oneSend ([], .reset default 3 50)).2.xmitRec false)
        ((runEvents oneSend ([], .reset default 3 50)).2.tsaOutQ false) p :=
  ((record_agrees_of_not_overruns (ProtocolStackData.powerUp_reset default 3 50)
    (ProtocolStackData.reaches_runEvents _ oneSend) (by decide +kernel)).1 false).head
      (by decide +kernel)

end LonStack
