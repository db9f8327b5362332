import LonStack.Tsa.Delivery
import LonStack.Tsa.Entry
import LonStack.Tsa.Retransmit

namespace LonStack

open Lib

def Received (h : CallHistory) (p : TSAReceiveParam) : Prop :=
  ∃ g, (g, .env (.networkReceive p)) ∈ h

structure TSAReceiveParam.IsMessage (p : TSAReceiveParam) : Prop where
  pduType : ∃ layer : Layer, p.pduType = layer.pduType
  pduMsgType : p.pdu.pduMsgType < Pdu.ACK_MSG ∨ p.pdu.pduMsgType = Pdu.REM_MSG_MSG

def Call.Noted (gp : ProtocolStackData) : Call → Prop
  | .receiveNewMsg layer p => gp.Hands layer p ∧ p.pdu.pduMsgType < Pdu.ACK_MSG
  | .receiveRem layer p => gp.Hands layer p
  | .tpReceiveAck p => gp.Hands .transport p ∧ p.pdu.pduMsgType = Pdu.ACK_MSG
  | .takeResponse p _ =>
    gp.Hands .session p ∧ p.pdu.pduMsgType = Pdu.RESPONSE_MSG ∧
      gp.answerIsStale .session p = false
  | _ => True

structure ReceiveRecord.IsFrom (rr : ReceiveRecord) (h : CallHistory) (p : TSAReceiveParam) :
    Prop where
  received : Received h p
  isMessage : p.IsMessage
  srcAddr : rr.srcAddr = p.srcAddr
  transNum : rr.transNum = p.transNum
  version : rr.version = p.version
  priority : rr.priority = p.priority
  apdu : rr.apdu = p.messageApdu

def HandedOver (i : Fin RECEIVE_TRANS_COUNT) (rr : ReceiveRecord) (x : ProtocolStackData × Call) :
    Prop :=
  Enters i rr.apdu x ∧ (x.1.recvRec i).srcAddr = rr.srcAddr

abbrev HandedSince (i : Fin RECEIVE_TRANS_COUNT) (rr : ReceiveRecord) (h : CallHistory) : Prop :=
  Since (HandedOver i rr) (fun x => x.2.opened = some i) h

def AnswersWith (i : Fin RECEIVE_TRANS_COUNT) (rr : ReceiveRecord) (x : ProtocolStackData × Call) :
    Prop :=
  x.2 = .storeResponse rr.response i ∧
    (∃ q, x.1.tsaRespQ.peek = some q ∧ q.apdu = rr.response ∧ q.reqId = (x.1.recvRec i).reqId) ∧
    (x.1.recvRec i).srcAddr = rr.srcAddr ∧ (x.1.recvRec i).transNum = rr.transNum ∧
    (x.1.recvRec i).apdu = rr.apdu

abbrev AnsweredSince (i : Fin RECEIVE_TRANS_COUNT) (rr : ReceiveRecord) (h : CallHistory) : Prop :=
  Since (AnswersWith i rr) (fun x => x.2.opened = some i) h

def AckKnown (b : Bool) (h : CallHistory) (x : TransmitRecord) (ctrl : TransCtrl) : Prop :=
  x.status = .transport → x.nwDestAddr.addressMode = .subnetNode →
    x.destCount = 1 ∧
      (x.ackCount ≠ 0 →
        ∃ g p, (g, .tpReceiveAck p) ∈ h ∧ p.priority = b ∧ g.answerIsStale .transport p = false ∧
          (g.xmitRec b).nwDestAddr = x.nwDestAddr ∧ (g.transCtrl b).transNum = ctrl.transNum)

variable {g₀ gp : ProtocolStackData} {h : CallHistory} {c : Call} {b : Bool}
  {i : Fin RECEIVE_TRANS_COUNT}

theorem Call.Entered.noted (hc : c.Entered h gp) : c.Noted gp := by
  cases c with
  | receiveNewMsg | tpReceiveAck | takeResponse => exact hc
  | receiveRem => exact hc.1
  | _ => trivial

theorem Received.cons {p : TSAReceiveParam} (hp : Received h p) (x : ProtocolStackData × Call) :
    Received (x :: h) p := by
  obtain ⟨g, hg⟩ := hp
  exact ⟨g, List.mem_cons_of_mem _ hg⟩

theorem ReceiveRecord.IsFrom.cons {rr : ReceiveRecord} {p : TSAReceiveParam} (hrr : rr.IsFrom h p)
    (x : ProtocolStackData × Call) : rr.IsFrom (x :: h) p :=
  { hrr with received := hrr.received.cons x }

theorem AckKnown.keep {x x' : TransmitRecord} {ctrl : TransCtrl} (ha : AckKnown b h x ctrl)
    (hx : x'.transaction = x.transaction) (y : ProtocolStackData × Call) :
    AckKnown b (y :: h) x' ctrl := by
  intro hstatus hmode
  have hdest : x'.nwDestAddr = x.nwDestAddr := congrArg Transaction.nwDestAddr hx
  have hdestCount : x'.destCount = x.destCount := congrArg Transaction.destCount hx
  have hackCount : x'.ackCount = x.ackCount := congrArg Transaction.ackCount hx
  obtain ⟨hcount, hknown⟩ := ha ((congrArg Transaction.status hx).symm.trans hstatus) (hdest ▸ hmode)
  refine ⟨hdestCount.trans hcount, fun hack => ?_⟩
  obtain ⟨g, p, hmem, hp⟩ := hknown (hackCount ▸ hack)
  exact ⟨g, p, List.mem_cons_of_mem _ hmem, hdest ▸ hp⟩

theorem ackKnown_step (hg : c.Guard h gp) (he : c.Entered h gp)
    (hover : c.overwritesStatus gp = false) (hm : gp.QueuesMarked)
    (ha : AckKnown b h (gp.xmitRec b) (gp.transCtrl b)) :
    AckKnown b ((gp, c) :: h) ((c.apply gp).xmitRec b) ((c.apply gp).transCtrl b) := by
  have hstep := sendStep hg hover hm b
  generalize (c.apply gp).xmitRec b = x, (c.apply gp).transCtrl b = ctrl,
    (c.apply gp).tsaOutQ b = q at hstep ⊢
  cases hstep with
  | kept _ hx => exact ha.keep hx _
  | completed => exact ha.keep rfl _
  | terminated => exact fun hstatus => by cases hstatus
  | refused _ _ hunused =>
    intro hstatus
    rw [hunused] at hstatus
    cases hstatus
  | @started layer p nwDestAddr rptTimer x ctrl q _ _ _ _ hx =>
    intro _ hmode
    have hdest : x.nwDestAddr = nwDestAddr := congrArg Transaction.nwDestAddr hx
    have hackCount : x.ackCount = 0 := congrArg Transaction.ackCount hx
    have hdestCount := congrArg Transaction.destCount hx
    refine ⟨?_, fun hack => absurd hackCount hack⟩
    have hunicast : nwDestAddr.addr.addressMode ≠ .multicast := by
      rw [hdest] at hmode
      rw [show nwDestAddr.addr.addressMode = .subnetNode from hmode]
      decide
    exact hdestCount.trans (if_neg hunicast)
  | ackCounted hstatus _ hx =>
    obtain ⟨p, h', rfl, hpriority, hstale⟩ := he
    intro _ hmode
    have hdest : x.nwDestAddr = (gp.xmitRec b).nwDestAddr := congrArg Transaction.nwDestAddr hx
    have hdestCount : x.destCount = (gp.xmitRec b).destCount := congrArg Transaction.destCount hx
    refine ⟨hdestCount.trans (ha hstatus (hdest ▸ hmode)).1, fun _ => ?_⟩
    exact ⟨gp, p, by simp, hpriority, hstale, hdest.symm, rfl⟩
  | memberCounted _ _ hmulticast hx =>
    intro _ hmode
    have hdest : x.nwDestAddr = (gp.xmitRec b).nwDestAddr := by
      split at hx
      all_goals exact congrArg Transaction.nwDestAddr hx
    rw [hdest, hmulticast] at hmode
    cases hmode
  | responseTaken _ _ hsession hx =>
    intro hstatus
    have hstatus' : x.status = (gp.xmitRec b).status := congrArg Transaction.status hx
    rw [hstatus', hsession] at hstatus
    cases hstatus

theorem RecordStep.same_message {rr : ReceiveRecord} (hstep : RecordStep gp i c rr)
    (hc : c.opened ≠ some i) :
    rr.srcAddr = (gp.recvRec i).srcAddr ∧ rr.transNum = (gp.recvRec i).transNum ∧
      rr.version = (gp.recvRec i).version ∧ rr.priority = (gp.recvRec i).priority ∧
      rr.apdu = (gp.recvRec i).apdu := by
  cases hstep with
  | opened => exact absurd rfl hc
  | kept | released | freed | closed | challenged | authenticated | delivered | responded =>
    exact ⟨rfl, rfl, rfl, rfl, rfl⟩

theorem isFrom_initRR {layer : Layer} {p : TSAReceiveParam} {serviceType : ServiceType}
    {apdu : List UInt8} {clearReqId : Bool} (hopens : gp.Opens h layer p i serviceType apdu)
    (hnoted : ∀ x ∈ h, x.2.Noted x.1) (hreceived : ∀ p ∈ gp.tsaInQ.toList, Received h p) :
    ((gp.initRR layer p serviceType apdu clearReqId i).recvRec i).IsFrom h p := by
  have hmem (htakes : gp.Takes p) : p ∈ gp.tsaInQ.toList := by
    have hhead := htakes.head
    rw [Queue.peek_eq_head?] at hhead
    exact List.mem_of_mem_head? hhead
  cases hopens with
  | newMsg htakes htype hcall _ =>
    have hn := hnoted _ hcall
    constructor
    case received => exact hreceived p (hmem htakes)
    case isMessage => exact ⟨⟨layer, hn.1.pduType⟩, .inl hn.2⟩
    case apdu => simp [ProtocolStackData.initRR, TSAReceiveParam.messageApdu, htype]
    all_goals simp [ProtocolStackData.initRR]
  | @rem r htakes htype hcall hreminder hopens hfree =>
    have hn := hnoted _ hcall
    constructor
    case received => exact hreceived p (hmem htakes)
    case isMessage => exact ⟨⟨layer, hn.pduType⟩, .inr htype⟩
    case apdu => simp [ProtocolStackData.initRR, TSAReceiveParam.messageApdu, htype]
    all_goals simp [ProtocolStackData.initRR]

theorem isFrom_step (hg : c.Guard h gp) (hpool : c.movesPool gp = false) (hnoted : ∀ x ∈ h, x.2.Noted x.1)
    (hreceived : ∀ p ∈ gp.tsaInQ.toList, Received h p)
    (hin : Initialised i h → ∃ p, (gp.recvRec i).IsFrom h p) (hinit : Initialised i ((gp, c) :: h)) :
    ∃ p, ((c.apply gp).recvRec i).IsFrom ((gp, c) :: h) p := by
  rw [Initialised.cons_iff] at hinit
  by_cases hc : c.opened = some i
  · obtain ⟨layer, p, serviceType, apdu, clearReqId, rfl⟩ := Call.eq_initRR hc
    exact ⟨p, (isFrom_initRR hg hnoted hreceived).cons _⟩
  · obtain ⟨p, hp⟩ := hin (hinit.resolve_left hc)
    obtain ⟨hsrc, hnum, hversion, hpriority, hapdu⟩ := (recordStep hg hpool i).same_message hc
    exact ⟨p, hp.received.cons _, hp.isMessage, hsrc.trans hp.srcAddr, hnum.trans hp.transNum,
      hversion.trans hp.version, hpriority.trans hp.priority, hapdu.trans hp.apdu⟩

theorem handedOver_step (hg : c.Guard h gp) (hpool : c.movesPool gp = false) (hok : c.losesMessage gp = false)
    (hin : Initialised i h → (gp.recvRec i).Delivered → HandedSince i (gp.recvRec i) h)
    (hinit : Initialised i ((gp, c) :: h)) (hrr : ((c.apply gp).recvRec i).Delivered) :
    HandedSince i ((c.apply gp).recvRec i) ((gp, c) :: h) := by
  rw [Initialised.cons_iff] at hinit
  by_cases hc : c.opened = some i
  · obtain ⟨layer, p, serviceType, apdu, clearReqId, rfl⟩ := Call.eq_initRR hc
    exact absurd hrr not_delivered_initRR
  · have hstep := recordStep hg hpool i
    obtain ⟨hsrc, -, -, -, hapdu⟩ := hstep.same_message hc
    obtain ⟨-, hdel⟩ := hstep.delivered_cases hc hrr
    have hsame : HandedOver i ((c.apply gp).recvRec i) = HandedOver i (gp.recvRec i) := by
      funext x
      rw [HandedOver, HandedOver, hsrc, hapdu]
    rw [HandedSince, hsame]
    rcases hdel with hdel | ⟨rfl, hd⟩
    · exact .inr ⟨hc, hin (hinit.resolve_left hc) hdel⟩
    · exact .inl ⟨enters_deliver hd hok, rfl⟩

theorem RecordStep.answered_cases {rr : ReceiveRecord} (hstep : RecordStep gp i c rr)
    (hc : c.opened ≠ some i) (hrr : rr.transState = .responded) :
    (gp.recvRec i).transState = .responded ∧ rr.response = (gp.recvRec i).response ∨
      c = .storeResponse rr.response i := by
  cases hstep with
  | opened => exact absurd rfl hc
  | kept | released | freed => exact .inl ⟨hrr, rfl⟩
  | closed | authenticated | delivered => simp at hrr
  | challenged _ _ _ _ hstate =>
    rcases hstate with hstate | hstate
    · exact .inl ⟨hstate ▸ hrr, rfl⟩
    · simp [hstate] at hrr
  | responded => exact .inr rfl

theorem findRR_reqId {id : RequestId} (hi : gp.findRR id = some i) : (gp.recvRec i).reqId = id := by
  simp only [ProtocolStackData.findRR, Option.filter_eq_some_iff, Fin.find?_eq_some_iff,
    Bool.and_eq_true, beq_iff_eq] at hi
  exact hi.1.1.2

theorem answered_since_step (hg : c.Guard h gp) (hpool : c.movesPool gp = false)
    (hin : Initialised i h → (gp.recvRec i).transState = .responded →
      AnsweredSince i (gp.recvRec i) h)
    (hinit : Initialised i ((gp, c) :: h))
    (hrr : ((c.apply gp).recvRec i).transState = .responded) :
    AnsweredSince i ((c.apply gp).recvRec i) ((gp, c) :: h) := by
  rw [Initialised.cons_iff] at hinit
  by_cases hc : c.opened = some i
  · obtain ⟨layer, p, serviceType, apdu, clearReqId, rfl⟩ := Call.eq_initRR hc
    simp [Call.apply] at hrr
  · have hstep := recordStep hg hpool i
    obtain ⟨hsrc, hnum, -, -, hapdu⟩ := hstep.same_message hc
    rcases hstep.answered_cases hc hrr with ⟨hresponded, hresponse⟩ | hstore
    · have hsame : AnswersWith i ((c.apply gp).recvRec i) = AnswersWith i (gp.recvRec i) := by
        funext x
        rw [AnswersWith, AnswersWith, hsrc, hnum, hapdu, hresponse]
      rw [AnsweredSince, hsame]
      exact .inr ⟨hc, hin (hinit.resolve_left hc) hresponded⟩
    · refine .inl ⟨hstore, ?_, hsrc.symm, hnum.symm, hapdu.symm⟩
      rw [hstore] at hg
      obtain ⟨-, q, hq, happ, hfind⟩ := hg
      exact ⟨q, hq, happ, (findRR_reqId hfind).symm⟩

structure Known (h : CallHistory) (gp : ProtocolStackData) : Prop where
  marked : gp.QueuesMarked
  noted : ∀ x ∈ h, x.2.Noted x.1
  received : ∀ p ∈ gp.tsaInQ.toList, Received h p
  acks : ∀ b, AckKnown b h (gp.xmitRec b) (gp.transCtrl b)
  initialised : ∀ i, (gp.recvRec i).InUse → Initialised i h
  records : ∀ i, Initialised i h → ∃ p, (gp.recvRec i).IsFrom h p
  delivered : (∀ x ∈ h, x.2.losesMessage x.1 = false) → ∀ i, Initialised i h →
    (gp.recvRec i).Delivered → HandedSince i (gp.recvRec i) h
  answered : ∀ i, Initialised i h → (gp.recvRec i).transState = .responded →
    AnsweredSince i (gp.recvRec i) h

theorem known_step (hg : c.Guard h gp) (he : c.Entered h gp) (hpool : c.movesPool gp = false)
    (hover : c.overwritesStatus gp = false) (hk : Known h gp) :
    Known ((gp, c) :: h) (c.apply gp) where
  marked := queuesMarked_step hg hk.marked
  noted := List.forall_mem_cons.mpr ⟨he.noted, hk.noted⟩
  received p hp := by
    rcases Call.mem_tsaInQ_apply hp with hp | rfl
    · exact (hk.received p hp).cons _
    · exact ⟨gp, List.mem_cons_self⟩
  acks b := ackKnown_step hg he hover hk.marked (hk.acks b)
  initialised i := initialised_step hg hpool (hk.initialised i)
  records i := isFrom_step hg hpool hk.noted hk.received (hk.records i)
  delivered hok i := by
    rw [List.forall_mem_cons] at hok
    exact handedOver_step hg hpool hok.1 (hk.delivered hok.2 i)
  answered i := answered_since_step hg hpool (hk.answered i)

theorem Reaches.known (hrun : Reaches g₀ h gp) (hinit : g₀.PowerUp)
    (hover : ∀ x ∈ h, x.2.overruns x.1 = false) :
    Known h gp ∧ EachCall (fun h gp c => c.Guard h gp ∧ Known h gp) h := by
  have hstart : Known [] g₀ :=
    { marked := fun b m hm => by simp [hinit.messages b] at hm
      noted := by simp
      received := fun p hp => by
        rw [(g₀.tsaInQ.toList_eq_nil_iff).mpr hinit.tsaInQ] at hp
        simp at hp
      acks := fun b hstatus => by
        rw [hinit.xmitRec b] at hstatus
        cases hstatus
      initialised := fun i huse => absurd huse (hinit.recvRec i)
      records := fun i hi => by simp [Initialised] at hi
      delivered := fun _ i hi => by simp [Initialised] at hi
      answered := fun i hi => by simp [Initialised] at hi }
  obtain ⟨hgp, hcalls⟩ := hrun.invariant_calls_while
    (P := fun x => x.2.overruns x.1 = false) hstart
    (fun e h t => ((Event.guarded e h t).and (e.entryChecked h t)).mono (fun _ _ _ hc => hc)
      fun _ _ _ _ => trivial)
    (fun h gp c hc hover hk =>
      known_step hc.1 hc.2 (Call.not_overruns_iff.mp hover).1 (Call.not_overruns_iff.mp hover).2 hk)
  exact ⟨hgp hover, (hcalls.of_forall hover).mono fun _ _ _ hc => ⟨hc.1.1, hc.2⟩⟩

end LonStack
