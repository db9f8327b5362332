import LonStack.Lib.Joint
import LonStack.Tsa.EndToEnd
import LonStack.Tsa.Provenance
import LonStack.Tsa.Queued

namespace LonStack

open Lib

def NetAddr.node : NetAddr → Option SubnetNode
  | .subnetNode a => some a
  | .multicastAck a => some a.subnetAddr
  | _ => none

structure Connection where
  addr : Bool → SubnetNode
  domainIndex : Bool → Nat

namespace Connection

variable (l : Connection) (side : Bool)

def IsAddr (a : SubnetNode) : Prop :=
  a.subnet = (l.addr side).subnet ∧ a.nodeId = (l.addr side).nodeId

def IsPeer (src : SourceAddress) : Prop :=
  src.dmn.domainIndex = l.domainIndex side ∧ l.IsAddr (!side) src.subnetAddr

structure Arrives (nw : NWSendParam) (p : TSAReceiveParam) : Prop where
  pduType : p.pduType = nw.pduType
  pduSize : p.pduSize = nw.pduSize
  carries : p.Carries nw
  domainIndex : nw.destAddr.dmn.domainIndex = l.domainIndex (!side)
  addr : ∀ a, nw.destAddr.addr.node = some a → l.IsAddr side a

def Brings (h : CallHistory) (p : TSAReceiveParam) : Prop :=
  ∃ x ∈ h, ∃ nw ∈ (x.1.nwOutQ p.priority).added ((x.2.apply x.1).nwOutQ p.priority),
    l.Arrives side nw p

/-- The network may lose, delay, double and reorder what the nodes send, and bring anything from
other nodes. The application hands APDUs to the network layer, no other PDUs. -/
structure Allows (h : CallHistory) (c : Call) : Prop where
  network : ∀ p, c = .env (.networkReceive p) → l.IsPeer side p.srcAddr → l.Brings side h p
  application : ∀ b nw, c = .env (.appSendApdu b nw) → nw.pduType = .apdu

abbrev Runs (s : Bool → ProtocolStackData) (h : Bool → CallHistory)
    (t : Bool → ProtocolStackData) : Prop :=
  Joint Call.apply Event.prog l.Allows s h t

variable {l} {side}

instance (a : SubnetNode) : Decidable (l.IsAddr side a) := inferInstanceAs (Decidable (_ ∧ _))

theorem Allows.mono {h h' : CallHistory} {c : Call} (hc : l.Allows side h c)
    (hmem : ∀ x ∈ h, x ∈ h') : l.Allows side h' c where
  network p hp hpeer := by
    obtain ⟨x, hx, hnw⟩ := hc.network p hp hpeer
    exact ⟨x, hmem x hx, hnw⟩
  application := hc.application

theorem Runs.reaches {s t : Bool → ProtocolStackData} {h : Bool → CallHistory}
    (hrun : l.Runs s h t) (side : Bool) : Reaches (s side) (h side) (t side) :=
  Joint.trace hrun side

theorem Runs.all_allowed {s t : Bool → ProtocolStackData} {h : Bool → CallHistory}
    (hrun : l.Runs s h t) (side : Bool) : ∀ x ∈ h side, l.Allows side (h !side) x.2 :=
  Joint.all_allowed hrun (fun _ _ _ _ hmem hc => hc.mono hmem) side

end Connection

section

variable {l : Connection} {s t : Bool → ProtocolStackData} {h : Bool → CallHistory} {side : Bool}

theorem Received.sent {p : TSAReceiveParam} (hp : Received (h side) p) (hrun : l.Runs s h t)
    (hpeer : l.IsPeer side p.srcAddr) :
    ∃ g c nw, (g, c) ∈ h (!side) ∧ Queued g p.priority nw c ∧
      nw ∈ (g.nwOutQ p.priority).added ((c.apply g).nwOutQ p.priority) ∧ l.Arrives side nw p ∧
      ∀ b, c = .env (.appSendApdu b nw) → nw.pduType = .apdu := by
  obtain ⟨r, hr⟩ := hp
  obtain ⟨x, hx, nw, hnw, harrives⟩ := (hrun.all_allowed side _ hr).network p rfl hpeer
  have happ := (hrun.all_allowed (!side) x hx).application
  exact ⟨x.1, x.2, nw, hx, queued hnw, hnw, harrives, fun b hc => happ b nw hc⟩

end

theorem ReceiveRecord.node_answerAddr {rr : ReceiveRecord} {eep : Eeprom} {dmn : Domain}
    {dest : DestinationAddress} (h : rr.answerAddr eep dmn = some dest) :
    dest.dmn = dmn ∧ dest.addr.node = some rr.srcAddr.subnetAddr := by
  rw [answerAddr] at h
  split at h
  case isTrue =>
    obtain ⟨member, -, rfl⟩ := Option.map_eq_some_iff.mp h
    exact ⟨rfl, rfl⟩
  case isFalse =>
    obtain rfl := Option.some.inj h
    exact ⟨rfl, rfl⟩

section

variable {h : CallHistory} {g : ProtocolStackData} {b : Bool}

theorem Received.mono {h h' : CallHistory} {p : TSAReceiveParam} (hp : Received h p)
    (hmem : ∀ x ∈ h, x ∈ h') : Received h' p := by
  obtain ⟨g, hg⟩ := hp
  exact ⟨g, hmem _ hg⟩

theorem ack_of_success (hk : Known h g) (hg : (Call.terminate b true).Guard h g)
    (htransport : (g.xmitRec b).status = .transport)
    (hunicast : (g.xmitRec b).nwDestAddr.addressMode = .subnetNode)
    (hservice : ∀ p, (g.tsaOutQ b).peek = some p → p.service ≠ .repeated) :
    ∃ g' p, (g', .tpReceiveAck p) ∈ h ∧ p.priority = b ∧ g'.answerIsStale .transport p = false ∧
      (g'.xmitRec b).nwDestAddr = (g.xmitRec b).nwDestAddr ∧
      (g'.transCtrl b).transNum = (g.transCtrl b).transNum := by
  obtain ⟨-, -, p, hp, hsucceeded⟩ := hg
  obtain ⟨hcount, hknown⟩ := hk.acks b htransport hunicast
  refine hknown fun hack => ?_
  simp [TransmitRecord.succeeded, TransmitRecord.answered, hservice p hp, hunicast, hcount, hack]
    at hsucceeded

theorem of_not_stale {layer : Layer} {dmn : Domain} {a : SubnetNode} {p : TSAReceiveParam}
    (hstale : g.answerIsStale layer p = false)
    (hdest : (g.xmitRec p.priority).nwDestAddr = ⟨dmn, .subnetNode a⟩) :
    p.transNum = (g.transCtrl p.priority).transNum ∧
      p.srcAddr.dmn.domainIndex = dmn.domainIndex ∧
      p.srcAddr.subnetAddr.subnet = a.subnet ∧ p.srcAddr.subnetAddr.nodeId = a.nodeId := by
  simp only [ProtocolStackData.answerIsStale, hdest, Bool.or_eq_false_iff, Bool.not_eq_false',
    bne_eq_false_iff_eq, TransCtrl.validateTrans, Bool.and_eq_true, beq_iff_eq] at hstale
  obtain ⟨⟨⟨⟨-, hnum⟩, -⟩, hdomain⟩, hsubnet, hnode⟩ := hstale
  exact ⟨hnum.symm, hdomain.symm, hsubnet.symm, hnode.symm⟩

theorem decodes_of_transmits {c : Call} {nw : NWSendParam} {p : TSAReceiveParam} (hg : c.Guard h g)
    (hsmall : g.nwOutBufSize b ≤ 255) (hfits : g.Fits b)
    (hagrees : (g.xmitRec b).status ≠ .unused ↔ (g.transCtrl b).inProgress = true)
    (hc : c.transmits b = true)
    (hnw : nw ∈ (g.nwOutQ b).added ((c.apply g).nwOutQ b))
    (hmsg : nw.pdu.pduMsgType ≠ Pdu.REMINDER_MSG) (hp : p.Carries nw) (hsize : p.pduSize = nw.pduSize)
    (hnum : ((c.apply g).xmitRec b).transNum < transNumBound ((c.apply g).xmitRec b).version)
    (hplace : misplacesLow b (g, c) = false) :
    p.Decodes ((c.apply g).xmitRec b).transNum ((c.apply g).xmitApdu b) := by
  cases c with
  | startTrans layer b' q a rpt =>
    obtain rfl : b' = b := by simpa [Call.transmits] using hc
    obtain ⟨hform, happdu⟩ := ProtocolStackData.added_startTrans hg.2.1 hnw
    have hrejected := hg.2.2.2
    simp only [TSASendParam.rejected, Bool.or_eq_false_iff, decide_eq_false_iff_not,
      Nat.not_lt] at hrejected
    rw [Call.apply] at hnum ⊢
    exact (hp.decodes_iff hsize hform (by omega)).mpr ⟨hnum, rfl⟩
  | retransmit layer b' =>
    obtain rfl : b' = b := by simpa [Call.transmits] using hc
    have hform := (ProtocolStackData.added_retransmit hnw).resolve_left hmsg
    obtain ⟨hversion, htransNum, happdu⟩ := g.message_retransmit b' layer
    have hlen := hfits (hagrees.mp hg)
    rw [Call.apply] at hnum ⊢
    rw [hversion, htransNum] at hnum
    rw [htransNum, happdu, hp.decodes_iff hsize hform (by omega), retryLow_eq_iff layer b']
    exact ⟨hnum, hplace⟩
  | _ => simp [Call.transmits] at hc

end

section

variable {l : Connection} {s t : Bool → ProtocolStackData} {h : Bool → CallHistory} {side : Bool}

theorem Received.ack {p : TSAReceiveParam} (hp : Received (h side) p) (hrun : l.Runs s h t)
    (hpeer : l.IsPeer side p.srcAddr) (htpdu : p.pduType = .tpdu)
    (hack : p.pdu.pduMsgType = Pdu.ACK_MSG) :
    ∃ r i, (r, .tpSendAck i) ∈ h (!side) ∧ (r.recvRec i).priority = p.priority ∧
      ((r.recvRec i).transNum < transNumBound (r.recvRec i).version →
        p.transNum = (r.recvRec i).transNum) ∧
      l.IsPeer (!side) (r.recvRec i).srcAddr := by
  obtain ⟨r, c, nw, hmem, hqueued, -, harrives, happ⟩ := hp.sent hrun hpeer
  have htype : nw.pdu.pduMsgType = Pdu.ACK_MSG := by
    rw [← hack, Pdu.pduMsgType, Pdu.pduMsgType, harrives.carries.hdr]
  have hnwtype : nw.pduType = .tpdu := harrives.pduType.symm.trans htpdu
  cases hqueued with
  | message _ hother => exact absurd htype hother
  | response _ _ _ destAddr slot _ _ hresponse =>
    subst hresponse
    cases hnwtype
  | authpdu hauth =>
    rw [hauth] at hnwtype
    cases hnwtype
  | apdu =>
    rw [happ _ rfl] at hnwtype
    cases hnwtype
  | ack i destAddr slot hpriority hanswer hnw =>
    subst hnw
    refine ⟨r, i, hmem, hpriority, fun hnum => ?_, ?_⟩
    · exact (harrives.carries.tspdu_transNum_iff (ReceiveRecord.isTspdu_ack _ _ _) (by decide)).mpr
        ⟨hnum, rfl⟩
    · obtain ⟨hdmn, hnode⟩ := ReceiveRecord.node_answerAddr hanswer
      refine ⟨?_, ?_⟩
      · rw [← hdmn]
        exact harrives.domainIndex
      · rw [Bool.not_not]
        exact harrives.addr _ hnode

theorem Received.message {p : TSAReceiveParam} (hp : Received (h side) p) (hrun : l.Runs s h t)
    (hpeer : l.IsPeer side p.srcAddr) (hmessage : p.IsMessage) :
    ∃ x ∈ h (!side), ∃ nw, x.2.transmits p.priority = true ∧
      nw ∈ (x.1.nwOutQ p.priority).added ((x.2.apply x.1).nwOutQ p.priority) ∧
      nw.pdu.pduMsgType ≠ Pdu.REMINDER_MSG ∧ l.Arrives side nw p := by
  obtain ⟨r, c, nw, hmem, hqueued, hnw, harrives, happ⟩ := hp.sent hrun hpeer
  obtain ⟨⟨layer, hlayer⟩, htype⟩ := hmessage
  have hsame : p.pdu.pduMsgType = nw.pdu.pduMsgType := by
    rw [Pdu.pduMsgType, Pdu.pduMsgType, harrives.carries.hdr]
  rw [hsame] at htype
  have hnot : nw.pdu.pduMsgType ≠ Pdu.ACK_MSG ∧ nw.pdu.pduMsgType ≠ Pdu.REMINDER_MSG := by
    rcases htype with htype | htype
    · exact ⟨UInt8.ne_of_lt htype, UInt8.ne_of_lt (UInt8.lt_trans htype (by decide))⟩
    · rw [htype]
      decide
  have hnwtype : nw.pduType = layer.pduType := harrives.pduType.symm.trans hlayer
  cases hqueued with
  | message htransmits _ => exact ⟨_, hmem, nw, htransmits, hnw, hnot.2, harrives⟩
  | authpdu hauth =>
    rw [hauth] at hnwtype
    cases layer <;> cases hnwtype
  | apdu =>
    rw [happ _ rfl] at hnwtype
    cases layer <;> cases hnwtype
  | ack i destAddr slot _ _ hack =>
    subst hack
    exact absurd (Pdu.tspduHdr_fields (by decide) _ _ _).1 hnot.1
  | response _ _ _ destAddr slot _ _ hresponse =>
    subst hresponse
    exact absurd (Pdu.tspduHdr_fields (by decide) _ _ _).1 hnot.1

theorem ReceiveRecord.IsFrom.sent {rr : ReceiveRecord} {p : TSAReceiveParam}
    (hp : rr.IsFrom (h side) p) (hrun : l.Runs s h t) (hinit : (s !side).PowerUp)
    (hbuf : (s !side).BuffersDecoded) (hover : ∀ x ∈ h (!side), x.2.overruns x.1 = false)
    (hpeer : l.IsPeer side rr.srcAddr)
    (hplace : ∀ x ∈ h (!side), x.2.transmits rr.priority = true →
      ((x.2.apply x.1).xmitRec rr.priority).transNum <
          transNumBound ((x.2.apply x.1).xmitRec rr.priority).version ∧
        misplacesLow rr.priority x = false) :
    ∃ x ∈ h (!side), x.2.transmits rr.priority = true ∧
      ((x.2.apply x.1).xmitRec rr.priority).transNum = rr.transNum ∧
      (x.2.apply x.1).xmitApdu rr.priority = rr.apdu := by
  obtain ⟨x, hx, nw, htransmits, hnw, hnotrem, harrives⟩ :=
    hp.received.message hrun (hp.srcAddr ▸ hpeer) hp.isMessage
  rw [← hp.priority] at htransmits hnw
  obtain ⟨h₁, -, hg, hfits⟩ := ((hrun.reaches !side).fits hinit hbuf).of_mem hx
  obtain ⟨h₂, -, hagrees⟩ :=
    (record_agrees_of_not_overruns hinit (hrun.reaches !side) hover).2.of_mem hx
  obtain ⟨hnum, hmisplaced⟩ := hplace x hx htransmits
  have hdecodes := decodes_of_transmits hg (hfits _).1 (hfits _).2 (hagrees _).inProgress htransmits hnw hnotrem
    harrives.carries harrives.pduSize hnum hmisplaced
  refine ⟨x, hx, htransmits, ?_, ?_⟩
  · rw [← hdecodes.1, hp.transNum]
  · rw [← hdecodes.2, hp.apdu]

theorem delivered_record {r : ProtocolStackData} {c : Call} {i : Fin RECEIVE_TRANS_COUNT} {b : Bool}
    (hrun : l.Runs s h t) (hinit : ∀ side, (s side).PowerUp)
    (hover : ∀ side, ∀ x ∈ h side, x.2.overruns x.1 = false) (hbuf : (s side).BuffersDecoded)
    (hr : (r, c) ∈ h (!side)) (huse : (r.recvRec i).InUse) (hdelivered : (r.recvRec i).Delivered)
    (hpeer : l.IsPeer (!side) (r.recvRec i).srcAddr) (hpriority : (r.recvRec i).priority = b)
    (hplace : ∀ x ∈ h side, x.2.transmits b = true →
      ((x.2.apply x.1).xmitRec b).transNum < transNumBound ((x.2.apply x.1).xmitRec b).version ∧
        misplacesLow b x = false)
    (hroom : ∀ x ∈ h (!side), x.2.losesMessage x.1 = false) :
    (r.recvRec i).transNum < transNumBound (r.recvRec i).version ∧
      (∃ x ∈ h side, x.2.transmits b = true ∧
        ((x.2.apply x.1).xmitRec b).transNum = (r.recvRec i).transNum ∧
        (x.2.apply x.1).xmitApdu b = (r.recvRec i).apdu) ∧
      ∃ y ∈ h (!side), HandedOver i (r.recvRec i) y := by
  obtain ⟨h₁, hmem, -, hk⟩ := ((hrun.reaches !side).known (hinit !side) (hover !side)).2.of_mem hr
  have hinitialised := hk.initialised i huse
  obtain ⟨q, hq⟩ := hk.records i hinitialised
  obtain ⟨y, hy, hhanded⟩ :=
    (hk.delivered (fun x hx => hroom x (hmem x hx)) i hinitialised hdelivered).exists
  have hfrom : (r.recvRec i).IsFrom (h !side) q := { hq with received := hq.received.mono hmem }
  have hsent := hfrom.sent hrun (by rw [Bool.not_not]; exact hinit side)
    (by rw [Bool.not_not]; exact hbuf) (hover _) hpeer (by rw [Bool.not_not, hpriority]; exact hplace)
  rw [Bool.not_not, hpriority] at hsent
  refine ⟨?_, hsent, y, hmem y hy, hhanded⟩
  rw [hq.transNum, hq.version]
  exact Pdu.transNum_lt _ _

theorem Connection.IsPeer.of_not_stale {layer : Layer} {g : ProtocolStackData}
    {p : TSAReceiveParam} {dmn : Domain} {a : SubnetNode}
    (hstale : g.answerIsStale layer p = false)
    (hdest : (g.xmitRec p.priority).nwDestAddr = ⟨dmn, .subnetNode a⟩)
    (hdomain : dmn.domainIndex = l.domainIndex side) (hpeer : l.IsAddr (!side) a) :
    p.transNum = (g.transCtrl p.priority).transNum ∧ l.IsPeer side p.srcAddr := by
  obtain ⟨hnum, hpdomain, hpsubnet, hpnode⟩ := LonStack.of_not_stale hstale hdest
  exact ⟨hnum, hpdomain.trans hdomain, hpsubnet.trans hpeer.1, hpnode.trans hpeer.2⟩

theorem Known.hands {h : CallHistory} {g : ProtocolStackData} {layer : Layer} {p : TSAReceiveParam}
    (hk : Known h g) (hhands : g.Hands layer p) : Received h p := by
  have hhead := hhands.head
  rw [Queue.peek_eq_head?] at hhead
  exact hk.received p (List.mem_of_mem_head? hhead)

end

theorem mem_runEvents (es : List Event) {s : CallHistory × ProtocolStackData}
    {x : ProtocolStackData × Call} (hx : x ∈ s.1) : x ∈ (runEvents es s).1 := by
  induction es generalizing s with
  | nil => exact hx
  | cons e es ih => exact ih (List.mem_append_right _ hx)

theorem Connection.Runs.events {l : Connection} {s t : Bool → ProtocolStackData}
    {h : Bool → CallHistory} (hrun : l.Runs s h t) (side : Bool) (es : List Event)
    (hallowed : ∀ x ∈ (runEvents es (h side, t side)).1, l.Allows side (h !side) x.2) :
    l.Runs s (Function.update h side (runEvents es (h side, t side)).1)
      (Function.update t side (runEvents es (h side, t side)).2) := by
  induction es generalizing h t with
  | nil => simpa [runEvents] using hrun
  | cons e es ih =>
    have hnext := Joint.next side e hrun fun x hx =>
      hallowed x (mem_runEvents es (List.mem_append_left _ hx))
    have hrest := ih hnext (by
      simp only [Function.update_self, Function.update_of_ne (Bool.not_ne_self side)]
      exact hallowed)
    simp only [Function.update_self, Function.update_idem] at hrest
    exact hrest

def Call.received : Call → Option TSAReceiveParam
  | .env (.networkReceive p) => some p
  | _ => none

def Call.sendsApdu : Call → Bool
  | .env (.appSendApdu _ _) => true
  | _ => false

abbrev CallHistory.Receives (h : CallHistory) (ps : List TSAReceiveParam) : Prop :=
  ∀ x ∈ h, x.2.sendsApdu = false ∧ ∀ p ∈ x.2.received, p ∈ ps

theorem CallHistory.Receives.allows {l : Connection} {side : Bool} {h h' : CallHistory}
    {ps : List TSAReceiveParam} (hreceives : CallHistory.Receives h' ps)
    (hbrings : ∀ p ∈ ps, l.Brings side h p) : ∀ x ∈ h', l.Allows side h x.2 := by
  intro x hx
  obtain ⟨hsends, hreceived⟩ := hreceives x hx
  constructor
  · intro p hp _
    exact hbrings p (hreceived p (by rw [hp]; rfl))
  · intro b nw hc
    rw [hc] at hsends
    cases hsends

theorem Connection.Runs.exchange {l : Connection} {s : Bool → ProtocolStackData} (side : Bool)
    {es₁ es₂ es₃ : List Event} (p₁ p₂ : TSAReceiveParam)
    (hfirst : CallHistory.Receives (runEvents es₁ ([], s side)).1 [])
    (hbrings₁ : l.Brings (!side) (runEvents es₁ ([], s side)).1 p₁)
    (hsecond : CallHistory.Receives (runEvents es₂ ([], s !side)).1 [p₁])
    (hbrings₂ : l.Brings side (runEvents es₂ ([], s !side)).1 p₂)
    (hthird : CallHistory.Receives (runEvents (es₁ ++ es₃) ([], s side)).1 [p₂]) :
    ∃ h t, l.Runs s h t ∧ h side = (runEvents (es₁ ++ es₃) ([], s side)).1 ∧
      h (!side) = (runEvents es₂ ([], s !side)).1 := by
  have happend : runEvents (es₁ ++ es₃) ([], s side) = runEvents es₃ (runEvents es₁ ([], s side)) := by
    rw [runEvents, runEvents, runEvents, List.foldl_append]
  have hne : side ≠ !side := (Bool.not_ne_self side).symm
  have hruns₁ := Connection.Runs.events (l := l) (s := s) .refl side es₁ (hfirst.allows (by simp))
  have hruns₂ := hruns₁.events (!side) es₂ (by
    simp only [Function.update_of_ne hne.symm, Bool.not_not, Function.update_self]
    exact hsecond.allows (by simpa using hbrings₁))
  have hruns₃ := hruns₂.events side es₃ (by
    simp only [Function.update_of_ne hne, Function.update_self]
    rw [happend] at hthird
    exact hthird.allows (by simpa using hbrings₂))
  refine ⟨_, _, hruns₃, ?_, ?_⟩
  · simp only [Function.update_self, Function.update_of_ne hne, happend]
  · simp only [Function.update_self, Function.update_of_ne hne.symm]

def twoNodes : Connection where
  addr side := ⟨1, if side then 2 else 1⟩
  domainIndex _ := 0

abbrev queuedBy (x : ProtocolStackData × Call) : List NWSendParam :=
  (x.1.nwOutQ false).added ((x.2.apply x.1).nwOutQ false)

def broughtBy (x : ProtocolStackData × Call) (side : Bool) : TSAReceiveParam :=
  let nw := (queuedBy x).headD default
  { (default : TSAReceiveParam) with
    srcAddr := nodeSource (twoNodes.addr (!side)).nodeId
    pduSize := nw.pduSize
    pduType := nw.pduType
    version := nw.version
    pdu := nw.pdu }

def callAt (es : List Event) (n : Nat) : ProtocolStackData × Call :=
  (runEvents es ([], .reset default 3 50)).1.getD n (.reset default 3 50, .dropTsaIn)

def sentMessage : List Event :=
  [.env (.appSend false (messageTo (nodeAddress 2) .acknowledged 7 [0x10, 0x20])),
    .transportLayerSend]

def arrivedMessage : TSAReceiveParam := broughtBy (callAt sentMessage 0) true

def deliveredMessage : List Event := [.env (.networkReceive arrivedMessage), .transportLayerReceive]

def arrivedAck : TSAReceiveParam := broughtBy (callAt deliveredMessage 0) false

def countedAck : List Event := [.env (.networkReceive arrivedAck), .transportLayerReceive]

theorem mem_callAt {es : List Event} {n : Nat}
    (hn : n < (runEvents es ([], .reset default 3 50)).1.length) :
    callAt es n ∈ (runEvents es ([], .reset default 3 50)).1 := by
  rw [callAt, List.getD_eq_getElem?_getD, List.getElem?_eq_getElem hn]
  exact List.getElem_mem hn

theorem brings_callAt {es : List Event} {n : Nat} {side : Bool} (nw : NWSendParam)
    (hn : n < (runEvents es ([], .reset default 3 50)).1.length)
    (hnw : (queuedBy (callAt es n)).head? = some nw) (hdomain : nw.destAddr.dmn.domainIndex = 0)
    (hnode : ∀ a, nw.destAddr.addr.node = some a → twoNodes.IsAddr side a) :
    twoNodes.Brings side (runEvents es ([], .reset default 3 50)).1
      (broughtBy (callAt es n) side) := by
  have hfirst : (queuedBy (callAt es n)).headD default = nw := by
    rw [List.headD_eq_head?_getD, hnw, Option.getD_some]
  refine ⟨_, mem_callAt hn, nw, List.mem_of_head? hnw, ?_⟩
  rw [← hfirst] at hdomain hnode ⊢
  exact ⟨rfl, rfl, ⟨rfl, rfl, rfl⟩, hdomain, hnode⟩

theorem runs_sentMessage :
    ∃ h t, twoNodes.Runs (fun _ => .reset default 3 50) h t ∧
      h false = (runEvents (sentMessage ++ countedAck) ([], .reset default 3 50)).1 ∧
      h true = (runEvents deliveredMessage ([], .reset default 3 50)).1 :=
  Connection.Runs.exchange false arrivedMessage arrivedAck
    (by decide +kernel)
    (brings_callAt (lastQueued (.reset default 3 50) sentMessage) (by decide +kernel)
      (by decide +kernel) (by decide +kernel) (by decide +kernel))
    (by decide +kernel)
    (brings_callAt (lastQueued (.reset default 3 50) deliveredMessage) (by decide +kernel)
      (by decide +kernel) (by decide +kernel) (by decide +kernel))
    (by decide +kernel)

def successCall : ProtocolStackData × Call := callAt (sentMessage ++ countedAck) 2

def handingCall : ProtocolStackData × Call := callAt deliveredMessage 1

end LonStack
