import LonStack.NetworkRoundTrip
import LonStack.Tsa.Exchange
import LonStack.Tsa.RecordFit
import LonStack.Tsa.Retransmit

namespace LonStack

open Lib

structure Eeprom.CanReach (eep eep' : Eeprom) (i j : Nat) : Prop where
  configured : eep'.nodeConfigured = true
  own : i < eep.numDomains
  idLength : (eep.domainTable i).idLength ≠ 6
  domain : (eep.domainTable i).Same (eep'.domainTable j)
  index : j = 0 ∨ j = 1 ∧ eep'.twoDomains = true ∧
    ¬(eep.domainTable i).Same (eep'.domainTable 0)
  notSender : j = 0 → (eep.domainTable i).subnet = (eep'.domainTable 0).subnet →
    (eep.domainTable i).node ≠ (eep'.domainTable 0).node

structure Trip (b : Bool) (nw : NWSendParam) (s r : NetworkStackData) : Prop where
  arrives : ∃ lk rp, s.SendsNpdu b nw lk ∧ rp.Carries lk ∧ rp.priority = b ∧
    r.nwInQ.peek = some rp
  room : r.tsaInQ.queueEntries + 1 < r.tsaInQ.queueCapacity
  fits : nw.pduSize ≤ r.tsaInBufSize

structure TSAReceiveParam.IsArrival (p : TSAReceiveParam) (b : Bool) (nw : NWSendParam) (j : Nat)
    (d : IzotDomain) : Prop where
  srcAddr : p.srcAddr.IsSender j d nw.destAddr.addr
  priority : p.priority = b
  pduType : p.pduType = nw.pduType
  pduSize : p.pduSize = nw.pduSize
  carries : p.Carries nw

theorem IzotDomain.idLength_of_encode {d : IzotDomain} {code : UInt8}
    (h : encodeDomainLength d.idLength = some code) (hlen : d.idLength ≠ 6) :
    d.idLength = 0 ∨ d.idLength = 1 ∨ d.idLength = 3 := by
  simp only [encodeDomainLength, if_neg hlen] at h
  split at h
  · exact .inl ‹_›
  · split at h
    · exact .inr (.inl ‹_›)
    · split at h
      · exact .inr (.inr ‹_›)
      · cases h

theorem Eeprom.CanReach.hears {s r : NetworkStackData} {i j : Nat} {dest : NetAddr}
    (h : s.eep.CanReach r.eep i j) (hdest : dest.Names r.eep j) :
    r.Hears j (s.eep.domainTable i) dest :=
  ⟨⟨h.configured, h.domain, h.index, h.notSender⟩, hdest⟩

theorem toList_receiveTsa_priority {r : NetworkStackData} (rp : NWReceiveParam)
    (srcAddr : SourceAddress) (j : Nat) {pduSize : Nat}
    (hroom : r.tsaInQ.queueEntries + 1 < r.tsaInQ.queueCapacity) (hsize : pduSize ≤ r.tsaInBufSize) :
    ∃ p : TSAReceiveParam,
      (r.receiveTsa rp srcAddr j pduSize).tsaInQ.toList = r.tsaInQ.toList ++ [p] ∧
      p.srcAddr = srcAddr ∧ p.priority = rp.priority ∧ p.pduType = rp.npdu.pduType ∧
      p.pduSize = pduSize ∧ p.version = rp.npdu.protocolVersion ∧
      p.pdu = ⟨rp.npdu.byte j, bytesAt rp.npdu.data (j + 1) (pduSize - 1)⟩ := by
  have hfits : ¬(r.tsaInQ.full = true ∨ r.tsaInBufSize < pduSize) := by
    rw [Queue.full_of_room hroom]
    simpa using hsize
  rw [NetworkStackData.receiveTsa, if_neg hfits]
  exact ⟨_, by rw [Queue.toList_push, if_pos hroom], rfl, rfl, rfl, rfl, rfl, rfl⟩

theorem bytesAt_cons_eq {hdr : UInt8} {data bytes : List UInt8} {j n : Nat}
    (h : bytesAt bytes j (n + 1) = bytesAt (hdr :: data) 0 (n + 1)) (hn : n ≤ data.length) :
    bytes.getD j 0 = hdr ∧ bytesAt bytes (j + 1) n = data.take n := by
  rw [Nat.add_comm n 1, bytesAt_add, bytesAt_add] at h
  obtain ⟨hfirst, hrest⟩ := List.append_inj h (by simp)
  constructor
  · simpa [bytesAt] using hfirst
  · rw [hrest]
    apply List.ext_getElem
    · simp [hn]
    · intro k hk hk'
      simp [bytesAt] at hk' ⊢
      rw [Nat.add_comm, List.getElem?_cons_succ, List.getElem?_eq_getElem hk'.2, Option.getD_some]

theorem tspdu_arrives {s r : NetworkStackData} {b auth : Bool} {nw : NWSendParam} {i j v num : Nat}
    {pduMsgType : UInt8} {low bytes : List UInt8} (uninit : SourceAddress) (htrip : Trip b nw s r)
    (hreach : s.eep.CanReach r.eep i j) (hdmn : nw.destAddr.dmn.domainIndex = i)
    (hdest : nw.destAddr.addr.Names r.eep j) (htype : nw.pduType ≠ .apdu)
    (hform : nw.IsTspdu v num auth pduMsgType low bytes) :
    ∃ p : TSAReceiveParam, p.IsArrival b nw j (s.eep.domainTable i) ∧ r.Admits uninit p := by
  obtain ⟨lk, rp, hsends, hcarries, hpriority, hpeek⟩ := htrip.arrives
  have hown : nw.destAddr.dmn.domainIndex < s.eep.numDomains := hdmn ▸ hreach.own
  have hv : nw.version < 4 := by
    rw [hform.version, sentVersion]
    split <;> decide
  have hdomain : s.sendDomain nw.destAddr.dmn =
      ((s.eep.domainTable i).idLength,
        (s.eep.domainTable i).id.toList.take (s.eep.domainTable i).idLength) := by
    subst hdmn
    simp only [NetworkStackData.sendDomain, if_pos hown]
  have hlen : (s.eep.domainTable i).idLength = 0 ∨ (s.eep.domainTable i).idLength = 1 ∨
      (s.eep.domainTable i).idLength = 3 := by
    obtain ⟨-, _, -, hencode, -⟩ := NetworkStackData.formNpdu_spec hsends.formNpdu
    rw [hdomain] at hencode
    exact IzotDomain.idLength_of_encode hencode hreach.idLength
  have hsrc : (s.sendSource nw.destAddr).subnet = (s.eep.domainTable i).subnet := by
    subst hdmn
    simp only [NetworkStackData.sendSource, if_pos hown, SubnetNode.setSelField]
  have hnode : (s.sendSource nw.destAddr).nodeId = (s.eep.domainTable i).node := by
    subst hdmn
    simp only [NetworkStackData.sendSource, if_pos hown, SubnetNode.nodeId_setSelField]
    simp [SubnetNode.nodeId, IzotDomain.node, UInt8.and_assoc]
  have hfrom := hcarries.isFrom hsends.formNpdu hv hown
  have hholds := hfrom.holds
  rw [hdomain] at hholds
  have hsender := isSender_sourceAddress (i := j) uninit hholds (by omega) hsrc hnode
  obtain ⟨n, hn⟩ : ∃ n, nw.pduSize = n + 1 := ⟨nw.pduSize - 1, by rw [hform.pduSize]; omega⟩
  obtain ⟨k, hbytes, hreceive⟩ := receiveNpdu_eq uninit hfrom (by rw [hdomain]) hsrc hnode hlen
    (hreach.hears hdest) (by omega)
  obtain ⟨p, hp, hpsrc, hppriority, hptype, hpsize, hpversion, hpdu⟩ :=
    toList_receiveTsa_priority rp (NetworkStackData.sourceAddress uninit j
      ((s.eep.domainTable i).id.toList.take (s.eep.domainTable i).idLength) rp.npdu) k htrip.room
      htrip.fits
  have hdata : n ≤ nw.pdu.data.length := by
    obtain ⟨rest, hdata⟩ := hform.data
    have := hform.pduSize
    rw [hdata, List.length_append, List.length_append, hform.length_low]
    omega
  rw [hn, NWSendParam.bytes, hn] at hbytes
  obtain ⟨hhdr, hrest⟩ := bytesAt_cons_eq hbytes hdata
  rw [hn, Nat.add_sub_cancel, hrest] at hpdu
  refine ⟨p, ⟨?_, ?_, ?_, ?_, ?_, ?_, ?_⟩, ?_⟩
  · rwa [hpsrc]
  · rw [hppriority, hpriority]
  · rw [hptype, hfrom.pduType]
  · rw [hpsize]
  · rw [hpdu]
    exact hhdr
  · rw [hpversion, hfrom.protocolVersion]
  · rw [hpdu, hn, Nat.add_sub_cancel, List.take_take, Nat.min_self]
  · simp only [NetworkStackData.Admits, NetworkStackData.networkLayerReceive, hpeek, hreceive,
      if_neg htype, hn]
    rw [← hn]
    exact hp

structure ProtocolStackData.Waits (b : Bool) (gp gp' : ProtocolStackData) : Prop where
  transaction : (gp'.xmitRec b).transaction = (gp.xmitRec b).transaction
  transCtrl : gp'.transCtrl b = gp.transCtrl b
  message : (gp.tsaOutQ b).Grows b (gp'.tsaOutQ b)

theorem Queue.Grows.trans {b : Bool} {q q' q'' : Queue TSASendParam} (h : q.Grows b q')
    (h' : q'.Grows b q'') : q.Grows b q'' := by
  obtain ⟨more, hmore, heq⟩ := h.messages
  obtain ⟨more', hmore', heq'⟩ := h'.messages
  refine ⟨h'.headIndex.trans h.headIndex, more ++ more', ?_, by rw [heq', heq, List.append_assoc]⟩
  rw [List.forall_mem_append]
  exact ⟨hmore, hmore'⟩

theorem ProtocolStackData.Waits.step {b : Bool} {h : CallHistory} {gp₀ gp : ProtocolStackData}
    {c : Call} (hw : gp₀.Waits b gp) (hg : c.Guard h gp) (hover : c.overwritesStatus gp = false)
    (hm : gp.QueuesMarked) (hc : c.transacts b = false) : gp₀.Waits b (c.apply gp) := by
  have hstep := sendStep hg hover hm b
  generalize c.apply gp = gp' at hstep ⊢
  generalize hx : gp'.xmitRec b = x, hctrl : gp'.transCtrl b = ctrl, hq : gp'.tsaOutQ b = q at hstep
  cases hstep with
  | kept _ hx' hq' =>
    exact ⟨by rw [hx, hx', hw.transaction], by rw [hctrl, hw.transCtrl], hq ▸ hw.message.trans hq'⟩
  | responseTaken _ hb => simp [Call.transacts, hb] at hc
  | _ => simp [Call.transacts] at hc

theorem Reaches.waits {g₀ gp gp' : ProtocolStackData} {h₁ h₂ : CallHistory} {c : Call} {b : Bool}
    (hrun : Reaches g₀ (h₂ ++ (gp, c) :: h₁) gp') (hinit : g₀.PowerUp)
    (hover : ∀ x ∈ h₂ ++ (gp, c) :: h₁, x.2.overruns x.1 = false)
    (hquiet : ∀ x ∈ h₂, x.2.transacts b = false) : (c.apply gp).Waits b gp' := by
  have hinv := hrun.invariant_of_forall
    (I := fun h g => g.QueuesMarked ∧ ∀ h₂, h = h₂ ++ (gp, c) :: h₁ →
      (∀ x ∈ h₂, x.2.transacts b = false) → (c.apply gp).Waits b g) hover
    ⟨fun b m hm => by simp [hinit.messages b] at hm, fun h₂ heq => by simp at heq⟩ (by
      rintro h g c' hg hover ⟨hm, ih⟩
      refine ⟨queuesMarked_step hg hm, fun h₂ heq hquiet => ?_⟩
      cases h₂ with
      | nil =>
        obtain ⟨⟨rfl, rfl⟩, rfl⟩ : (g = gp ∧ c' = c) ∧ h = h₁ := by simpa using heq
        exact ⟨rfl, rfl, .refl⟩
      | cons x h₂ =>
        obtain ⟨rfl, rfl⟩ := List.cons.inj heq
        rw [List.forall_mem_cons] at hquiet
        exact (ih h₂ rfl hquiet.2).step hg (Call.not_overruns_iff.mp hover).2 hm hquiet.1)
  exact hinv.1.2 h₂ rfl hquiet

theorem TransmitRecord.isTspdu_firstPdu_ackd (x : TransmitRecord) {p : TSASendParam}
    {bytes : List UInt8} {slot : NWSendParam} (hservice : p.service = .acknowledged)
    (hsize : x.apduSize = bytes.length) :
    (x.firstPdu p .transport bytes slot).IsTspdu x.version x.transNum p.auth Pdu.ACKD_MSG
      (transNumLo x.version x.transNum) bytes where
  version := rfl
  pduSize := by
    simp only [firstPdu, hsize]
    omega
  hdr := by simp [firstPdu, hservice, Pdu.store]
  length_low := length_transNumLo _ _
  data := by
    simp only [firstPdu, Pdu.store, storeBytes, List.append_assoc]
    exact ⟨_, rfl⟩

namespace ProtocolStackData

structure StartsAckd (gp gp' : ProtocolStackData) (b : Bool) (sent : TSASendParam) (dmn : Domain)
    (a : SubnetNode) (nw : NWSendParam) : Prop where
  isTspdu : nw.IsTspdu (gp'.xmitRec b).version (gp'.xmitRec b).transNum sent.auth Pdu.ACKD_MSG
    (transNumLo (gp'.xmitRec b).version (gp'.xmitRec b).transNum) sent.apdu
  destAddr : nw.destAddr = ⟨dmn, .subnetNode a⟩
  pduType : nw.pduType = .tpdu
  transNum : (gp'.transCtrl b).validateTrans (gp'.xmitRec b).transNum = true
  status : (gp'.xmitRec b).status = .transport
  nwDestAddr : (gp'.xmitRec b).nwDestAddr = ⟨dmn, .subnetNode a⟩
  destCount : (gp'.xmitRec b).destCount = 1
  ackCount : (gp'.xmitRec b).ackCount = 0
  message : (gp.tsaOutQ b).Grows b (gp'.tsaOutQ b)

theorem startsAckd {gp : ProtocolStackData} {b : Bool} {sent : TSASendParam} {dmn : Domain}
    {a : SubnetNode} {rptTimer : Nat} {nw : NWSendParam} (hservice : sent.service = .acknowledged)
    (hp : (gp.tsaOutQ b).peek = some sent)
    (h : nw ∈ (gp.nwOutQ b).added
      ((gp.startTrans .transport b sent ⟨dmn, .subnetNode a⟩ rptTimer).nwOutQ b)) :
    gp.StartsAckd (gp.startTrans .transport b sent ⟨dmn, .subnetNode a⟩ rptTimer) b sent dmn a
      nw := by
  have hdest : sent.forDest ⟨dmn, .subnetNode a⟩ = sent :=
    if_neg (by simp [DestinationAddress.addressMode, NetAddr.addressMode])
  simp only [startTrans, hdest] at h ⊢
  split at h
  case isTrue => simp [modifyTsaOut, Queue.added_self] at h
  case isFalse hcode =>
    rw [if_neg hcode]
    rw [ne_eq, Decidable.not_not, TransCtrl.newTrans_granted_iff] at hcode
    have hprogress : ((gp.modifyTsaOut b fun q => q.fillHead sent).inheritTrans sent
        (TransCtrl.newTrans gp.eep gp.tickCount ⟨dmn, .subnetNode a⟩ (gp.transCtrl b)).2).inProgress
          = true := by
      simp only [inheritTrans]
      split <;> exact hcode.2
    simp only [pushNw, Function.update_self] at h
    rw [Queue.eq_of_mem_added_push h]
    constructor
    case isTspdu =>
      simp only [Function.update_self, TSASendParam.apduSize, bytesAt_self]
      exact TransmitRecord.isTspdu_firstPdu_ackd _ hservice rfl
    case transNum =>
      simp only [TransCtrl.validateTrans, newXmitRec, Function.update_self, beq_self_eq_true,
        Bool.and_true]
      exact hprogress
    case destAddr | pduType | status | nwDestAddr | destCount | ackCount =>
      simp [newXmitRec, TransmitRecord.firstPdu, TransmitRecord.destCountFor, Layer.pduType,
        Layer.txStatus, DestinationAddress.addressMode, NetAddr.addressMode]
    case message =>
      have hgrows : (gp.tsaOutQ b).Grows b
          ((gp.modifyTsaOut b fun q => q.fillHead sent).tsaOutQ b) := by
        simp only [modifyTsaOut, Function.update_self]
        exact .fillHead hp rfl
      exact hgrows

end ProtocolStackData

def Passes (eep eep' : Eeprom) (b : Bool) (nw : NWSendParam) (p : TSAReceiveParam) : Prop :=
  ∃ s r uninit, s.eep = eep ∧ r.eep = eep' ∧ Trip b nw s r ∧ r.Admits uninit p

theorem Passes.isArrival {eep eep' : Eeprom} {b auth : Bool} {nw : NWSendParam} {i j v num : Nat}
    {pduMsgType : UInt8} {low bytes : List UInt8} {p : TSAReceiveParam} (h : Passes eep eep' b nw p)
    (hreach : eep.CanReach eep' i j) (hdmn : nw.destAddr.dmn.domainIndex = i)
    (hdest : nw.destAddr.addr.Names eep' j) (htype : nw.pduType = .tpdu)
    (hform : nw.IsTspdu v num auth pduMsgType low bytes) :
    p.IsArrival b nw j (eep.domainTable i) := by
  obtain ⟨s, r, uninit, rfl, rfl, htrip, hp⟩ := h
  obtain ⟨p', harrival, hp'⟩ := tspdu_arrives uninit htrip hreach hdmn hdest
    (by rw [htype]; decide) hform
  rw [NetworkStackData.Admits, hp', List.append_cancel_left_eq, List.cons.injEq] at hp
  exact hp.1 ▸ harrival

theorem Pdu.auth_tspduHdr {pduMsgType : UInt8} (htype : pduMsgType < 8) (auth : Bool) (n : Nat)
    (data : List UInt8) : (Pdu.mk (tspduHdr auth pduMsgType n) data).auth = auth := by
  have hall : ∀ (auth : Bool) (t : Fin 8) (k : Fin 16),
      (Pdu.mk (tspduHdr auth (UInt8.ofNat t) k) []).auth = auth := by decide
  have hfields : tspduHdr auth pduMsgType n =
      tspduHdr auth (UInt8.ofNat pduMsgType.toNat) (n % 16) := by
    rw [tspduHdr, tspduHdr, Nat.mod_mod, UInt8.ofNat_toNat]
  rw [hfields]
  exact hall auth ⟨pduMsgType.toNat, UInt8.lt_iff_toNat_lt.mp htype⟩
    ⟨n % 16, Nat.mod_lt _ (by decide)⟩

structure Eeprom.Peers (eep eep' : Eeprom) (i j : Nat) : Prop where
  there : eep.CanReach eep' i j
  back : eep'.CanReach eep j i
  nonClone : (eep.domainTable i).nodeClone &&& 0x80 ≠ 0

/-- An acknowledged message from one node to another. The sender starts the transaction in state
`gs` and polls its transport layer in state `gs'`, when the acknowledgement has come; the receiver
polls its transport layer in state `gr`, when the message has come. Each of the two PDUs, `message`
and `ack`, passes once, and the sender counts no other answer. -/
structure AckExchange where
  eep : Eeprom
  eep' : Eeprom
  i : Nat
  j : Nat
  peers : eep.Peers eep' i j
  b : Bool
  sent : TSASendParam
  dmn : Domain
  a : SubnetNode
  rptTimer : Nat
  service : sent.service = .acknowledged
  unauthenticated : sent.auth = false
  domainIndex : dmn.domainIndex = i
  names : a.Names (eep'.domainTable j)
  gs : ProtocolStackData
  started : ProtocolStackData
  started_eq : started = gs.startTrans .transport b sent ⟨dmn, .subnetNode a⟩ rptTimer
  message : NWSendParam
  starts : message ∈ (gs.nwOutQ b).added (started.nwOutQ b)
  transNum : (started.xmitRec b).transNum < transNumBound (started.xmitRec b).version
  gr : ProtocolStackData
  received : TSAReceiveParam
  passes : Passes eep eep' b message received
  head : gr.tsaInQ.peek = some received
  k : Fin RECEIVE_TRANS_COUNT
  fresh : (gr.releaseExpired .transport).retrieveRR received.srcAddr b = none
  free : (gr.releaseExpired .transport).allocateRR = some k
  appRoom : gr.appInQ.queueEntries + 1 < gr.appInQ.queueCapacity
  appSize : sent.apduSize ≤ gr.appInBufSize
  nwRoom : (gr.nwOutQ b).queueEntries + 1 < (gr.nwOutQ b).queueCapacity
  ack : NWSendParam
  answers : Sends gr (Tsa.transportLayerReceive.state Call.apply gr) b ack
  answer : TSAReceiveParam
  passesBack : Passes eep' eep b ack answer
  gs' : ProtocolStackData
  headBack : gs'.tsaInQ.peek = some answer
  ceRoom : gs'.appCeRspInQ.queueEntries + 1 < gs'.appCeRspInQ.queueCapacity
  g₀ : ProtocolStackData
  powerUp : g₀.PowerUp
  buffers : g₀.BuffersDecoded
  h₁ : CallHistory
  h₂ : CallHistory
  reaches : Reaches g₀
    (h₂ ++ (gs, .startTrans .transport b sent ⟨dmn, .subnetNode a⟩ rptTimer) :: h₁) gs'
  kept : ∀ x ∈ h₂ ++ (gs, .startTrans .transport b sent ⟨dmn, .subnetNode a⟩ rptTimer) :: h₁,
    x.2.overruns x.1 = false
  quiet : ∀ x ∈ h₂, x.2.transacts b = false

namespace AckExchange

variable (x : AckExchange)

def delivered : ProtocolStackData := Tsa.transportLayerReceive.state Call.apply x.gr

def completed : ProtocolStackData := Tsa.transportLayerReceive.state Call.apply x.gs'

theorem guard : (Call.startTrans .transport x.b x.sent ⟨x.dmn, .subnetNode x.a⟩ x.rptTimer).Guard
    x.h₁ x.gs ∧ x.sent.apduSize < 255 := by
  obtain ⟨hg, hfits⟩ := (x.reaches.fits x.powerUp x.buffers).split rfl
  have hrejected := hg.2.2.2
  simp only [TSASendParam.rejected, Bool.or_eq_false_iff, decide_eq_false_iff_not, Nat.not_lt]
    at hrejected
  have := hrejected.2
  have := (hfits x.b).1
  exact ⟨hg, by omega⟩

theorem startsAckd : x.gs.StartsAckd x.started x.b x.sent x.dmn x.a x.message := by
  have hstarts := x.starts
  rw [x.started_eq] at hstarts ⊢
  exact ProtocolStackData.startsAckd x.service x.guard.1.2.1 hstarts

theorem isArrival : x.received.IsArrival x.b x.message x.j (x.eep.domainTable x.i) :=
  x.passes.isArrival x.peers.there (by rw [x.startsAckd.destAddr]; exact x.domainIndex)
    (by rw [x.startsAckd.destAddr]; exact x.names) x.startsAckd.pduType x.startsAckd.isTspdu

theorem pduMsgType : x.received.pdu.pduMsgType = Pdu.ACKD_MSG :=
  (x.isArrival.carries.tspdu_fields x.startsAckd.isTspdu (by decide)).1

theorem decodes : x.received.transNum = (x.started.xmitRec x.b).transNum ∧
    x.received.newMsgApdu = x.sent.apdu := by
  have hsize : x.sent.apdu.length < 255 := x.guard.2
  have hdecodes := (x.isArrival.carries.decodes_iff_of_message x.isArrival.pduSize
    x.startsAckd.isTspdu (by decide) (by omega)).mpr ⟨x.transNum, rfl⟩
  rwa [TSAReceiveParam.Decodes, TSAReceiveParam.messageApdu, if_neg (by rw [x.pduMsgType]; decide)]
    at hdecodes

theorem welcomes : x.gr.Welcomes x.received x.k where
  head := x.head
  pduType := x.isArrival.pduType.trans x.startsAckd.pduType
  pduSize := by
    rw [x.isArrival.pduSize, x.startsAckd.isTspdu.pduSize]
    omega
  pduMsgType := x.pduMsgType
  fresh := by
    rw [x.isArrival.priority]
    exact x.fresh
  free := x.free
  unauthenticated := by
    have hauth : x.received.pdu.auth = x.sent.auth := by
      rw [← Pdu.auth_tspduHdr (by decide : Pdu.ACKD_MSG < 8) x.sent.auth, ← x.startsAckd.isTspdu.hdr,
        ← x.isArrival.carries.hdr]
    rw [hauth, x.unauthenticated, Bool.and_false]
  unicast := by
    rw [x.isArrival.srcAddr.addressMode, x.startsAckd.destAddr]
    simp [NetAddr.addressMode]
  appRoom := x.appRoom
  appSize := by
    rw [x.decodes.2]
    exact x.appSize
  nwRoom := by
    rw [x.isArrival.priority]
    exact x.nwRoom

theorem priority : x.received.priority = x.b := x.isArrival.priority

theorem answer_isArrival :
    x.answer.IsArrival x.b x.ack x.i (x.eep'.domainTable x.j) ∧
      x.answer.pdu.pduMsgType = Pdu.ACK_MSG ∧ x.answer.pduType = .tpdu ∧ 1 ≤ x.answer.pduSize ∧
      x.answer.transNum = (x.started.xmitRec x.b).transNum := by
  obtain ⟨nw, hsends, hform, hdest, htype⟩ := x.welcomes.acknowledges
  have hnw : nw = x.ack := by
    have hack := x.answers
    rw [x.priority] at hsends
    rw [Sends, hsends, List.append_cancel_left_eq, List.cons.injEq] at hack
    exact hack.1
  rw [hnw] at hform hdest htype
  have hsrc := x.isArrival.srcAddr
  have harrival : x.answer.IsArrival x.b x.ack x.i (x.eep'.domainTable x.j) :=
    x.passesBack.isArrival x.peers.back (by rw [hdest]; exact hsrc.domainIndex)
      (by
        rw [hdest]
        exact ⟨x.peers.nonClone, hsrc.subnet, hsrc.node⟩) htype hform
  refine ⟨harrival, (harrival.carries.tspdu_fields hform (by decide)).1,
    harrival.pduType.trans htype, ?_, ?_⟩
  · rw [harrival.pduSize, hform.pduSize]
    omega
  · rw [← x.decodes.1]
    exact (harrival.carries.tspdu_transNum_iff hform (by decide)).mpr
      ⟨Pdu.transNum_lt .., rfl⟩

theorem waits : x.started.Waits x.b x.gs' :=
  x.started_eq ▸ x.reaches.waits x.powerUp x.kept x.quiet

theorem awaitsAck : ∃ sent, sent.message = x.sent.message ∧
    x.gs'.AwaitsAck x.answer sent x.dmn x.a := by
  obtain ⟨harrival, hpduMsgType, hpduType, hpduSize, htransNum⟩ := x.answer_isArrival
  have hpriority := harrival.priority
  have hstarts := x.startsAckd
  have htransaction := x.waits.transaction
  obtain ⟨sent, hsent, hmessage⟩ := (hstarts.message.trans x.waits.message).peek x.guard.1.2.1
  refine ⟨sent, hmessage, ?_⟩
  constructor
  case head => exact x.headBack
  case pduType => exact hpduType
  case pduSize => exact hpduSize
  case pduMsgType => exact hpduMsgType
  case status =>
    rw [hpriority]
    exact (congrArg Transaction.status htransaction).trans hstarts.status
  case transNum =>
    rw [hpriority, x.waits.transCtrl, htransNum]
    exact hstarts.transNum
  case nwDestAddr =>
    rw [hpriority]
    exact (congrArg Transaction.nwDestAddr htransaction).trans hstarts.nwDestAddr
  case domainIndex => exact harrival.srcAddr.domainIndex.trans x.domainIndex.symm
  case subnet => exact harrival.srcAddr.subnet.trans x.names.subnet.symm
  case node => exact harrival.srcAddr.node.trans x.names.node.symm
  case destCount =>
    rw [hpriority]
    exact (congrArg Transaction.destCount htransaction).trans hstarts.destCount
  case ackCount =>
    rw [hpriority]
    exact (congrArg Transaction.ackCount htransaction).trans hstarts.ackCount
  case message =>
    rw [hpriority]
    exact hsent
  case marked =>
    rw [hpriority]
    exact (x.reaches.queuesMarked x.powerUp).1.peek hsent
  case room => exact x.ceRoom

end AckExchange

def sendingNode (node : UInt8) (nw : NWSendParam) : NetworkStackData :=
  { networkNode node 1 with nwOutQ := fun _ => (Queue.init default 3).push fun _ => nw }

def sentPacket (node : UInt8) (nw : NWSendParam) : LKSendParam :=
  ((sendingNode node nw).formNpdu nw).getD default

def receivingNode (node node' : UInt8) (nw : NWSendParam) : NetworkStackData :=
  { networkNode node' 1 with
    nwInQ := (Queue.init default 3).push fun _ =>
      { priority := true
        altPath := 0
        pduSize := (sentPacket node nw).pduSize
        npdu := (sentPacket node nw).npdu } }

def receivedPdu (node node' : UInt8) (nw : NWSendParam) : TSAReceiveParam :=
  ((receivingNode node node' nw).networkLayerReceive default).tsaInQ.toList.headD default

def priorityMessage : List Event :=
  [.env (.appSend true (messageTo (nodeAddress 2) .acknowledged 7 [0x10, 0x20])),
    .transportLayerSend]

def firstNode : ProtocolStackData := (networkNode 1 1).toProtocolStackData

def messagePdu : NWSendParam :=
  ((runEvents priorityMessage ([], firstNode)).2.nwOutQ true).toList.headD default

def secondNode : ProtocolStackData :=
  { (networkNode 2 1).toProtocolStackData with
    tsaInQ := (Queue.init default 3).push fun _ => receivedPdu 1 2 messagePdu }

def ackPdu : NWSendParam :=
  ((Tsa.transportLayerReceive.state Call.apply secondNode).nwOutQ true).toList.headD default

def acknowledgedMessage : List Event :=
  priorityMessage ++ [.env (.networkReceive (receivedPdu 2 1 ackPdu))]

def priorityMessageEntry : TSASendParam :=
  { messageTo (nodeAddress 2) .acknowledged 7 [0x10, 0x20] with priority := true }

def exchangeHistory : CallHistory := (runEvents acknowledgedMessage ([], firstNode)).1

def startState : ProtocolStackData := (exchangeHistory.getD 1 (firstNode, .dropTsaIn)).1

theorem startCall : exchangeHistory = [exchangeHistory.getD 0 (firstNode, .dropTsaIn)] ++
  (startState, .startTrans .transport true priorityMessageEntry ⟨default, .subnetNode ⟨1, 0x82⟩⟩ 16)
    :: [exchangeHistory.getD 2 (firstNode, .dropTsaIn)] := by
  rfl

theorem passes_receivingNode {node node' : UInt8} {nw : NWSendParam}
    (hsends : (sendingNode node nw).SendsNpdu true nw (sentPacket node nw))
    (hfits : nw.pduSize ≤ 50)
    (hq : ((receivingNode node node' nw).networkLayerReceive default).tsaInQ.toList =
      [receivedPdu node node' nw]) :
    Passes (networkNode node 1).eep (networkNode node' 1).eep true nw (receivedPdu node node' nw) :=
  ⟨sendingNode node nw, receivingNode node node' nw, default, rfl, rfl,
    ⟨⟨sentPacket node nw, _, hsends, ⟨rfl, rfl, [], (List.append_nil _).symm⟩, rfl, rfl⟩,
      (by decide : 0 + 1 < 3), hfits⟩, hq⟩

theorem peers_networkNode : (networkNode 1 1).eep.Peers (networkNode 2 1).eep 0 0 where
  there := ⟨by decide, by decide, by decide, ⟨by decide, rfl, rfl⟩, .inl rfl, fun _ _ => by decide⟩
  back := ⟨by decide, by decide, by decide, ⟨by decide, rfl, rfl⟩, .inl rfl, fun _ _ => by decide⟩
  nonClone := by decide

end LonStack
