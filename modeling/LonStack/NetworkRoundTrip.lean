import LonStack.NetworkLaws
import LonStack.Tsa.System

namespace LonStack

structure IzotDomain.Same (d d' : IzotDomain) : Prop where
  valid : d'.invalid = false
  idLength : d'.idLength = d.idLength
  id : d'.id.toList.take d.idLength = d.id.toList.take d.idLength

structure SubnetNode.Names (a : SubnetNode) (d : IzotDomain) : Prop where
  nonClone : d.nodeClone &&& 0x80 ≠ 0
  subnet : a.subnet = d.subnet
  node : a.nodeId = d.node

def NetAddr.Names (eep : Eeprom) (i : Nat) : NetAddr → Prop
  | .broadcast subnet => subnet = 0 ∨ subnet = (eep.domainTable i).subnet
  | .multicast group => (eep.isGroupMember i group).isSome = true
  | .subnetNode a => a.Names (eep.domainTable i)
  | .multicastAck a =>
    a.subnetAddr.Names (eep.domainTable i) ∧ (eep.isGroupMember i a.groupId).isSome = true
  | .uniqueNodeId _ id => id = eep.uniqueNodeId
  | .unbound => False

/-- The address is one of the node in entry `i` of its domain table, or of another one with the same
subnet and node number, if these tell nodes apart. -/
def NetAddr.Denotes (eep : Eeprom) (i : Nat) : NetAddr → Prop
  | .subnetNode a =>
    a.subnet = (eep.domainTable i).subnet ∧ a.nodeId = (eep.domainTable i).node
  | .multicastAck a =>
    (a.subnetAddr.subnet = (eep.domainTable i).subnet ∧
      a.subnetAddr.nodeId = (eep.domainTable i).node) ∧
        (eep.isGroupMember i a.groupId).isSome = true
  | dest => dest.Names eep i

def NetAddr.namesNode : NetAddr → Bool
  | .subnetNode _ | .multicastAck _ => true
  | _ => false

structure NetworkStackData.InDomain (r : NetworkStackData) (i : Nat) (d : IzotDomain) : Prop where
  configured : r.eep.nodeConfigured = true
  domain : d.Same (r.eep.domainTable i)
  index : i = 0 ∨ i = 1 ∧ r.eep.twoDomains = true ∧ ¬d.Same (r.eep.domainTable 0)
  notSender : i = 0 → d.subnet = (r.eep.domainTable 0).subnet → d.node ≠ (r.eep.domainTable 0).node

structure NetworkStackData.Hears (r : NetworkStackData) (i : Nat) (d : IzotDomain)
    (dest : NetAddr) : Prop extends r.InDomain i d where
  addressed : dest.Names r.eep i

theorem NetAddr.Denotes.names {eep : Eeprom} {i : Nat} {dest : NetAddr} (h : dest.Denotes eep i)
    (hclone : dest.namesNode = true → (eep.domainTable i).nodeClone &&& 0x80 ≠ 0) :
    dest.Names eep i := by
  cases dest with
  | subnetNode a => exact ⟨hclone rfl, h.1, h.2⟩
  | multicastAck a => exact ⟨⟨hclone rfl, h.1.1, h.1.2⟩, h.2⟩
  | broadcast | multicast | uniqueNodeId | unbound => exact h

namespace NetworkStackData

variable {s r : NetworkStackData} {d : IzotDomain} {dest : NetAddr} {i : Nat}

theorem isDomain_iff (hlen : d.idLength ≤ 6) :
    r.isDomain i (d.id.toList.take d.idLength) = true ↔ d.Same (r.eep.domainTable i) := by
  have hlength : (d.id.toList.take d.idLength).length = d.idLength := by simpa using hlen
  simp only [isDomain, hlength, Bool.and_eq_true, Bool.not_eq_true', beq_iff_eq]
  constructor
  · rintro ⟨⟨hvalid, hidLength⟩, hid⟩
    exact ⟨hvalid, hidLength.symm, hid.symm⟩
  · rintro ⟨hvalid, hidLength, hid⟩
    exact ⟨⟨hvalid, hidLength.symm⟩, hid.symm⟩

theorem Hears.domainIndexOf (h : r.Hears i d dest) (hlen : d.idLength ≤ 6) :
    r.domainIndexOf (d.id.toList.take d.idLength) = i := by
  have hi : r.isDomain i (d.id.toList.take d.idLength) = true := (isDomain_iff hlen).mpr h.domain
  rw [NetworkStackData.domainIndexOf, h.configured]
  rcases h.index with rfl | ⟨rfl, htwo, hfirst⟩
  · simp [hi]
  · have h₀ : r.isDomain 0 (d.id.toList.take d.idLength) = false := by
      rw [← Bool.not_eq_true, isDomain_iff hlen]
      exact hfirst
    simp [hi, htwo, h₀]

theorem isOwnAddr_setSelField {a : SubnetNode} (h : a.Names (r.eep.domainTable i)) :
    r.isOwnAddr i (a.setSelField true) = true := by
  have hnode := SubnetNode.setSelField_true h.nonClone h.node
  rw [isOwnAddr, SubnetNode.setSelField, if_pos rfl, hnode, h.subnet]
  exact beq_self_eq_true _

theorem isForDomain_inNpdu (h : dest.Names r.eep i) : r.isForDomain i dest.inNpdu = true := by
  cases dest with
  | broadcast subnet =>
    have hsubnet : subnet = 0 ∨ subnet = (r.eep.domainTable i).subnet := h
    simpa [isForDomain, NetAddr.inNpdu] using hsubnet
  | multicast group => exact h
  | subnetNode a => exact isOwnAddr_setSelField h
  | multicastAck a =>
    simp only [NetAddr.inNpdu, isForDomain, Bool.and_eq_true]
    exact ⟨isOwnAddr_setSelField h.1, h.2⟩
  | uniqueNodeId subnet id => rfl
  | unbound => exact h.elim

theorem isForUniqueId_inNpdu (h : dest.Names r.eep i) : r.isForUniqueId dest.inNpdu = true := by
  cases dest with
  | uniqueNodeId subnet id =>
    obtain rfl : id = r.eep.uniqueNodeId := h
    exact beq_self_eq_true _
  | broadcast | multicast | subnetNode | multicastAck | unbound => rfl

theorem Hears.accepts {src : SubnetNode} (h : r.Hears i d dest) (hsubnet : src.subnet = d.subnet)
    (hnode : src.nodeId = d.node) : r.accepts i src dest.inNpdu = true := by
  have hown : r.isOwnAddr i src = false ∨ i = 1 := by
    rcases h.index with rfl | ⟨rfl, -, -⟩
    · left
      rw [← Bool.not_eq_true]
      intro hsrc
      obtain rfl := eq_of_beq hsrc
      exact h.notSender rfl hsubnet.symm hnode.symm
    · exact .inr rfl
  have hflex : i ≠ FLEX_DOMAIN := by
    rcases h.index with rfl | ⟨rfl, -, -⟩ <;> decide
  simp only [NetworkStackData.accepts, isForDomain_inNpdu h.addressed,
    isForUniqueId_inNpdu h.addressed, h.configured]
  simpa [hflex] using hown

end NetworkStackData

structure SourceAddress.IsSender (src : SourceAddress) (i : Nat) (d : IzotDomain) (dest : NetAddr) :
    Prop where
  subnet : src.subnetAddr.subnet = d.subnet
  node : src.subnetAddr.nodeId = d.node
  addressMode : src.addressMode = dest.addressMode
  domainIndex : src.dmn.domainIndex = i
  domainLen : src.dmn.domainLen = d.idLength
  domainId : src.dmn.domainId.toList.take d.idLength = d.id.toList.take d.idLength
  broadcastSubnet : ∀ subnet, dest = .broadcast subnet → src.broadcastSubnet = subnet
  group : ∀ group, dest = .multicast group → src.group = group
  ackNode : ∀ a, dest = .multicastAck a →
    src.ackNode = { a with subnetAddr := a.subnetAddr.setSelField true }

def TSAReceiveParam.bytes (p : TSAReceiveParam) : List UInt8 :=
  bytesAt (p.pdu.hdr :: p.pdu.data) 0 p.pduSize

structure TSAReceiveParam.Brings (p : TSAReceiveParam) (nw : NWSendParam) (i : Nat)
    (d : IzotDomain) : Prop where
  srcAddr : p.srcAddr.IsSender i d nw.destAddr.addr
  pduType : p.pduType = nw.pduType
  version : p.version = nw.version
  pduSize : p.pduSize = nw.pduSize
  bytes : p.bytes = nw.bytes

structure APPReceiveParam.Brings (x : APPReceiveParam) (nw : NWSendParam) (i : Nat)
    (d : IzotDomain) : Prop where
  srcAddr : x.srcAddr.IsSender i d nw.destAddr.addr
  indication : x.indication = .message
  service : x.service = .unacknowledged
  pduSize : x.pduSize = nw.pduSize
  bytes : x.apdu = nw.bytes

def NetworkStackData.HasRoom (r : NetworkStackData) (nw : NWSendParam) : Prop :=
  if nw.pduType = .apdu then
    r.appInQ.queueEntries + 1 < r.appInQ.queueCapacity ∧ nw.pduSize ≤ r.appInBufSize
  else r.tsaInQ.queueEntries + 1 < r.tsaInQ.queueCapacity ∧ nw.pduSize ≤ r.tsaInBufSize

theorem isSender_sourceAddress {i : Nat} {d : IzotDomain}
    {dest : NetAddr} (uninit : SourceAddress) {src : SubnetNode} {pdu : List UInt8} {npdu : Npdu}
    (h : npdu.Holds src dest (d.id.toList.take d.idLength) pdu) (hlen : d.idLength ≤ 6)
    (hsubnet : src.subnet = d.subnet) (hnode : src.nodeId = d.node) :
    (NetworkStackData.sourceAddress uninit i (d.id.toList.take d.idLength) npdu).IsSender i d dest where
  subnet := by rw [NetworkStackData.sourceAddress, h.subnetAddr, hsubnet]
  node := by rw [NetworkStackData.sourceAddress, h.subnetAddr, hnode]
  addressMode := by simp [NetworkStackData.sourceAddress, h.destAddr]
  domainIndex := rfl
  domainLen := by simpa [NetworkStackData.sourceAddress] using hlen
  domainId := by
    apply List.ext_getElem
    · simp
    · intro k hk hk'
      have hk : k < d.idLength ∧ k < 6 := by simpa using hk
      simp [NetworkStackData.sourceAddress, hk]
  broadcastSubnet := by
    rintro subnet rfl
    simp [NetworkStackData.sourceAddress, h.destAddr, NetAddr.inNpdu]
  group := by
    rintro group rfl
    simp [NetworkStackData.sourceAddress, h.destAddr, NetAddr.inNpdu]
  ackNode := by
    rintro a rfl
    simp [NetworkStackData.sourceAddress, h.destAddr, NetAddr.inNpdu]

theorem NWSendParam.length_bytes (nw : NWSendParam) : nw.bytes.length = nw.pduSize :=
  length_bytesAt _ _ _

theorem receiveNpdu_eq {s r : NetworkStackData} {nw : NWSendParam} {rp : NWReceiveParam} {i : Nat}
    {d : IzotDomain} (uninit : SourceAddress) (h : rp.IsFrom s nw)
    (hdom : (s.sendDomain nw.destAddr.dmn).2 = d.id.toList.take d.idLength)
    (hsrc : (s.sendSource nw.destAddr).subnet = d.subnet)
    (hnode : (s.sendSource nw.destAddr).nodeId = d.node)
    (hlen : d.idLength = 0 ∨ d.idLength = 1 ∨ d.idLength = 3)
    (hears : r.Hears i d nw.destAddr.addr) (hpos : 0 < nw.pduSize) :
    ∃ j,
      bytesAt rp.npdu.data j nw.pduSize = nw.bytes ∧
      r.receiveNpdu uninit rp =
        if nw.pduType = .apdu then
          r.receiveApdu rp (NetworkStackData.sourceAddress uninit i (d.id.toList.take d.idLength) rp.npdu) j nw.pduSize
        else
          r.receiveTsa rp (NetworkStackData.sourceAddress uninit i (d.id.toList.take d.idLength) rp.npdu) j
            nw.pduSize := by
  have hle : d.idLength ≤ 6 := by omega
  have hholds := h.holds
  have hlength := h.domainLength
  have hsize := h.pduSize
  rw [hdom] at hholds hlength hsize
  refine ⟨nw.destAddr.addr.domainAt + (d.id.toList.take d.idLength).length, ?_, ?_⟩
  · rw [← nw.length_bytes]
    exact hholds.pdu_eq
  · have hid : (d.id.toList.take d.idLength).length = d.idLength := by simpa using hle
    have hvalid : ¬((d.id.toList.take d.idLength).length ≠ 0 ∧
        (d.id.toList.take d.idLength).length ≠ 1 ∧ (d.id.toList.take d.idLength).length ≠ 3) := by
      omega
    simp only [NetworkStackData.receiveNpdu, hholds.destAddr, hlength, NetAddr.domainAt_inNpdu,
      hholds.domainId_eq, hears.domainIndexOf hle, hholds.subnetAddr, hears.accepts hsrc hnode,
      h.pduType, hsize]
    rw [if_neg hvalid, if_neg (by simp), if_neg (by omega)]
    congr 2 <;> omega

theorem bytesAt_split (data : List UInt8) (j : Nat) {n : Nat} (hn : 0 < n) :
    bytesAt (data.getD j 0 :: bytesAt data (j + 1) (n - 1)) 0 n = bytesAt data j n := by
  obtain ⟨m, rfl⟩ : ∃ m, n = m + 1 := ⟨n - 1, by omega⟩
  have hself := bytesAt_self (data.getD j 0 :: bytesAt data (j + 1) m)
  rw [List.length_cons, length_bytesAt] at hself
  rw [Nat.add_sub_cancel, hself, Nat.add_comm m 1, bytesAt_add]
  rfl

theorem toList_receiveApdu {r : NetworkStackData} (rp : NWReceiveParam) (srcAddr : SourceAddress)
    (j : Nat) {pduSize : Nat} (hroom : r.appInQ.queueEntries + 1 < r.appInQ.queueCapacity)
    (hsize : pduSize ≤ r.appInBufSize) :
    ∃ x : APPReceiveParam,
      (r.receiveApdu rp srcAddr j pduSize).appInQ.toList = r.appInQ.toList ++ [x] ∧
      x.srcAddr = srcAddr ∧ x.indication = .message ∧ x.service = .unacknowledged ∧
      x.pduSize = pduSize ∧ x.apdu = bytesAt rp.npdu.data j pduSize := by
  have hfull : r.appInQ.full = false := by
    rw [Queue.full_eq_false_iff]
    omega
  have hfits : ¬(r.appInQ.full = true ∨ r.appInBufSize < pduSize) := by
    rw [hfull]
    simpa using hsize
  rw [NetworkStackData.receiveApdu, if_neg hfits]
  exact ⟨_, by rw [Queue.toList_push, if_pos hroom], rfl, rfl, rfl, rfl, rfl⟩

theorem toList_receiveTsa {r : NetworkStackData} (rp : NWReceiveParam) (srcAddr : SourceAddress)
    (j : Nat) {pduSize : Nat} (hroom : r.tsaInQ.queueEntries + 1 < r.tsaInQ.queueCapacity)
    (hsize : pduSize ≤ r.tsaInBufSize) (hpos : 0 < pduSize) :
    ∃ p : TSAReceiveParam,
      (r.receiveTsa rp srcAddr j pduSize).tsaInQ.toList = r.tsaInQ.toList ++ [p] ∧
      p.srcAddr = srcAddr ∧ p.pduType = rp.npdu.pduType ∧ p.version = rp.npdu.protocolVersion ∧
      p.pduSize = pduSize ∧ p.bytes = bytesAt rp.npdu.data j pduSize := by
  have hfull : r.tsaInQ.full = false := by
    rw [Queue.full_eq_false_iff]
    omega
  have hfits : ¬(r.tsaInQ.full = true ∨ r.tsaInBufSize < pduSize) := by
    rw [hfull]
    simpa using hsize
  rw [NetworkStackData.receiveTsa, if_neg hfits]
  refine ⟨_, by rw [Queue.toList_push, if_pos hroom], rfl, rfl, rfl, rfl, ?_⟩
  exact bytesAt_split rp.npdu.data j hpos

/-- The PDU that a node sends in one of its domains is passed up, with the bytes, the type and the
version it was sent with, by each other node of the domain that it is addressed to and that is no
clone if it is addressed by its number. -/
theorem npdu_passed_up {s r : NetworkStackData} {b : Bool} {nw : NWSendParam} {lk : LKSendParam}
    {rp : NWReceiveParam} {i : Nat} {d : IzotDomain} (uninit : SourceAddress)
    (hsends : s.SendsNpdu b nw lk) (hv : nw.version < 4)
    (hown : nw.destAddr.dmn.domainIndex < s.eep.numDomains)
    (hd : s.eep.domainTable nw.destAddr.dmn.domainIndex = d) (hlen : d.idLength ≠ 6)
    (hpos : 0 < nw.pduSize) (hcarries : rp.Carries lk) (hpeek : r.nwInQ.peek = some rp)
    (hdomain : r.InDomain i d) (haddressed : nw.destAddr.addr.Denotes r.eep i)
    (hclone : nw.destAddr.addr.namesNode = true →
      (r.eep.domainTable i).nodeClone &&& 0x80 ≠ 0) (hroom : r.HasRoom nw) :
    (nw.pduType = .apdu →
      ∃ x : APPReceiveParam, x.Brings nw i d ∧
        (r.networkLayerReceive uninit).appInQ.toList = r.appInQ.toList ++ [x]) ∧
    (nw.pduType ≠ .apdu →
      ∃ p : TSAReceiveParam, p.Brings nw i d ∧
        (r.networkLayerReceive uninit).tsaInQ.toList = r.tsaInQ.toList ++ [p]) := by
  have hears : r.Hears i d nw.destAddr.addr := ⟨hdomain, haddressed.names hclone⟩
  have hform := hsends.formNpdu
  have hdomain : s.sendDomain nw.destAddr.dmn = (d.idLength, d.id.toList.take d.idLength) := by
    simp only [NetworkStackData.sendDomain, if_pos hown, hd]
  have hlen' : d.idLength = 0 ∨ d.idLength = 1 ∨ d.idLength = 3 := by
    obtain ⟨-, _, -, hencode, -⟩ := NetworkStackData.formNpdu_spec hform
    rw [hdomain] at hencode
    by_contra hother
    have : encodeDomainLength d.idLength = none := by
      unfold encodeDomainLength
      simp only [not_or] at hother
      rw [if_neg hother.1, if_neg hother.2.1, if_neg hother.2.2, if_neg hlen]
    simp [this] at hencode
  have hsrc : (s.sendSource nw.destAddr).subnet = d.subnet := by
    simp only [NetworkStackData.sendSource, if_pos hown, hd, SubnetNode.setSelField]
  have hnode : (s.sendSource nw.destAddr).nodeId = d.node := by
    simp only [NetworkStackData.sendSource, if_pos hown, hd, SubnetNode.nodeId_setSelField]
    simp [SubnetNode.nodeId, IzotDomain.node, UInt8.and_assoc]
  have hfrom := hcarries.isFrom hform hv hown
  have hholds := hfrom.holds
  rw [hdomain] at hholds
  have hsender := isSender_sourceAddress (i := i) uninit hholds (by omega) hsrc hnode
  obtain ⟨j, hbytes, hreceive⟩ := receiveNpdu_eq uninit hfrom (by rw [hdomain]) hsrc hnode hlen'
    hears hpos
  simp only [NetworkStackData.networkLayerReceive, hpeek, hreceive]
  generalize NetworkStackData.sourceAddress uninit i _ rp.npdu = srcAddr at hsender
  constructor
  · intro htype
    rw [NetworkStackData.HasRoom, if_pos htype] at hroom
    obtain ⟨x, hx, rfl, hind, hservice, hsize, hapdu⟩ :=
      toList_receiveApdu rp srcAddr j hroom.1 hroom.2
    rw [if_pos htype]
    exact ⟨x, ⟨hsender, hind, hservice, hsize, hapdu.trans hbytes⟩, hx⟩
  · intro htype
    rw [NetworkStackData.HasRoom, if_neg htype] at hroom
    obtain ⟨p, hp, rfl, hptype, hversion, hsize, hpdu⟩ :=
      toList_receiveTsa rp srcAddr j hroom.1 hroom.2 hpos
    rw [if_neg htype]
    exact ⟨p, ⟨hsender, hptype.trans hfrom.pduType, hversion.trans hfrom.protocolVersion, hsize,
      hpdu.trans hbytes⟩, hp⟩

def networkDomain (node idLength : UInt8) : IzotDomain where
  id := #v[1, 2, 3, 4, 5, 6]
  subnet := 1
  nodeClone := 0x80 ||| node
  invalidIdLength := idLength
  key := default

def networkNode (node idLength : UInt8) : NetworkStackData where
  toProtocolStackData :=
    .reset
      { (default : Eeprom) with
        domainTable := fun _ => networkDomain node idLength
        nodeState := 4 }
      3 50
  nwInQ := .init default 3
  lkOutQ := fun _ => .init default 3
  tsaInBufSize := 50
  nmAuth := false
  log := default

def waitingPdu : NWSendParam where
  destAddr := ⟨⟨0, 0, default⟩, .subnetNode ⟨1, 2⟩⟩
  pduType := .tpdu
  tag := 0
  deltaBL := 1
  altPath := 0
  pduSize := 3
  dropIfUnconfigured := true
  proxy := false
  version := LsProtocolModeEnhanced
  pdu := ⟨0x01, [0x02, 0x03]⟩

def networkSender (idLength : UInt8) : NetworkStackData :=
  { networkNode 1 idLength with
    nwOutQ := fun _ => (Queue.init default 3).push fun _ => waitingPdu }

def sentNpdu (idLength : UInt8) : LKSendParam :=
  ((networkSender idLength).formNpdu waitingPdu).getD default

def receivedNpdu (idLength : UInt8) : NWReceiveParam where
  priority := true
  altPath := 0
  pduSize := (sentNpdu idLength).pduSize
  npdu := (sentNpdu idLength).npdu

def networkReceiver (idLength : UInt8) : NetworkStackData :=
  { networkNode 2 idLength with nwInQ := (Queue.init default 3).push fun _ => receivedNpdu idLength }

theorem carries_receivedNpdu (idLength : UInt8) :
    (receivedNpdu idLength).Carries (sentNpdu idLength) where
  pduSize := rfl
  hdr := rfl
  data := ⟨[], by rw [receivedNpdu, List.append_nil]⟩

theorem inDomain_networkReceiver (idLength : UInt8) (h : idLength &&& 0x80 = 0) :
    (networkReceiver idLength).InDomain 0 (networkDomain 1 idLength) where
  configured := show decide ((4 : UInt8) &&& 0x04 ≠ 0) = true by decide
  domain := ⟨by simp [networkReceiver, networkNode, networkDomain, ProtocolStackData.reset,
    IzotDomain.invalid, h], rfl, rfl⟩
  index := .inl rfl
  notSender _ _ := show (0x80 ||| 1 : UInt8) &&& 0x7F ≠ (0x80 ||| 2) &&& 0x7F by decide

theorem denotes_networkReceiver (idLength : UInt8) :
    waitingPdu.destAddr.addr.Denotes (networkReceiver idLength).eep 0 :=
  ⟨rfl, show (2 : UInt8) &&& 0x7F = (0x80 ||| 2) &&& 0x7F by decide⟩

theorem npdu_passed_up_domain1 :
    ∃ p : TSAReceiveParam, p.Brings waitingPdu 0 (networkDomain 1 1) ∧
      ((networkReceiver 1).networkLayerReceive default).tsaInQ.toList =
        (networkReceiver 1).tsaInQ.toList ++ [p] :=
  (npdu_passed_up (s := networkSender 1) (b := true) default
    (by unfold NetworkStackData.SendsNpdu; decide +kernel) (by decide) (by decide) rfl (by decide)
    (by decide) (carries_receivedNpdu 1) rfl (inDomain_networkReceiver 1 (by decide))
    (denotes_networkReceiver 1) (fun _ => show (0x80 ||| 2 : UInt8) &&& 0x80 ≠ 0 by decide)
    (by unfold NetworkStackData.HasRoom; decide)).2 (by decide)

def NotPassedUp (s r : NetworkStackData) (nw : NWSendParam) (lk : LKSendParam)
    (rp : NWReceiveParam) : Prop :=
  s.eep.nodeConfigured = true ∧ s.SendsNpdu true nw lk ∧ nw.version < 4 ∧
    nw.destAddr.dmn.domainIndex < s.eep.numDomains ∧ 0 < nw.pduSize ∧ rp.Carries lk ∧
    r.nwInQ.peek = some rp ∧ r.InDomain 0 (s.eep.domainTable nw.destAddr.dmn.domainIndex) ∧
    nw.destAddr.addr.Denotes r.eep 0 ∧ r.HasRoom nw ∧
    ∀ uninit, (r.networkLayerReceive uninit).tsaInQ.toList = r.tsaInQ.toList ∧
      (r.networkLayerReceive uninit).appInQ.toList = r.appInQ.toList

def cloneReceiver : NetworkStackData :=
  { networkReceiver 1 with
    eep :=
      { (networkReceiver 1).eep with
        domainTable := fun _ => { networkDomain 2 1 with nodeClone := 2 } } }

theorem not_npdu_passed_up :
    NotPassedUp (networkSender 6) (networkReceiver 6) waitingPdu (sentNpdu 6) (receivedNpdu 6) ∧
      NotPassedUp (networkSender 1) cloneReceiver waitingPdu (sentNpdu 1) (receivedNpdu 1) := by
  refine ⟨⟨rfl, by unfold NetworkStackData.SendsNpdu; decide +kernel, by decide, by decide,
      by decide, carries_receivedNpdu 6, rfl, inDomain_networkReceiver 6 (by decide),
      denotes_networkReceiver 6, by unfold NetworkStackData.HasRoom; decide, fun _ => ⟨rfl, rfl⟩⟩,
    ⟨rfl, by unfold NetworkStackData.SendsNpdu; decide +kernel, by decide, by decide, by decide,
      carries_receivedNpdu 1, rfl, ⟨by decide, ⟨by decide, rfl, rfl⟩, .inl rfl, fun _ _ => by decide⟩,
      ⟨rfl, by decide⟩, by unfold NetworkStackData.HasRoom; decide, fun _ => ⟨rfl, rfl⟩⟩⟩

end LonStack
