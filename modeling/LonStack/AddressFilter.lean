import LonStack.NetworkRoundTrip

namespace LonStack

namespace Eeprom

variable (eep : Eeprom)

def MemberOf (i : Nat) (group : UInt8) : Prop :=
  ∃ k, (eep.addrTable k).groupType = true ∧ (eep.addrTable k).group = group ∧
    (eep.addrTable k).domain = i

def InDomain (i : Nat) (domainId : List UInt8) : Prop :=
  i < eep.numDomains ∧ (eep.domainTable i).invalid = false ∧
    (eep.domainTable i).idLength = domainId.length ∧
    (eep.domainTable i).id.toList.take domainId.length = domainId

def FirstInDomain (i : Nat) (domainId : List UInt8) : Prop :=
  eep.InDomain i domainId ∧ ∀ k < i, ¬eep.InDomain k domainId

def Is (i : Nat) (a : SubnetNode) : Prop :=
  a.subnet = (eep.domainTable i).subnet ∧ a.nodeId = (eep.domainTable i).node

def NonClone (i : Nat) : Prop := (eep.domainTable i).nodeClone &&& 0x80 ≠ 0

def Sent (i : Nat) (a : SubnetNode) : Prop := eep.NonClone i ∧ eep.Is i a

def Addressed (i : Nat) : NetAddr → Prop
  | .broadcast subnet => subnet = 0 ∨ subnet = (eep.domainTable i).subnet
  | .multicast group => eep.MemberOf i group
  | .subnetNode a => eep.Is i a
  | .multicastAck a => eep.Is i a.subnetAddr ∧ eep.MemberOf i a.groupId
  | .uniqueNodeId .. | .unbound => False

/-- A packet is addressed to the node and not sent by it. `inDomain` are the entries of the domain
table that count for the packet, `own` are those in which its source counts as the node's. -/
structure IsFor (inDomain own : Nat → Prop) (dest : NetAddr) : Prop where
  notOwn : eep.nodeConfigured = true → ∀ i, inDomain i → ¬own i
  dest :
    (∃ subnet, dest = .uniqueNodeId subnet eep.uniqueNodeId) ∨
      (eep.nodeConfigured = true ∧ ∃ i, inDomain i ∧ eep.Addressed i dest) ∨
      (eep.nodeConfigured = false ∧ ∃ subnet, dest = .broadcast subnet)

end Eeprom

namespace NWReceiveParam

variable (r : NWReceiveParam)

def domainId : List UInt8 :=
  bytesAt r.npdu.data r.npdu.destAddr.domainAt (decodeDomainLength r.npdu.domainLength)

def pduAt : Nat := r.npdu.destAddr.domainAt + decodeDomainLength r.npdu.domainLength

def enclosedSize : Nat := r.pduSize - r.pduAt - 1

def SelectorsSet : NetAddr → Prop
  | .subnetNode a => a.node &&& 0x80 ≠ 0
  | .multicastAck a => a.subnetAddr.node &&& 0x80 ≠ 0
  | _ => r.npdu.selField = true

structure WellFormed : Prop where
  selectors : r.SelectorsSet r.npdu.destAddr
  pdu : r.pduAt + 1 < r.pduSize

end NWReceiveParam

def NetAddr.subnetNode? : NetAddr → Option SubnetNode
  | .subnetNode a => some a
  | .multicastAck a => some a.subnetAddr
  | _ => none

namespace NWReceiveParam

variable (eep : Eeprom) (r : NWReceiveParam)

def IsForNode : Prop :=
  eep.IsFor (fun i => eep.InDomain i r.domainId) (fun i => eep.Sent i r.npdu.subnetAddr)
    r.npdu.destAddr

/-- The packet is one that the node receives. Only the first entry for its domain counts, and only
in the first domain does the node know its own packets. -/
def IsReceivedBy : Prop :=
  decodeDomainLength r.npdu.domainLength ≠ 6 ∧
    eep.IsFor (fun i => eep.FirstInDomain i r.domainId)
      (fun i => i = 0 ∧ eep.Sent i r.npdu.subnetAddr) r.npdu.destAddr

def NamesClone : Prop :=
  ∃ i a, eep.FirstInDomain i r.domainId ∧ ¬eep.NonClone i ∧
    r.npdu.destAddr.subnetNode? = some a ∧ eep.Is i a

/-- A group acknowledgement with the node's own source, in which the selector bit is not set. -/
def OwnAck : Prop :=
  ∃ a, r.npdu.destAddr = .multicastAck a ∧ eep.FirstInDomain 0 r.domainId ∧
    eep.Sent 0 r.npdu.subnetAddr

structure PassedUp (gp gp' : NetworkStackData) : Prop where
  apdu : r.npdu.pduType = .apdu → gp.appInQ.queueEntries + 1 < gp.appInQ.queueCapacity →
    r.enclosedSize ≤ gp.appInBufSize →
      ∃ x : APPReceiveParam, gp'.appInQ.toList = gp.appInQ.toList ++ [x] ∧
        x.pduSize = r.enclosedSize ∧ x.apdu = bytesAt r.npdu.data r.pduAt r.enclosedSize
  tsa : r.npdu.pduType ≠ .apdu → gp.tsaInQ.queueEntries + 1 < gp.tsaInQ.queueCapacity →
    r.enclosedSize ≤ gp.tsaInBufSize →
      ∃ p : TSAReceiveParam, gp'.tsaInQ.toList = gp.tsaInQ.toList ++ [p] ∧
        p.pduType = r.npdu.pduType ∧ p.pduSize = r.enclosedSize ∧
        p.bytes = bytesAt r.npdu.data r.pduAt r.enclosedSize

def discardErrors : List LonStatusCode :=
  if decodeDomainLength r.npdu.domainLength = 6 then [.invalidDomain] else []

/-- From `gp` to `gp'` the network layer decides on the packet as `isFor` says. A packet that is
discarded leaves its trace in the log at most. -/
def Filtered (isFor : Prop) (gp gp' : NetworkStackData) : Prop :=
  (isFor → r.PassedUp gp gp') ∧
    (¬isFor → gp' = { gp with nwInQ := gp.nwInQ.dropHead }.printLogs r.discardErrors)

end NWReceiveParam

theorem Eeprom.isGroupMember_iff (eep : Eeprom) {i : Nat} {group : UInt8} :
    (eep.isGroupMember i group).isSome = true ↔ eep.MemberOf i group := by
  unfold isGroupMember
  rw [Option.isSome_map, Fin.isSome_find?_iff]
  simp only [Bool.and_eq_true, beq_iff_eq, and_assoc]
  rfl

theorem Eeprom.index_cases (eep : Eeprom) {i : Nat} (h : i < eep.numDomains) :
    i = 0 ∨ i = 1 ∧ eep.twoDomains = true := by
  unfold numDomains at h
  cases htwo : eep.twoDomains with
  | true =>
    rw [htwo, if_pos rfl] at h
    rcases Nat.lt_succ_iff_lt_or_eq.mp h with hi | hi
    · exact .inl (Nat.lt_one_iff.mp hi)
    · exact .inr ⟨hi, rfl⟩
  | false =>
    rw [htwo, if_neg Bool.false_ne_true] at h
    exact .inl (Nat.lt_one_iff.mp h)

theorem Eeprom.FirstInDomain.unique {eep : Eeprom} {i k : Nat} {domainId : List UInt8}
    (hi : eep.FirstInDomain i domainId) (hk : eep.FirstInDomain k domainId) : i = k := by
  rcases Nat.lt_trichotomy i k with hlt | heq | hlt
  · exact absurd hi.1 (hk.2 i hlt)
  · exact heq
  · exact absurd hk.1 (hi.2 k hlt)

theorem eq_iff_of_upper_set {a b : UInt8} (ha : a &&& 0x80 ≠ 0) :
    a = b ↔ b &&& 0x80 ≠ 0 ∧ a &&& 0x7F = b &&& 0x7F := by
  constructor
  · rintro rfl
    exact ⟨ha, rfl⟩
  · rintro ⟨hb, hlow⟩
    exact (SubnetNode.setSelField_true ha hlow.symm).symm.trans (SubnetNode.setSelField_true hb rfl)

namespace NetworkStackData

variable {gp : NetworkStackData} {r : NWReceiveParam} {i : Nat}

theorem isOwnAddr_iff {a : SubnetNode} :
    gp.isOwnAddr i a = true ↔
      a.subnet = (gp.eep.domainTable i).subnet ∧ a.node = (gp.eep.domainTable i).nodeClone := by
  rw [isOwnAddr, beq_iff_eq, SubnetNode.mk.injEq]

theorem isOwnAddr_iff_sent {a : SubnetNode} (h : a.node &&& 0x80 ≠ 0) :
    gp.isOwnAddr i a = true ↔ gp.eep.Sent i a := by
  rw [isOwnAddr_iff, eq_iff_of_upper_set h]
  exact and_left_comm

theorem isOwnAddr_clone {a : SubnetNode} (h : a.node &&& 0x80 = 0)
    (hown : gp.isOwnAddr i a = true) : ¬gp.eep.NonClone i := by
  intro hclone
  rw [Eeprom.NonClone, ← (isOwnAddr_iff.mp hown).2] at hclone
  exact hclone h

theorem isDomain_iff_inDomain {domainId : List UInt8} (hi : i < gp.eep.numDomains) :
    gp.isDomain i domainId = true ↔ gp.eep.InDomain i domainId := by
  simp only [isDomain, Eeprom.InDomain, Bool.and_eq_true, Bool.not_eq_true', beq_iff_eq, hi,
    true_and, and_assoc, eq_comm (b := domainId), eq_comm (b := domainId.length)]

theorem domainIndexOf_cases (domainId : List UInt8) :
    (gp.eep.nodeConfigured = true ∧
        gp.eep.FirstInDomain (gp.domainIndexOf domainId) domainId) ∨
      gp.domainIndexOf domainId = FLEX_DOMAIN ∧
        (gp.eep.nodeConfigured = true → ∀ i, ¬gp.eep.InDomain i domainId) := by
  have hzero : 0 < gp.eep.numDomains := by
    unfold Eeprom.numDomains
    split <;> decide
  unfold domainIndexOf
  cases hconf : gp.eep.nodeConfigured with
  | false => exact .inr ⟨rfl, fun h => absurd h Bool.false_ne_true⟩
  | true =>
    simp only [Bool.true_and]
    by_cases h0 : gp.isDomain 0 domainId = true
    case pos =>
      rw [if_pos h0]
      exact .inl ⟨trivial, (isDomain_iff_inDomain hzero).mp h0, fun k hk => absurd hk (Nat.not_lt_zero k)⟩
    case neg =>
      rw [if_neg h0]
      have hfirst : ¬gp.eep.InDomain 0 domainId := fun h => h0 ((isDomain_iff_inDomain hzero).mpr h)
      by_cases h1 : (gp.eep.twoDomains && gp.isDomain 1 domainId) = true
      case pos =>
        rw [if_pos h1]
        rw [Bool.and_eq_true] at h1
        have htwo : 1 < gp.eep.numDomains := by
          rw [Eeprom.numDomains, if_pos h1.1]
          decide
        refine .inl ⟨trivial, (isDomain_iff_inDomain htwo).mp h1.2, fun k hk => ?_⟩
        rwa [Nat.lt_one_iff.mp hk]
      case neg =>
        rw [if_neg h1]
        refine .inr ⟨rfl, fun _ i hi => ?_⟩
        rcases gp.eep.index_cases hi.1 with rfl | ⟨rfl, htwo⟩
        · exact hfirst hi
        · rw [htwo, Bool.true_and, isDomain_iff_inDomain hi.1] at h1
          exact h1 hi

theorem isForUniqueId_iff {dest : NetAddr} :
    gp.isForUniqueId dest = true ↔ ∀ subnet id, dest = .uniqueNodeId subnet id →
      id = gp.eep.uniqueNodeId := by
  cases dest with
  | uniqueNodeId subnet id =>
    rw [isForUniqueId, beq_iff_eq]
    constructor
    · rintro h subnet' id' heq
      rw [← h]
      exact (NetAddr.uniqueNodeId.inj heq).2.symm
    · intro h
      exact h subnet id rfl
  | _ => simp [isForUniqueId]

theorem accepts_flex {src : SubnetNode} {dest : NetAddr} :
    gp.accepts FLEX_DOMAIN src dest = true ↔
      (∃ subnet, dest = .uniqueNodeId subnet gp.eep.uniqueNodeId) ∨
        (gp.eep.nodeConfigured = false ∧ ∃ subnet, dest = .broadcast subnet) := by
  cases dest with
  | uniqueNodeId subnet id =>
    cases hconf : gp.eep.nodeConfigured <;>
      simp [accepts, NetAddr.addressMode, isForUniqueId, hconf]
  | _ => cases hconf : gp.eep.nodeConfigured <;>
      simp [accepts, NetAddr.addressMode, isForUniqueId, hconf]

theorem accepts_domain {src : SubnetNode} {dest : NetAddr} (hconf : gp.eep.nodeConfigured = true)
    (hi : i < gp.eep.numDomains) :
    gp.accepts i src dest = true ↔
      ¬(i = 0 ∧ gp.isOwnAddr i src = true) ∧ gp.isForDomain i dest = true ∧
        gp.isForUniqueId dest = true := by
  rcases gp.eep.index_cases hi with rfl | ⟨rfl, -⟩
  · simp [accepts, hconf, and_assoc]
  · simp [accepts, hconf, show (1 : Nat) ≠ FLEX_DOMAIN by decide]

theorem selField_of_subnetNode {npdu : Npdu} {a : SubnetNode} (h : npdu.destAddr = .subnetNode a) :
    npdu.subnetAddr.node &&& 0x80 ≠ 0 := by
  unfold Npdu.destAddr at h
  split at h
  · cases h
  split at h
  · cases h
  split at h
  · split at h
    · rename_i hsel
      exact of_decide_eq_true hsel
    · cases h
  · cases h

theorem selField_of_multicastAck {npdu : Npdu} {a : MulticastAckAddress}
    (h : npdu.destAddr = .multicastAck a) : npdu.subnetAddr.node &&& 0x80 = 0 := by
  unfold Npdu.destAddr at h
  split at h
  · cases h
  split at h
  · cases h
  split at h
  · split at h
    · cases h
    · rename_i hsel
      by_contra hne
      exact hsel (decide_eq_true hne)
  · cases h

theorem isForDomain_iff (gp : NetworkStackData) (i : Nat) {dest : NetAddr}
    (hsel : ∀ a, dest.subnetNode? = some a → a.node &&& 0x80 ≠ 0)
    (hclone : ∀ a, dest.subnetNode? = some a → gp.eep.Is i a → gp.eep.NonClone i) :
    gp.isForDomain i dest = true ↔
      gp.eep.Addressed i dest ∨ ∃ subnet id, dest = .uniqueNodeId subnet id := by
  have hunicast : ∀ a, dest.subnetNode? = some a →
      (gp.isOwnAddr i a = true ↔ gp.eep.Is i a) := fun a ha => by
    rw [isOwnAddr_iff_sent (hsel a ha)]
    exact ⟨And.right, fun his => ⟨hclone a ha his, his⟩⟩
  cases dest with
  | broadcast subnet => simp [isForDomain, Eeprom.Addressed]
  | multicast group => simp [isForDomain, Eeprom.Addressed, Eeprom.isGroupMember_iff]
  | subnetNode a => simp [isForDomain, Eeprom.Addressed, hunicast a rfl]
  | multicastAck a =>
    simp [isForDomain, Eeprom.Addressed, hunicast a.subnetAddr rfl, Eeprom.isGroupMember_iff]
  | uniqueNodeId subnet id => simp [isForDomain]
  | unbound => simp [isForDomain, Eeprom.Addressed]

theorem source_selector (hwf : r.WellFormed) (hack : ∀ a, r.npdu.destAddr ≠ .multicastAck a) :
    r.npdu.subnetAddr.node &&& 0x80 ≠ 0 := by
  have hsel := hwf.selectors
  cases hdest : r.npdu.destAddr with
  | subnetNode a => exact selField_of_subnetNode hdest
  | multicastAck a => exact absurd hdest (hack a)
  | _ =>
    rw [hdest] at hsel
    exact of_decide_eq_true hsel

theorem dest_selector (hwf : r.WellFormed) (a : SubnetNode)
    (h : r.npdu.destAddr.subnetNode? = some a) : a.node &&& 0x80 ≠ 0 := by
  have hsel := hwf.selectors
  cases hdest : r.npdu.destAddr with
  | subnetNode b =>
    rw [hdest] at hsel h
    cases h
    exact hsel
  | multicastAck b =>
    rw [hdest] at hsel h
    cases h
    exact hsel
  | _ =>
    rw [hdest] at h
    cases h

theorem accepts_domain_iff (hwf : r.WellFormed) (hclone : ¬r.NamesClone gp.eep)
    (hown : ¬r.OwnAck gp.eep) (hconf : gp.eep.nodeConfigured = true)
    (hi : gp.eep.FirstInDomain i r.domainId) :
    gp.accepts i r.npdu.subnetAddr r.npdu.destAddr = true ↔
      ¬(i = 0 ∧ gp.eep.Sent i r.npdu.subnetAddr) ∧
        ((∃ subnet, r.npdu.destAddr = .uniqueNodeId subnet gp.eep.uniqueNodeId) ∨
          gp.eep.Addressed i r.npdu.destAddr) := by
  have hfor := isForDomain_iff gp i (dest_selector hwf) fun a ha his =>
    by_contra fun hnot => hclone ⟨i, a, hi, hnot, ha, his⟩
  have hdest : (gp.isForDomain i r.npdu.destAddr = true ∧
      gp.isForUniqueId r.npdu.destAddr = true) ↔
        (∃ subnet, r.npdu.destAddr = .uniqueNodeId subnet gp.eep.uniqueNodeId) ∨
          gp.eep.Addressed i r.npdu.destAddr := by
    rw [hfor, isForUniqueId_iff]
    cases r.npdu.destAddr with
    | uniqueNodeId subnet id => simp [Eeprom.Addressed]
    | _ => simp
  rw [accepts_domain hconf hi.1.1, hdest]
  refine and_congr_left fun haddr => not_congr (and_congr_right fun hzero => ?_)
  by_cases hack : ∃ a, r.npdu.destAddr = .multicastAck a
  case pos =>
    -- Only a clone could take the source for its own, and a clone is not addressed.
    obtain ⟨a, ha⟩ := hack
    subst hzero
    have haddressed : gp.eep.Is 0 a.subnetAddr := by
      rcases haddr with ⟨subnet, hid⟩ | haddr
      · rw [ha] at hid
        cases hid
      · rw [ha] at haddr
        exact haddr.1
    constructor
    · intro hsrc
      exact absurd ⟨0, a.subnetAddr, hi, isOwnAddr_clone (selField_of_multicastAck ha) hsrc,
        by rw [ha]; rfl, haddressed⟩ hclone
    · intro hsent
      exact absurd ⟨a, ha, hi, hsent⟩ hown
  case neg => exact isOwnAddr_iff_sent (source_selector hwf fun a ha => hack ⟨a, ha⟩)

theorem accepts_iff (hwf : r.WellFormed) (hclone : ¬r.NamesClone gp.eep)
    (hown : ¬r.OwnAck gp.eep) :
    gp.accepts (gp.domainIndexOf r.domainId) r.npdu.subnetAddr r.npdu.destAddr = true ↔
      gp.eep.IsFor (fun i => gp.eep.FirstInDomain i r.domainId)
        (fun i => i = 0 ∧ gp.eep.Sent i r.npdu.subnetAddr) r.npdu.destAddr := by
  rcases gp.domainIndexOf_cases r.domainId with ⟨hconf, hfirst⟩ | ⟨hflex, hnone⟩
  · rw [accepts_domain_iff hwf hclone hown hconf hfirst]
    constructor
    · rintro ⟨hnot, hdest⟩
      refine ⟨fun _ i hi => ?_, ?_⟩
      · rw [hi.unique hfirst]
        exact hnot
      · exact hdest.imp_right fun haddr => .inl ⟨hconf, _, hfirst, haddr⟩
    · rintro ⟨hnot, hdest⟩
      refine ⟨hnot hconf _ hfirst, ?_⟩
      rcases hdest with hid | ⟨-, i, hi, haddr⟩ | ⟨hunconf, -⟩
      · exact .inl hid
      · rw [hi.unique hfirst] at haddr
        exact .inr haddr
      · rw [hconf] at hunconf
        cases hunconf
  · rw [hflex, accepts_flex]
    constructor
    · intro hdest
      exact ⟨fun hconf i hi => absurd hi.1 (hnone hconf i), hdest.imp_right .inr⟩
    · rintro ⟨-, hid | ⟨hconf, i, hi, -⟩ | hbroadcast⟩
      · exact .inl hid
      · exact absurd hi.1 (hnone hconf i)
      · exact .inr hbroadcast

theorem domainLength_cases (r : NWReceiveParam) :
    (decodeDomainLength r.npdu.domainLength ≠ 0 ∧ decodeDomainLength r.npdu.domainLength ≠ 1 ∧
      decodeDomainLength r.npdu.domainLength ≠ 3) ↔
        decodeDomainLength r.npdu.domainLength = 6 := by
  unfold decodeDomainLength
  grind

theorem passedUp_receive (uninit : SourceAddress) (hwf : r.WellFormed)
    (hlen : decodeDomainLength r.npdu.domainLength ≠ 6)
    (haccepts : gp.accepts (gp.domainIndexOf r.domainId) r.npdu.subnetAddr r.npdu.destAddr = true) :
    r.PassedUp gp (gp.receiveNpdu uninit r) := by
  have hvalid := mt (domainLength_cases r).mp hlen
  have hpdu := hwf.pdu
  have hpos : 0 < r.enclosedSize := by
    unfold NWReceiveParam.enclosedSize
    omega
  have heq : gp.receiveNpdu uninit r =
      if r.npdu.pduType = .apdu then
        gp.receiveApdu r (sourceAddress uninit (gp.domainIndexOf r.domainId) r.domainId r.npdu)
          r.pduAt r.enclosedSize
      else
        gp.receiveTsa r (sourceAddress uninit (gp.domainIndexOf r.domainId) r.domainId r.npdu)
          r.pduAt r.enclosedSize := by
    unfold receiveNpdu
    exact (if_neg hvalid).trans ((if_neg (not_not_intro haccepts)).trans (if_neg (by
      rw [Nat.not_le]
      exact hpdu)))
  rw [heq]
  constructor
  · intro htype hroom hsize
    rw [if_pos htype]
    obtain ⟨x, hx, -, -, -, hpduSize, hapdu⟩ := toList_receiveApdu r _ r.pduAt hroom hsize
    exact ⟨x, hx, hpduSize, hapdu⟩
  · intro htype hroom hsize
    rw [if_neg htype]
    obtain ⟨p, hp, -, hptype, -, hpduSize, hbytes⟩ :=
      toList_receiveTsa r _ r.pduAt hroom hsize hpos
    exact ⟨p, hp, hptype, hpduSize, hbytes⟩

theorem receiveErrors_of_not_received
    (h : decodeDomainLength r.npdu.domainLength = 6 ∨
      ¬gp.accepts (gp.domainIndexOf r.domainId) r.npdu.subnetAddr r.npdu.destAddr = true) :
    gp.receiveErrors r = r.discardErrors := by
  unfold receiveErrors NWReceiveParam.discardErrors
  by_cases h6 : decodeDomainLength r.npdu.domainLength = 6
  case pos => exact (if_pos ((domainLength_cases r).mpr h6)).trans (if_pos h6).symm
  case neg =>
    rw [if_neg h6]
    exact (if_neg (mt (domainLength_cases r).mp h6)).trans (if_pos (.inl (h.resolve_left h6)))

theorem receiveNpdu_of_not_received (uninit : SourceAddress)
    (h : decodeDomainLength r.npdu.domainLength = 6 ∨
      ¬gp.accepts (gp.domainIndexOf r.domainId) r.npdu.subnetAddr r.npdu.destAddr = true) :
    gp.receiveNpdu uninit r = gp := by
  unfold receiveNpdu
  by_cases h6 : decodeDomainLength r.npdu.domainLength = 6
  case pos => exact if_pos ((domainLength_cases r).mpr h6)
  case neg => exact (if_neg (mt (domainLength_cases r).mp h6)).trans (if_pos (h.resolve_left h6))

end NetworkStackData

/-- The network layer passes up the packets that are for the node and discards the others. -/
theorem packet_received_iff {gp : NetworkStackData} {r : NWReceiveParam} (uninit : SourceAddress)
    (hpeek : gp.nwInQ.peek = some r) (hwf : r.WellFormed) (hclone : ¬r.NamesClone gp.eep)
    (hown : ¬r.OwnAck gp.eep) :
    r.Filtered (r.IsReceivedBy gp.eep) gp (gp.networkLayerReceive uninit) := by
  have haccepts := NetworkStackData.accepts_iff hwf hclone hown
  have hreceive : gp.networkLayerReceive uninit =
      { gp.receiveNpdu uninit r with nwInQ := gp.nwInQ.dropHead }.printLogs
        (gp.receiveErrors r) := by
    rw [NetworkStackData.networkLayerReceive, hpeek]
  rw [hreceive]
  constructor
  · rintro ⟨hlen, hfor⟩
    have hpassed := NetworkStackData.passedUp_receive uninit hwf hlen (haccepts.mpr hfor)
    exact ⟨hpassed.apdu, hpassed.tsa⟩
  · intro hnot
    have hdiscards : decodeDomainLength r.npdu.domainLength = 6 ∨
        ¬gp.accepts (gp.domainIndexOf r.domainId) r.npdu.subnetAddr r.npdu.destAddr = true := by
      by_cases hlen : decodeDomainLength r.npdu.domainLength = 6
      case pos => exact .inl hlen
      case neg => exact .inr fun hacc => hnot ⟨hlen, haccepts.mp hacc⟩
    rw [NetworkStackData.receiveNpdu_of_not_received uninit hdiscards,
      NetworkStackData.receiveErrors_of_not_received hdiscards]

def filterNode (d : Nat → IzotDomain) (twoDomains : Bool) (r : NWReceiveParam) :
    NetworkStackData :=
  { networkNode 2 1 with
    eep :=
      { (default : Eeprom) with
        domainTable := d
        addrTable := fun _ => ⟨0x80, 0, 0, 0, 7⟩
        twoDomains := twoDomains
        nodeState := 4 }
    nwInQ := (Queue.init default 3).push fun _ => r }

def filterPacket (addrFmt domainLength : UInt8) (header : List UInt8) : NWReceiveParam where
  priority := false
  altPath := 0
  pduSize := 3 + header.length
  npdu := ⟨Npdu.header 0 0 addrFmt domainLength, header ++ [0, 0]⟩

theorem not_filtered_of_dropped {gp : NetworkStackData} {r : NWReceiveParam}
    (hfor : r.IsForNode gp.eep) (htype : r.npdu.pduType ≠ .apdu)
    (hroom : gp.tsaInQ.queueEntries + 1 < gp.tsaInQ.queueCapacity)
    (hsize : r.enclosedSize ≤ gp.tsaInBufSize)
    (hdropped : (gp.networkLayerReceive default).tsaInQ.queueEntries = gp.tsaInQ.queueEntries) :
    ¬r.Filtered (r.IsForNode gp.eep) gp (gp.networkLayerReceive default) := by
  intro hfiltered
  obtain ⟨p, hp, -⟩ := (hfiltered.1 hfor).tsa htype hroom hsize
  have hlength := congrArg List.length hp
  rw [List.length_append, Queue.length_toList, Queue.length_toList, hdropped] at hlength
  simp at hlength

theorem not_filtered_of_passed {gp : NetworkStackData} {r : NWReceiveParam}
    (hnot : ¬r.IsForNode gp.eep)
    (hpassed : (gp.networkLayerReceive default).tsaInQ.queueEntries ≠ gp.tsaInQ.queueEntries) :
    ¬r.Filtered (r.IsForNode gp.eep) gp (gp.networkLayerReceive default) := by
  intro hfiltered
  exact hpassed (by rw [hfiltered.2 hnot]; rfl)

def ownSecondDomain : NWReceiveParam := filterPacket 0 1 [1, 0x82, 0, 1]

def secondDomainNode : NetworkStackData :=
  filterNode (fun i => networkDomain 2 (if i = 0 then 0x80 else 1)) true ownSecondDomain

def longDomain : NWReceiveParam := filterPacket 0 3 [9, 0x83, 0, 1, 2, 3, 4, 5, 6]

def longDomainNode : NetworkStackData := filterNode (fun _ => networkDomain 2 6) false longDomain

def twiceEntered : NWReceiveParam := filterPacket 0 1 [9, 0x83, 2, 1]

def twiceEnteredNode : NetworkStackData :=
  filterNode (fun i => { networkDomain 2 1 with subnet := if i = 0 then 1 else 2 }) true twiceEntered

def toSubnetNode : NWReceiveParam := filterPacket 2 1 [9, 0x83, 1, 0x82, 1]

def cloneNode : NetworkStackData :=
  filterNode (fun _ => { networkDomain 2 1 with nodeClone := 2 }) false toSubnetNode

def ackToSelf : NWReceiveParam := filterPacket 2 1 [1, 2, 1, 0x82, 7, 0, 1]

def ackNode : NetworkStackData := filterNode (fun _ => networkDomain 2 1) false ackToSelf

def Misjudges (gp : NetworkStackData) (r : NWReceiveParam) : Prop :=
  gp.nwInQ.peek = some r ∧ r.WellFormed ∧
    ¬r.Filtered (r.IsForNode gp.eep) gp (gp.networkLayerReceive default)

theorem not_packet_received_iff :
    Misjudges secondDomainNode ownSecondDomain ∧ Misjudges longDomainNode longDomain ∧
      Misjudges twiceEnteredNode twiceEntered ∧ Misjudges cloneNode toSubnetNode ∧
        Misjudges ackNode ackToSelf := by
  refine ⟨⟨rfl, ⟨show ownSecondDomain.npdu.selField = true by decide, by decide⟩, ?_⟩,
    ⟨rfl, ⟨show longDomain.npdu.selField = true by decide, by decide⟩, ?_⟩,
    ⟨rfl, ⟨show twiceEntered.npdu.selField = true by decide, by decide⟩, ?_⟩,
    ⟨rfl, ⟨show (0x82 : UInt8) &&& 0x80 ≠ 0 by decide, by decide⟩, ?_⟩,
    ⟨rfl, ⟨show (0x82 : UInt8) &&& 0x80 ≠ 0 by decide, by decide⟩, ?_⟩⟩
  · apply not_filtered_of_passed
    · rintro ⟨hown, -⟩
      exact hown rfl 1 ⟨by decide, by decide, by decide, by decide⟩
        ⟨by unfold Eeprom.NonClone; decide, by unfold Eeprom.Is; decide⟩
    · decide +kernel
  · refine not_filtered_of_dropped ⟨?_, ?_⟩ (by decide) (by decide) (by decide) (by decide +kernel)
    · rintro - i - ⟨-, hsubnet, -⟩
      exact absurd (show (9 : UInt8) = 1 from hsubnet) (by decide)
    · exact .inr (.inl ⟨rfl, 0, ⟨by decide, by decide, by decide, by decide⟩, .inl rfl⟩)
  · refine not_filtered_of_dropped ⟨?_, ?_⟩ (by decide) (by decide) (by decide) (by decide +kernel)
    · rintro - i hi ⟨-, hsubnet, -⟩
      rcases Eeprom.index_cases _ hi.1 with rfl | ⟨rfl, -⟩
      · exact absurd hsubnet (by decide)
      · exact absurd hsubnet (by decide)
    · exact .inr (.inl ⟨rfl, 1, ⟨by decide, by decide, by decide, by decide⟩, .inr rfl⟩)
  · refine not_filtered_of_dropped ⟨?_, ?_⟩ (by decide) (by decide) (by decide) (by decide +kernel)
    · rintro - i - ⟨-, hsubnet, -⟩
      exact absurd (show (9 : UInt8) = 1 from hsubnet) (by decide)
    · refine .inr (.inl ⟨rfl, 0, ⟨by decide, by decide, by decide, by decide⟩, ?_⟩)
      exact ⟨by decide, by decide⟩
  · apply not_filtered_of_passed
    · rintro ⟨hown, -⟩
      exact hown rfl 0 ⟨by decide, by decide, by decide, by decide⟩
        ⟨by unfold Eeprom.NonClone; decide, by unfold Eeprom.Is; decide⟩
    · decide +kernel

theorem packet_received_iff_subnetNode :
    toSubnetNode.Filtered
      (toSubnetNode.IsReceivedBy (filterNode (fun _ => networkDomain 2 1) false toSubnetNode).eep)
      (filterNode (fun _ => networkDomain 2 1) false toSubnetNode)
      ((filterNode (fun _ => networkDomain 2 1) false toSubnetNode).networkLayerReceive default) := by
  refine packet_received_iff default rfl
    ⟨show (0x82 : UInt8) &&& 0x80 ≠ 0 by decide, by decide⟩ ?_ ?_
  · rintro ⟨i, a, -, hclone, -⟩
    exact hclone (show (0x82 : UInt8) &&& 0x80 ≠ 0 by decide)
  · rintro ⟨a, hack, -⟩
    cases hack

end LonStack
