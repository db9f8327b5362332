import LonStack.LonUdp.Translate
import LonStack.NetworkLaws

namespace LonStack.LonUdp

open Lib

inductive LsUdpTarget
  | subnetNode
  | groupResp (groupId member : UInt8)
  | domainBroadcast
  | subnetBroadcast (subnet : UInt8)
  | group (groupId : UInt8)
  | broadcastNeuronId (subnet : UInt8) (id : UniqueId)
  | expSubnetNode (subnet node : UInt8)
  deriving DecidableEq, Repr

namespace LsUdpTarget

def fmt : LsUdpTarget → UInt8
  | subnetNode => IPV4_LSUDP_NPDU_ADDR_FMT_SUBNET_NODE
  | groupResp _ _ => IPV4_LSUDP_NPDU_ADDR_FMT_GROUP_RESP
  | domainBroadcast => IPV4_LSUDP_NPDU_ADDR_FMT_DOMAIN_BROADCAST
  | subnetBroadcast _ => IPV4_LSUDP_NPDU_ADDR_FMT_SUBNET_BROADCAST
  | group _ => IPV4_LSUDP_NPDU_ADDR_FMT_GROUP
  | broadcastNeuronId _ _ => IPV4_LSUDP_NPDU_ADDR_FMT_BROADCAST_NEURON_ID
  | expSubnetNode _ _ => IPV4_LSUDP_NPDU_ADDR_FMT_EXP_SUBNET_NODE

def bytes : LsUdpTarget → List UInt8
  | subnetNode => []
  | groupResp groupId member => [groupId, member]
  | domainBroadcast => []
  | subnetBroadcast subnet => [subnet]
  | group groupId => [groupId]
  | broadcastNeuronId subnet id => subnet :: id.toList
  | expSubnetNode subnet node => [subnet, node]

def Plain : LsUdpTarget → Prop
  | expSubnetNode _ node => node &&& 0x80 = 0
  | _ => True

def received (domain : IzotDomain) (start : Nat) : LsUdpTarget → LsUdpDest
  | subnetNode => ⟨LT_AF_SUBNET_NODE, [domain.subnet, 0x80 ||| domain.node], false, start⟩
  | groupResp groupId member =>
    ⟨LT_AF_SUBNET_NODE, [domain.subnet, 0x80 ||| domain.node, groupId, member], true, start + 2⟩
  | domainBroadcast => ⟨LT_AF_BROADCAST, [0], false, start⟩
  | subnetBroadcast subnet => ⟨LT_AF_BROADCAST, [subnet], false, start + 1⟩
  | group groupId => ⟨LT_AF_GROUP, [groupId], false, start + 1⟩
  | broadcastNeuronId subnet id => ⟨LT_AF_UNIQUE_ID, subnet :: id.toList, false, start + 7⟩
  | expSubnetNode subnet node =>
    ⟨LT_AF_SUBNET_NODE, [subnet, 0x80 ||| node], false, start + 2⟩

end LsUdpTarget

/-- A source that is not derived from the source address, with the domain when it is enclosed. -/
structure LsUdpSource where
  addr : SubnetNode
  domainId : Option (List UInt8)
  deriving DecidableEq, Repr

def LsUdpSource.bytes (s : LsUdpSource) : List UInt8 :=
  match s.domainId with
  | none => [s.addr.subnet, s.addr.nodeId]
  | some domainId =>
    [s.addr.subnet, s.addr.nodeId ||| 0x80, getDomainLenEncoding domainId.length] ++ domainId

structure LsUdpMessage where
  enhanced : Bool
  pduType : PduType
  priority : Bool
  backlog : Option UInt8
  source : Option LsUdpSource
  target : LsUdpTarget
  pdu : List UInt8
  deriving DecidableEq, Repr

namespace LsUdpMessage

def hdr0 (m : LsUdpMessage) : UInt8 :=
  (if m.enhanced then IPV4_LSUDP_UDP_VER_LS_ENHANCED else IPV4_LSUDP_UDP_VER_LS_LEGACY) <<< 4 |||
    if m.source.isSome then IPV4_LSUDP_NPDU_MASK_ARB_SOURCE else 0

def hdr1 (m : LsUdpMessage) : UInt8 :=
  m.pduType.code ||| (if m.backlog.isSome then IPV4_LSUDP_NPDU_MASK_MCR else 0) ||| m.target.fmt |||
    if m.priority then IPV4_LSUDP_NPDU_MASK_PRIORITY else 0

def enclosedDomain (m : LsUdpMessage) : Option (List UInt8) := m.source.bind (·.domainId)

def sourceBytes (m : LsUdpMessage) : List UInt8 := (m.source.map LsUdpSource.bytes).getD []

def bytes (m : LsUdpMessage) : List UInt8 :=
  [m.hdr0, m.hdr1] ++ m.backlog.toList ++ m.sourceBytes ++ m.target.bytes ++ m.pdu

end LsUdpMessage

theorem IpAddress.image_eq (addr : IpAddress) {k : Nat} (h : k < 4) : addr.image k = addr[k] := by
  simp [IpAddress.image, h]

inductive IpDomain : List UInt8 → Prop
  | empty : IpDomain []
  | one (a : UInt8) : IpDomain [a]
  | three (a b : UInt8) : IpDomain [a, b, 0]

def domainPrefix : List UInt8 → UInt8 × UInt8
  | [] => (0xC0, 0xA8)
  | [a] => (IPV4_DOMAIN_LEN_1_PREFIX, a)
  | a :: b :: _ => (a, b)

def Ambiguous : List UInt8 → Prop
  | a :: b :: _ => a = 0xC0 ∧ b = 0xA8 ∨ a = IPV4_DOMAIN_LEN_1_PREFIX
  | _ => False

theorem hdr1_fields (t : PduType) (backlog priority : Bool) {fmt : UInt8}
    (hfmt : fmt ∈ [0x10, 0x20, 0x30, 0x40, 0x50, 0x60, 0x70]) {h : UInt8}
    (heq : h = t.code ||| (if backlog then IPV4_LSUDP_NPDU_MASK_MCR else 0) ||| fmt |||
      if priority then IPV4_LSUDP_NPDU_MASK_PRIORITY else 0) :
    h &&& IPV4_LSUDP_NPDU_MASK_PDUFMT = t.code ∧
      (h &&& IPV4_LSUDP_NPDU_MASK_MCR ≠ 0 ↔ backlog = true) ∧
      h &&& IPV4_LSUDP_NPDU_MASK_ADDRFMT = fmt ∧
      (h &&& IPV4_LSUDP_NPDU_MASK_PRIORITY ≠ 0 ↔ priority = true) := by
  have hall : ∀ c : Fin 4, ∀ backlog priority : Bool,
      ∀ fmt ∈ ([0x10, 0x20, 0x30, 0x40, 0x50, 0x60, 0x70] : List UInt8),
      let h := UInt8.ofNat c ||| (if backlog then IPV4_LSUDP_NPDU_MASK_MCR else 0) ||| fmt |||
        if priority then IPV4_LSUDP_NPDU_MASK_PRIORITY else 0
      h &&& IPV4_LSUDP_NPDU_MASK_PDUFMT = UInt8.ofNat c ∧
        (h &&& IPV4_LSUDP_NPDU_MASK_MCR ≠ 0 ↔ backlog = true) ∧
        h &&& IPV4_LSUDP_NPDU_MASK_ADDRFMT = fmt ∧
        (h &&& IPV4_LSUDP_NPDU_MASK_PRIORITY ≠ 0 ↔ priority = true) := by
    decide +kernel
  subst heq
  cases t with
  | tpdu => exact hall 0 backlog priority fmt hfmt
  | spdu => exact hall 1 backlog priority fmt hfmt
  | authpdu => exact hall 2 backlog priority fmt hfmt
  | apdu => exact hall 3 backlog priority fmt hfmt

theorem node_flag :
    (∀ n : UInt8, (n &&& 0x7F) &&& 0x80 = 0) ∧ ∀ n : UInt8, (n &&& 0x7F ||| 0x80) &&& 0x80 ≠ 0 :=
  ⟨forall_byte (by decide +kernel), forall_byte (by decide +kernel)⟩

theorem LsUdpTarget.fmt_mem (t : LsUdpTarget) :
    t.fmt ∈ [0x10, 0x20, 0x30, 0x40, 0x50, 0x60, 0x70] := by
  cases t <;> simp [fmt]

namespace LsUdpPayload

variable {u : LsUdpPayload} {m : LsUdpMessage}

structure Holds (u : LsUdpPayload) (m : LsUdpMessage) : Prop where
  hdr0 : u.hdr0 = m.hdr0
  hdr1 : u.hdr1 = m.hdr1
  backlog : u.image.Contains 2 m.backlog.toList
  source : u.image.Contains (2 + m.backlog.toList.length) m.sourceBytes
  target : u.image.Contains (2 + m.backlog.toList.length + m.sourceBytes.length) m.target.bytes
  pdu : u.image.Contains
    (2 + m.backlog.toList.length + m.sourceBytes.length + m.target.bytes.length) m.pdu

theorem holds_of_contains (h : u.image.Contains 0 m.bytes) : u.Holds m := by
  unfold LsUdpMessage.bytes at h
  simp only [Image.contains_append, Image.contains_cons, List.length_append, List.length_cons,
    List.length_nil, Nat.zero_add, Image.contains_nil, and_true] at h
  obtain ⟨⟨⟨⟨⟨h0, h1⟩, hb⟩, hs⟩, ht⟩, hp⟩ := h
  exact ⟨h0, h1, hb, hs, ht, hp⟩

namespace Holds

theorem hdr0_fields (h : u.Holds m) :
    u.unsupported = false ∧ u.isEnhanced = m.enhanced ∧ u.hasArbSource = m.source.isSome := by
  have hall : ∀ e s : Bool,
      let h := (if e then IPV4_LSUDP_UDP_VER_LS_ENHANCED else IPV4_LSUDP_UDP_VER_LS_LEGACY) <<< 4 |||
        if s then IPV4_LSUDP_NPDU_MASK_ARB_SOURCE else 0
      decide (IPV4_LSUDP_UDP_VER_CURRENT <<< 4 < h &&& IPV4_LSUDP_NPDU_MASK_UDPVER) = false ∧
        decide (h &&& IPV4_LSUDP_NPDU_MASK_UDPVER = IPV4_LSUDP_UDP_VER_LS_ENHANCED <<< 4) = e ∧
        decide (h &&& IPV4_LSUDP_NPDU_MASK_ARB_SOURCE ≠ 0) = s := by
    decide
  unfold unsupported isEnhanced hasArbSource
  rw [h.hdr0]
  exact hall m.enhanced m.source.isSome

theorem pduFmt (h : u.Holds m) : u.pduFmt = m.pduType.code :=
  (hdr1_fields m.pduType m.backlog.isSome m.priority m.target.fmt_mem h.hdr1).1

theorem hasBacklog (h : u.Holds m) : u.hasBacklog = m.backlog.isSome := by
  have := (hdr1_fields m.pduType m.backlog.isSome m.priority m.target.fmt_mem h.hdr1).2.1
  rw [Bool.eq_iff_iff]
  exact decide_eq_true_iff.trans this

theorem addrFmt (h : u.Holds m) : u.addrFmt = m.target.fmt :=
  (hdr1_fields m.pduType m.backlog.isSome m.priority m.target.fmt_mem h.hdr1).2.2.1

theorem priority (h : u.Holds m) :
    u.hdr1 &&& IPV4_LSUDP_NPDU_MASK_PRIORITY ≠ 0 ↔ m.priority = true :=
  (hdr1_fields m.pduType m.backlog.isSome m.priority m.target.fmt_mem h.hdr1).2.2.2

theorem priDelta (h : u.Holds m) :
    u.priDelta = (if m.priority then IPV4_LON_VX_NPDU_MASK_PRIORITY else 0) |||
      (m.backlog.getD 0 &&& IPV4_LON_VX_NPDU_MASK_DELTA_BACKLOG) := by
  unfold LsUdpPayload.priDelta
  rw [h.hasBacklog]
  simp only [h.priority]
  refine congrArg ((if m.priority then IPV4_LON_VX_NPDU_MASK_PRIORITY else 0 : UInt8) ||| ·) ?_
  have hb := h.backlog
  cases hm : m.backlog with
  | none => rfl
  | some b =>
    rw [hm, Option.toList_some, Image.contains_cons] at hb
    rw [Option.isSome_some, if_pos rfl, hb.1, Option.getD_some]

theorem sourceAt (h : u.Holds m) : u.sourceAt = 2 + m.backlog.toList.length := by
  unfold LsUdpPayload.sourceAt
  rw [h.hasBacklog]
  cases m.backlog <;> rfl

theorem source_enclosed (h : u.Holds m) {s : LsUdpSource} {d : List UInt8} (hs : m.source = some s)
    (hd : s.domainId = some d) :
    u.image u.sourceAt = s.addr.subnet ∧ u.image (u.sourceAt + 1) = s.addr.nodeId ||| 0x80 ∧
      u.image (u.sourceAt + 2) = getDomainLenEncoding d.length ∧
      u.image.Contains (u.sourceAt + 3) d := by
  have hb := h.source
  rw [LsUdpMessage.sourceBytes, hs, Option.map_some, Option.getD_some, LsUdpSource.bytes, hd] at hb
  simp only [Image.contains_append, Image.contains_cons, List.length_cons, List.length_nil,
    Nat.zero_add, Image.contains_nil, and_true] at hb
  obtain ⟨⟨hsubnet, hnode, hlen⟩, hdomain⟩ := hb
  rw [h.sourceAt]
  exact ⟨hsubnet, hnode, hlen, hdomain⟩

theorem source_bare (h : u.Holds m) {s : LsUdpSource} (hs : m.source = some s)
    (hd : s.domainId = none) :
    u.image u.sourceAt = s.addr.subnet ∧ u.image (u.sourceAt + 1) = s.addr.nodeId := by
  have hb := h.source
  rw [LsUdpMessage.sourceBytes, hs, Option.map_some, Option.getD_some, LsUdpSource.bytes, hd] at hb
  simp only [Image.contains_cons, Image.contains_nil, and_true] at hb
  rw [h.sourceAt]
  exact hb

theorem includesDomain (h : u.Holds m) : u.includesDomain = m.enclosedDomain.isSome := by
  have harb := h.hdr0_fields.2.2
  unfold LsUdpPayload.includesDomain LsUdpMessage.enclosedDomain
  rw [harb]
  cases hs : m.source with
  | none => rfl
  | some s =>
    cases hd : s.domainId with
    | none =>
      have hn : (s.addr.node &&& 0x7F) &&& 0x80 = 0 := node_flag.1 s.addr.node
      rw [(h.source_bare hs hd).2, SubnetNode.nodeId]
      simp [hn, hd]
    | some d =>
      have hn : (s.addr.node &&& 0x7F ||| 0x80) &&& 0x80 ≠ 0 := node_flag.2 s.addr.node
      rw [(h.source_enclosed hs hd).2.1, SubnetNode.nodeId]
      simp [hn, hd]

end Holds

structure HasDomain (u : LsUdpPayload) (pSourceAddr : IpAddress) (d : List UInt8) : Prop where
  length : (u.domain pSourceAddr).1 = d.length
  bytes : Image.slice
    (fun k => if k < IPV4_LON_UDP_IPADDR_DOMAIN_LEN then (u.domain pSourceAddr).2 k else 0) 0
    d.length = d

variable {pSourceAddr : IpAddress} {d : List UInt8}

theorem slice_of_contains {image : Image} (hd : IpDomain d) (h : image.Contains 0 (d.take 2)) :
    Image.slice (fun k => if k < IPV4_LON_UDP_IPADDR_DOMAIN_LEN then image k else 0) 0 d.length =
      d := by
  cases hd with
  | empty => rfl
  | one a =>
    have ha : image 0 = a := (Image.contains_cons.mp h).1
    rw [← ha]
    rfl
  | three a b =>
    have ha : image 0 = a := (Image.contains_cons.mp h).1
    have hb : image 1 = b := (Image.contains_cons.mp (Image.contains_cons.mp h).2).1
    rw [← ha, ← hb]
    rfl

theorem decode_getDomainLenEncoding (hd : IpDomain d) :
    decodeDomainLength (getDomainLenEncoding d.length &&& IPV4_LSUDP_NPDU_MASK_ARB_SOURCE_DMLEN) =
      d.length := by
  cases hd with
  | empty => rfl
  | one a => exact (by decide : decodeDomainLength (getDomainLenEncoding 1 &&& 3) = 1)
  | three a b => exact (by decide : decodeDomainLength (getDomainLenEncoding 3 &&& 3) = 3)

theorem Holds.hasDomain_enclosed (h : u.Holds m) (he : m.enclosedDomain = some d)
    (hd : IpDomain d) : u.HasDomain pSourceAddr d := by
  obtain ⟨s, hs, hsd⟩ := Option.bind_eq_some_iff.mp he
  obtain ⟨-, -, hlen, hbytes⟩ := h.source_enclosed hs hsd
  have hi : u.includesDomain = true := by rw [h.includesDomain, he, Option.isSome_some]
  have hdomain : u.domain pSourceAddr = (d.length, fun k => u.image (u.sourceAt + 3 + k)) := by
    unfold domain
    rw [if_pos hi, hlen, decode_getDomainLenEncoding hd]
  refine ⟨by rw [hdomain], ?_⟩
  rw [hdomain]
  refine slice_of_contains hd ?_
  rw [← List.take_append_drop 2 d, Image.contains_append] at hbytes
  exact hbytes.1.congr fun k _ => congrArg (fun i => u.image (u.sourceAt + 3 + i)) (Nat.zero_add k)

theorem Holds.hasDomain_derived (h : u.Holds m) (he : m.enclosedDomain = none) (hd : IpDomain d)
    (hamb : ¬Ambiguous d) (h0 : pSourceAddr.image 0 = (domainPrefix d).1)
    (h1 : pSourceAddr.image 1 = (domainPrefix d).2) : u.HasDomain pSourceAddr d := by
  have hi : u.includesDomain = false := by rw [h.includesDomain, he, Option.isSome_none]
  have hdomain : ∃ image : Image, u.domain pSourceAddr = (d.length, image) ∧
      image.Contains 0 (d.take 2) := by
    unfold domain
    rw [if_neg (by rw [hi]; decide), h0, h1]
    cases hd with
    | empty => exact ⟨_, if_pos ⟨rfl, rfl⟩, rfl⟩
    | one a =>
      have hz : ¬((domainPrefix [a]).1 = IPV4_DOMAIN_LEN_0_PREFIX_0 ∧
          (domainPrefix [a]).2 = IPV4_DOMAIN_LEN_0_PREFIX_1) :=
        fun hz => absurd (show IPV4_DOMAIN_LEN_1_PREFIX = 0xC0 from hz.1) (by decide)
      have hone : (domainPrefix [a]).1 = IPV4_DOMAIN_LEN_1_PREFIX := rfl
      rw [if_neg hz, if_pos hone]
      exact ⟨_, rfl, Image.contains_cons.mpr ⟨h1, Image.contains_nil _ _⟩⟩
    | three a b =>
      have hz : ¬((domainPrefix [a, b, 0]).1 = IPV4_DOMAIN_LEN_0_PREFIX_0 ∧
          (domainPrefix [a, b, 0]).2 = IPV4_DOMAIN_LEN_0_PREFIX_1) := fun hz => hamb (.inl hz)
      have hone : ¬(domainPrefix [a, b, 0]).1 = IPV4_DOMAIN_LEN_1_PREFIX :=
        fun hone => hamb (.inr hone)
      rw [if_neg hz, if_neg hone]
      exact ⟨_, rfl, Image.contains_cons.mpr ⟨h0, Image.contains_cons.mpr ⟨h1, Image.contains_nil _ _⟩⟩⟩
  obtain ⟨image, hdomain, hbytes⟩ := hdomain
  refine ⟨by rw [hdomain], ?_⟩
  rw [hdomain]
  exact slice_of_contains hd hbytes

namespace Holds

theorem destAt (h : u.Holds m) (hd : ∀ d', m.enclosedDomain = some d' → d'.length = d.length) :
    u.destAt d.length = 2 + m.backlog.toList.length + m.sourceBytes.length := by
  unfold LsUdpPayload.destAt
  rw [h.includesDomain, h.sourceAt, h.hdr0_fields.2.2]
  unfold LsUdpMessage.enclosedDomain at hd ⊢
  unfold LsUdpMessage.sourceBytes
  cases hs : m.source with
  | none => rfl
  | some s =>
    cases he : s.domainId with
    | none => simp [he, LsUdpSource.bytes]
    | some d' =>
      have := hd d' (by rw [hs]; exact he)
      simp [he, LsUdpSource.bytes]
      omega

theorem source_eq (h : u.Holds m) :
    (u.source pSourceAddr).1 = (m.source.map (·.addr.subnet)).getD (pSourceAddr.image 2) ∧
      (0x80 : UInt8) ||| (u.source pSourceAddr).2 =
        (0x80 : UInt8) ||| (m.source.map (·.addr.nodeId)).getD (pSourceAddr.image 3) := by
  unfold LsUdpPayload.source
  rw [h.hdr0_fields.2.2]
  cases hs : m.source with
  | none => exact ⟨rfl, rfl⟩
  | some s =>
    cases he : s.domainId with
    | none =>
      obtain ⟨hsubnet, hnode⟩ := h.source_bare hs he
      exact ⟨hsubnet, congrArg ((0x80 : UInt8) ||| ·) hnode⟩
    | some d' =>
      obtain ⟨hsubnet, hnode, -, -⟩ := h.source_enclosed hs he
      refine ⟨hsubnet, ?_⟩
      show 0x80 ||| u.image (u.sourceAt + 1) = 0x80 ||| s.addr.nodeId
      rw [hnode, UInt8.or_comm s.addr.nodeId, ← UInt8.or_assoc, UInt8.or_self]

theorem dest (h : u.Holds m) (hplain : m.target.Plain) {start : Nat}
    (hstart : start = 2 + m.backlog.toList.length + m.sourceBytes.length) (domain : IzotDomain) :
    u.dest domain start = some (m.target.received domain start) := by
  have ht := h.target
  rw [← hstart] at ht
  have hfmt := h.addrFmt
  unfold LsUdpPayload.dest
  rw [hfmt]
  cases hm : m.target with
  | subnetNode => rfl
  | domainBroadcast => rfl
  | groupResp groupId member =>
    rw [hm] at ht
    simp only [LsUdpTarget.bytes, Image.contains_cons, Image.contains_nil, and_true] at ht
    obtain ⟨rfl, rfl⟩ := ht
    rfl
  | subnetBroadcast subnet =>
    rw [hm] at ht
    simp only [LsUdpTarget.bytes, Image.contains_cons, Image.contains_nil, and_true] at ht
    subst ht
    rfl
  | group groupId =>
    rw [hm] at ht
    simp only [LsUdpTarget.bytes, Image.contains_cons, Image.contains_nil, and_true] at ht
    subst ht
    rfl
  | broadcastNeuronId subnet id =>
    rw [hm] at ht
    simp only [LsUdpTarget.bytes, Image.contains_cons] at ht
    obtain ⟨rfl, hid⟩ := ht
    unfold Image.Contains at hid
    rw [Vector.length_toList] at hid
    exact congrArg (fun bs => some (⟨LT_AF_UNIQUE_ID, u.image start :: bs, false, start + 7⟩ : LsUdpDest)) hid
  | expSubnetNode subnet node =>
    rw [hm] at ht hplain
    simp only [LsUdpTarget.bytes, Image.contains_cons, Image.contains_nil, and_true] at ht
    obtain ⟨rfl, rfl⟩ := ht
    exact if_neg (not_not_intro hplain)

end Holds

end LsUdpPayload

def IsAnnouncement (t : PduType) (pdu : List UInt8) : Prop :=
  t = .apdu ∧ pdu[0]? = some IPV4_EXP_MSG_CODE ∧
    (pdu[1]? = some IPV4_EXP_SUBNETS_LS_ADDR_MAPPING_ANNOUNCEMENT ∧ 3 + 32 ≤ pdu.length ∨
      pdu[1]? = some IPV4_EXP_DEVICE_LS_ADDR_MAPPING_ANNOUNCEMENT)

namespace LsUdpTarget

theorem next_received (t : LsUdpTarget) (domain : IzotDomain) (start : Nat) :
    (t.received domain start).next = start + t.bytes.length := by
  cases t with
  | broadcastNeuronId subnet id =>
    rw [received, bytes, List.length_cons, Vector.length_toList]
  | _ => rfl

end LsUdpTarget

namespace LsUdpMessage

variable (m : LsUdpMessage)

def targetAt : Nat := 2 + m.backlog.toList.length + m.sourceBytes.length

theorem length_bytes :
    m.bytes.length = m.targetAt + m.target.bytes.length + m.pdu.length := by
  simp only [bytes, targetAt, List.length_append, List.length_cons, List.length_nil]

def priDelta : UInt8 :=
  (if m.priority then IPV4_LON_VX_NPDU_MASK_PRIORITY else 0) |||
    (m.backlog.getD 0 &&& IPV4_LON_VX_NPDU_MASK_DELTA_BACKLOG)

def header (domain : IzotDomain) (pSourceAddr : IpAddress) (d : List UInt8) : List UInt8 :=
  let dest := m.target.received domain m.targetAt
  let sourceNode := (0x80 : UInt8) ||| (m.source.map (·.addr.nodeId)).getD (pSourceAddr.image 3)
  [m.pduType.code <<< 4 ||| (if m.enhanced then IPV4_LT_VER_ENHANCED <<< 6 else 0) |||
      getDomainLenEncoding d.length ||| dest.addrFmt <<< 2,
    (m.source.map (·.addr.subnet)).getD (pSourceAddr.image 2),
    if dest.isGroupResp then sourceNode &&& NODE_ID_MASK else sourceNode] ++
  dest.bytes ++ d

end LsUdpMessage

namespace LsUdpPayload

variable {u : LsUdpPayload} {m : LsUdpMessage} {pSourceAddr : IpAddress} {d : List UInt8}

theorem Holds.header_eq (h : u.Holds m) (hd : u.HasDomain pSourceAddr d) (domain : IzotDomain) :
    u.header (u.domain pSourceAddr).1 (u.domain pSourceAddr).2 (u.source pSourceAddr)
        (m.target.received domain m.targetAt) =
      m.priDelta :: m.header domain pSourceAddr d := by
  obtain ⟨hsubnet, hnode⟩ := @source_eq u m pSourceAddr h
  unfold LsUdpPayload.header LsUdpMessage.header
  dsimp only
  rw [hd.length, hd.bytes, h.priDelta, h.pduFmt, h.hdr0_fields.2.1, hsubnet, hnode]
  rfl

theorem Holds.isAnnouncement (h : u.Holds m) {pduLen : UInt16} (hlen : pduLen.toNat = m.pdu.length)
    {code : UInt8} {least : UInt16} (hleast : 2 ≤ least.toNat)
    (ha : u.announces (m.targetAt + m.target.bytes.length) pduLen code least = true) :
    m.pduType = .apdu ∧ m.pdu[0]? = some IPV4_EXP_MSG_CODE ∧ m.pdu[1]? = some code ∧
      least.toNat ≤ m.pdu.length := by
  obtain ⟨hfmt, hmsg, hle, hcode⟩ := decide_eq_true_iff.mp ha
  rw [h.pduFmt] at hfmt
  rw [UInt16.le_iff_toNat_le, hlen] at hle
  have hpdu := h.pdu
  refine ⟨?_, ?_, ?_, hle⟩
  · cases ht : m.pduType with
    | apdu => rfl
    | _ => exact absurd (ht ▸ hfmt) (by decide)
  · rw [List.getElem?_eq_getElem (by omega), ← hpdu.getElem (by omega)]
    exact congrArg some hmsg
  · rw [List.getElem?_eq_getElem (by omega), ← hpdu.getElem (by omega)]
    exact congrArg some hcode

end LsUdpPayload

namespace UdpNode

variable {u : LsUdpPayload} {m : LsUdpMessage} {pSourceAddr : IpAddress} {d : List UInt8}
  {udpLen : UInt16}

theorem convertLonUdpToLonVx_of_holds (n : UdpNode) (h : u.Holds m)
    (hd : u.HasDomain pSourceAddr d)
    (hlen : ∀ d', m.enclosedDomain = some d' → d'.length = d.length) (hplain : m.target.Plain)
    (hann : ¬IsAnnouncement m.pduType m.pdu) (hudp : udpLen.toNat = m.bytes.length) :
    (n.convertLonUdpToLonVx u pSourceAddr udpLen).2 =
      ⟨m.priDelta :: m.header n.domain pSourceAddr d ++ m.pdu,
        .ofNat (m.pdu.length + (m.header n.domain pSourceAddr d).length + 1)⟩ := by
  have hdest : u.dest n.domain (u.destAt (u.domain pSourceAddr).1) =
      some (m.target.received n.domain m.targetAt) := by
    rw [hd.length, h.destAt hlen]
    exact h.dest hplain rfl n.domain
  have hpdu : (udpLen - .ofNat (m.targetAt + m.target.bytes.length)).toNat = m.pdu.length := by
    rw [m.length_bytes] at hudp
    have := udpLen.toNat_lt
    rw [UInt16.toNat_sub, UInt16.toNat_ofNat']
    omega
  unfold convertLonUdpToLonVx
  rw [if_neg (by rw [h.hdr0_fields.1]; decide), hdest]
  dsimp only
  unfold convertPdu
  dsimp only
  rw [h.header_eq hd, LsUdpTarget.next_received]
  rw [if_neg, if_neg]
  · show LonVx.mk _ _ = _
    rw [hpdu]
    have hslice : u.image.slice (m.targetAt + m.target.bytes.length) m.pdu.length = m.pdu := h.pdu
    rw [hslice]
    refine congrArg (LonVx.mk _) ?_
    rw [← UInt16.toNat_inj, UInt16.toNat_add, hpdu, UInt16.toNat_ofNat', UInt16.toNat_ofNat',
      List.length_cons]
    omega
  · intro ha
    obtain ⟨ht, hmsg, hcode, -⟩ := h.isAnnouncement hpdu (by decide) ha
    exact hann ⟨ht, hmsg, .inr hcode⟩
  · intro ha
    obtain ⟨ht, hmsg, hcode, hle⟩ := h.isAnnouncement hpdu (by decide) ha
    exact hann ⟨ht, hmsg, .inl ⟨hcode, hle⟩⟩

end UdpNode

end LonStack.LonUdp
