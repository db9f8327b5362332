import LonStack.LonUdp.Malformed
import LonStack.LonUdp.Message

namespace LonStack.LonUdp

open Lib

structure LonVxNpdu where
  priDelta : UInt8
  enhanced : Bool
  pduType : PduType
  source : SubnetNode
  dest : NetAddr
  domainId : List UInt8
  pdu : List UInt8
  subnet_ne : source.subnet ≠ 0
  node_ne : source.nodeId ≠ 0
  bound : dest ≠ .unbound
  domain : IpDomain domainId
  length_le : pdu.length ≤ MAX_PDU_SIZE

namespace LonVxNpdu

variable (v : LonVxNpdu)

def isGroupResp : Bool :=
  match v.dest with
  | .multicastAck _ => true
  | _ => false

def typeByte : UInt8 :=
  Npdu.header (if v.enhanced then 2 else 0) v.pduType.code (v.dest.addrFmt.getD 0)
    (getDomainLenEncoding v.domainId.length)

def header : List UInt8 :=
  [v.typeByte, v.source.subnet, (v.source.setSelField !v.isGroupResp).node] ++ v.dest.bytes ++
    v.domainId

def bytes : List UInt8 := v.priDelta :: v.header ++ v.pdu

def lastByte : UInt8 := v.header.getLastD 0

def isMulticast : Bool :=
  match v.dest with
  | .broadcast _ => true
  | .multicast _ => true
  | _ => false

def includesBacklog : Bool :=
  v.isMulticast ∧ (v.pduType = .tpdu ∨ v.pduType = .spdu) ∧
    v.lastByte &&& IPV4_LON_VX_NPDU_MASK_SERVICE_TYPE = 0

def domainImage : Image := fun k => v.domainId.getD k 0

def derivedAddress : IpAddress :=
  generateLonUdpAddress v.domainImage v.domainId.length v.source.subnet v.source.node

def explicit (n : UdpNode) (a : SubnetNode) : Bool :=
  match n.map.findMappingInfo
      (lsAddress v.domainImage v.domainId.length a.subnet (a.setSelField true).node) with
  | none => true
  | some i => (n.map.lsMapInfo i).state = .arbitrary

def arbitrarySource (n : UdpNode) : Option LsUdpSource :=
  if n.usesArbitrary v.derivedAddress v.domainImage v.domainId.length then
    some ⟨v.source,
      if n.matchesDomain v.domainImage v.domainId.length then none else some v.domainId⟩
  else none

def target (n : UdpNode) : LsUdpTarget :=
  match v.dest with
  | .broadcast subnet => if subnet = 0 then .domainBroadcast else .subnetBroadcast subnet
  | .multicast group => .group group
  | .subnetNode a => if v.explicit n a then .expSubnetNode a.subnet a.nodeId else .subnetNode
  | .multicastAck a => .groupResp a.groupId a.member
  | .uniqueNodeId subnet id => .broadcastNeuronId subnet id
  | .unbound => .domainBroadcast

def message (n : UdpNode) : LsUdpMessage where
  enhanced := v.enhanced
  pduType := v.pduType
  priority := v.priDelta &&& IPV4_LON_VX_NPDU_MASK_PRIORITY ≠ 0
  backlog :=
    if v.includesBacklog then some (v.priDelta &&& IPV4_LON_VX_NPDU_MASK_DELTA_BACKLOG) else none
  source := v.arbitrarySource n
  target := v.target n
  pdu := v.pdu

def sourceAddress (n : UdpNode) : IpAddress :=
  if n.usesArbitrary v.derivedAddress v.domainImage v.domainId.length then n.ownIpAddress
  else v.derivedAddress

end LonVxNpdu

theorem contains_assemble {m arb encl : Image} {source target pdu : List UInt8} {off hdrLen : Nat}
    {backlog : Option UInt8} {b h0 h1 : UInt8} (harb : arb.Contains 0 source)
    (hencl : encl.Contains 0 target) (hpdu : m.Contains off pdu)
    (hlen : hdrLen = 2 + backlog.toList.length) (hb : ∀ x ∈ backlog, b = x) :
    (((((if backlog.isSome then
            ((m.copy (hdrLen + target.length + source.length) m off pdu.length).copy hdrLen arb 0
              source.length).set 2 b
          else
            (m.copy (hdrLen + target.length + source.length) m off pdu.length).copy hdrLen arb 0
              source.length).set 0 h0).set 1 h1).copy (hdrLen + source.length) encl 0
        target.length).Contains 0
      ([h0, h1] ++ backlog.toList ++ source ++ target ++ pdu)) := by
  set moved := m.copy (hdrLen + target.length + source.length) m off pdu.length
  set placed := moved.copy hdrLen arb 0 source.length
  set marked := if backlog.isSome then placed.set 2 b else placed with hmarked
  have hmoved : moved.Contains (hdrLen + target.length + source.length) pdu := hpdu.copy _ _
  have hplaced : placed.Contains hdrLen source := harb.copy _ _
  have hmark : Image.OnlyIn placed marked 2 backlog.toList.length := by
    rw [hmarked]
    cases backlog with
    | none => exact Image.OnlyIn.refl _ _ _
    | some x => exact Image.OnlyIn.set placed 2 b
  have hheader : Image.OnlyIn marked ((marked.set 0 h0).set 1 h1) 0 2 :=
    ((Image.OnlyIn.set marked 0 h0).mono (Nat.le_refl 0) (by omega)).trans
      ((Image.OnlyIn.set _ 1 h1).mono (by omega) (by omega))
  have hencloses := Image.OnlyIn.copy ((marked.set 0 h0).set 1 h1) encl (hdrLen + source.length) 0
    target.length
  simp only [Image.contains_append, Image.contains_cons, Image.contains_nil, and_true,
    List.length_append, List.length_cons, List.length_nil, Nat.zero_add]
  refine ⟨⟨⟨⟨⟨?_, ?_⟩, ?_⟩, ?_⟩, ?_⟩, ?_⟩
  · rw [hencloses 0 (by omega), Image.set_of_ne (by decide), Image.set_self]
  · rw [hencloses 1 (by omega), Image.set_self]
  · refine hencloses.contains (hheader.contains ?_ (.inr (Nat.le_refl 2))) (.inl (by omega))
    rw [hmarked]
    cases backlog with
    | none => exact Image.contains_nil _ _
    | some x =>
      refine Image.contains_cons.mpr ⟨?_, Image.contains_nil _ _⟩
      rw [Option.isSome_some, if_pos rfl, Image.set_self]
      exact hb x rfl
  · rw [← hlen]
    refine hencloses.contains (hheader.contains (hmark.contains hplaced ?_) ?_) ?_
    · exact .inr (by omega)
    · exact .inr (by omega)
    · exact .inl (Nat.le_refl _)
  · rw [← hlen]
    exact hencl.copy _ _
  · rw [← hlen, show hdrLen + source.length + target.length =
      hdrLen + target.length + source.length by omega]
    have hbehind := (Image.OnlyIn.copy moved arb hdrLen 0 source.length).contains hmoved
      (.inr (by omega))
    refine hencloses.contains (hheader.contains (hmark.contains hbehind ?_) ?_) ?_
    · exact .inr (by omega)
    · exact .inr (by omega)
    · exact .inr (by omega)

section

variable {D D' : Image} {len : Nat} (h : ∀ k < len, D k = D' k)

include h

theorem generateLonUdpAddress_congr (subnetId nodeId : UInt8) :
    generateLonUdpAddress D len subnetId nodeId = generateLonUdpAddress D' len subnetId nodeId := by
  have hleading : ∀ l, l = 0 ∨ l = len →
      generateLonUdpAddrPrefix D l subnetId = generateLonUdpAddrPrefix D' l subnetId := by
    intro l hl
    unfold generateLonUdpAddrPrefix
    split
    case isTrue => rfl
    case isFalse hz =>
      have hl : l = len := hl.resolve_left fun h0 => hz (.inl h0)
      subst hl
      rw [h 0 (by omega)]
      split
      case isTrue => rfl
      case isFalse h1 => rw [h 1 (by omega)]
  unfold generateLonUdpAddress
  dsimp only
  rw [hleading _ (ite_eq_or_eq _ _ _)]

theorem findMappingInfo_congr (m : AddressMap) (subnetId nodeId : UInt8) :
    m.findMappingInfo (lsAddress D len subnetId nodeId) =
      m.findMappingInfo (lsAddress D' len subnetId nodeId) := by
  have htake : (lsAddress D len subnetId nodeId).domainId.toList.take (comparedLen len) =
      (lsAddress D' len subnetId nodeId).domainId.toList.take (comparedLen len) := by
    have hc : comparedLen len ≤ len := by
      unfold comparedLen
      split <;> omega
    refine List.ext_getElem (by simp) fun k hk _ => ?_
    rw [List.length_take] at hk
    simp [lsAddress, h k (by omega)]
  have hmatches : ∀ e : LsMappingInfo, e.matches (lsAddress D len subnetId nodeId) =
      e.matches (lsAddress D' len subnetId nodeId) := by
    intro e
    unfold LsMappingInfo.matches
    have hl : ∀ D : Image, (lsAddress D len subnetId nodeId).domainLen = len := fun _ => rfl
    rw [hl, hl, htake]
    rfl
  unfold AddressMap.findMappingInfo
  simp only [hmatches]

end

theorem generateLonUdpAddress_node {D : Image} {len : Nat} {subnetId nodeId nodeId' : UInt8}
    (h : nodeId &&& NODE_ID_MASK = nodeId' &&& NODE_ID_MASK) :
    generateLonUdpAddress D len subnetId nodeId = generateLonUdpAddress D len subnetId nodeId' := by
  unfold generateLonUdpAddress
  rw [h]

theorem and_setSelField (a : SubnetNode) (bit : Bool) :
    (a.setSelField bit).node &&& NODE_ID_MASK = a.nodeId :=
  forall_byte (P := fun b => ∀ bit : Bool,
    ((b &&& 0x7F) ||| (if bit then (0x80 : UInt8) else 0)) &&& 0x7F = b &&& 0x7F)
    (by decide +kernel) a.node bit

theorem IpDomain.length_le {d : List UInt8} (hd : IpDomain d) : d.length ≤ 3 := by
  cases hd <;> simp

theorem IpDomain.lenCode_lt {d : List UInt8} (hd : IpDomain d) :
    getDomainLenEncoding d.length < 4 := by
  cases hd with
  | empty => decide
  | one a => exact (by decide : getDomainLenEncoding 1 < 4)
  | three a b => exact (by decide : getDomainLenEncoding 3 < 4)

theorem IpDomain.decode_lenCode {d : List UInt8} (hd : IpDomain d) :
    decodeDomainLength (getDomainLenEncoding d.length) = d.length := by
  cases hd with
  | empty => rfl
  | one a => exact (by decide : decodeDomainLength (getDomainLenEncoding 1) = 1)
  | three a b => exact (by decide : decodeDomainLength (getDomainLenEncoding 3) = 3)

theorem generateLonUdpAddress_parts {d : List UInt8} (hd : IpDomain d) {subnetId nodeId : UInt8}
    (hs : subnetId ≠ 0) (hn : nodeId &&& NODE_ID_MASK ≠ 0) :
    generateLonUdpAddress (fun k => d.getD k 0) d.length subnetId nodeId =
      #v[(domainPrefix d).1, (domainPrefix d).2, subnetId, nodeId &&& NODE_ID_MASK] := by
  have hlen := hd.length_le
  have hn' : ¬(6 < d.length ∨ subnetId = 0 ∨
      (if 6 < d.length then 0 else nodeId &&& NODE_ID_MASK) = 0) := by
    rw [if_neg (by omega)]
    rintro (h | h | h)
    · omega
    · exact hs h
    · exact hn h
  unfold generateLonUdpAddress
  dsimp only
  rw [if_neg hn', if_neg (by omega)]
  cases hd <;> rfl

namespace LonVxNpdu

variable {v : LonVxNpdu}

theorem addrFmt_lt (v : LonVxNpdu) : v.dest.addrFmt.getD 0 < 4 := by
  cases h : v.dest.addrFmt with
  | none => decide
  | some fmt => exact NetAddr.addrFmt_lt h

theorem typeByte_fields (v : LonVxNpdu) :
    (v.typeByte &&& IPV4_LON_VX_NPDU_MASK_VER) >>> 6 =
        (if v.enhanced then IPV4_LT_VER_ENHANCED else IPV4_LT_VER_LEGACY) ∧
      (v.typeByte &&& 0x30) >>> 4 = v.pduType.code ∧
      (v.typeByte &&& 0x0C) >>> 2 = v.dest.addrFmt.getD 0 ∧
      v.typeByte &&& 0x03 = getDomainLenEncoding v.domainId.length ∧
      v.typeByte = v.pduType.code <<< 4 ||| (if v.enhanced then IPV4_LT_VER_ENHANCED <<< 6 else 0) |||
        getDomainLenEncoding v.domainId.length ||| v.dest.addrFmt.getD 0 <<< 2 := by
  have hall : ∀ (e : Bool) (c f l : Fin 4),
      let b := Npdu.header (if e then 2 else 0) (UInt8.ofNat c) (UInt8.ofNat f) (UInt8.ofNat l)
      (b &&& IPV4_LON_VX_NPDU_MASK_VER) >>> 6 =
          (if e then IPV4_LT_VER_ENHANCED else IPV4_LT_VER_LEGACY) ∧
        (b &&& 0x30) >>> 4 = UInt8.ofNat c ∧ (b &&& 0x0C) >>> 2 = UInt8.ofNat f ∧
        b &&& 0x03 = UInt8.ofNat l ∧
        b = UInt8.ofNat c <<< 4 ||| (if e then IPV4_LT_VER_ENHANCED <<< 6 else 0) |||
          UInt8.ofNat l ||| UInt8.ofNat f <<< 2 := by
    decide +kernel
  have hc : v.pduType.code.toNat < 4 := by cases v.pduType <;> decide
  have := hall v.enhanced ⟨v.pduType.code.toNat, hc⟩
    ⟨(v.dest.addrFmt.getD 0).toNat, UInt8.lt_iff_toNat_lt.mp v.addrFmt_lt⟩
    ⟨(getDomainLenEncoding v.domainId.length).toNat, UInt8.lt_iff_toNat_lt.mp v.domain.lenCode_lt⟩
  simp only [UInt8.ofNat_toNat] at this
  exact this

theorem length_header (v : LonVxNpdu) :
    v.header.length = 3 + v.dest.bytes.length + v.domainId.length := by
  simp only [header, List.length_append, List.length_cons, List.length_nil]

end LonVxNpdu

namespace LonVxImage

variable {m : LonVxImage} {v : LonVxNpdu}

structure Holds (m : LonVxImage) (v : LonVxNpdu) : Prop where
  priDelta : m.image 0 = v.priDelta
  typeByte : m.image 1 = v.typeByte
  subnet : m.image 2 = v.source.subnet
  node : m.image 3 = (v.source.setSelField !v.isGroupResp).node
  dest : m.image.Contains 4 v.dest.bytes
  domainId : m.image.Contains (4 + v.dest.bytes.length) v.domainId
  pdu : m.image.Contains (4 + v.dest.bytes.length + v.domainId.length) v.pdu
  lastByte : m.image (v.header.length) = v.lastByte

theorem holds_of_contains (h : m.image.Contains 0 v.bytes) : m.Holds v := by
  have hlast : m.image v.header.length = v.lastByte := by
    have hpos : 0 < v.header.length := by
      rw [v.length_header]
      omega
    have hlt : v.header.length < v.bytes.length := by
      simp only [LonVxNpdu.bytes, List.length_append, List.length_cons]
      omega
    have hg := h.getElem hlt
    rw [Nat.zero_add] at hg
    rw [hg, LonVxNpdu.lastByte, List.getLastD_eq_getLast?, List.getLast?_eq_getElem?,
      List.getElem?_eq_getElem (by omega), Option.getD_some]
    simp only [LonVxNpdu.bytes, List.cons_append]
    rw [List.getElem_cons, dif_neg (by omega), List.getElem_append_left (by omega)]
  unfold LonVxNpdu.bytes LonVxNpdu.header at h
  simp only [Image.contains_append, Image.contains_cons, Nat.zero_add, List.cons_append,
    List.append_assoc, List.nil_append] at h
  obtain ⟨h0, h1, h2, h3, hd, hdom, hpdu⟩ := h
  exact ⟨h0, h1, h2, h3, hd, hdom, hpdu, hlast⟩

namespace Holds

theorem version (h : m.Holds v) :
    m.version = if v.enhanced then IPV4_LT_VER_ENHANCED else IPV4_LT_VER_LEGACY := by
  unfold LonVxImage.version
  rw [h.typeByte]
  exact v.typeByte_fields.1

theorem pduFmt (h : m.Holds v) : m.pduFmt = v.pduType.code := by
  unfold LonVxImage.pduFmt
  rw [h.typeByte]
  exact v.typeByte_fields.2.1

theorem addrFmt (h : m.Holds v) : m.addrFmt = v.dest.addrFmt.getD 0 := by
  unfold LonVxImage.addrFmt
  rw [h.typeByte]
  exact v.typeByte_fields.2.2.1

theorem domainLen (h : m.Holds v) : m.domainLen = v.domainId.length := by
  unfold LonVxImage.domainLen
  rw [h.typeByte, v.typeByte_fields.2.2.2.1, v.domain.decode_lenCode]

theorem isGroupResp (h : m.Holds v) : m.isGroupResp = v.isGroupResp := by
  have hflag := SubnetNode.selField_setSelField v.source (!v.isGroupResp)
  unfold LonVxImage.isGroupResp
  rw [h.node]
  cases hg : v.isGroupResp with
  | true =>
    rw [hg] at hflag
    exact decide_eq_true (by_contra fun hne => absurd (hflag.mp hne) (by decide))
  | false =>
    rw [hg] at hflag
    exact decide_eq_false (hflag.mpr rfl)

theorem domain_eq (h : m.Holds v) {off : Nat} (hoff : off = 4 + v.dest.bytes.length) :
    ∀ k < v.domainId.length, m.image (off + k) = v.domainImage k := by
  intro k hk
  rw [hoff, h.domainId.getElem hk]
  simp [LonVxNpdu.domainImage, hk]

end Holds

end LonVxImage

structure LsUdpFormat.Fits (f : LsUdpFormat) (n : UdpNode) (v : LonVxNpdu) : Prop where
  domainOffset : f.domainOffset = 4 + v.dest.bytes.length
  hdrLen : f.lsUdpHdrLen = 2 + (v.message n).backlog.toList.length
  hdr1 : f.lsUdpHdrByte1 = v.pduType.code |||
    (if (v.message n).backlog.isSome then IPV4_LSUDP_NPDU_MASK_MCR else 0) ||| (v.target n).fmt
  enclosed : f.lsUdpEnclosedAddr.Contains 0 (v.target n).bytes
  enclosedLen : f.lsUdpEnclosedAddrLen = (v.target n).bytes.length

namespace LonVxImage.Holds

variable {m : LonVxImage} {v : LonVxNpdu} (n : UdpNode) (uninit : Image)

theorem includesBacklog (h : m.Holds v) (hv : v.isMulticast = true)
    (hlen : v.dest.bytes.length = 1) : m.includesBacklog = v.includesBacklog := by
  have hlast := h.lastByte
  rw [v.length_header, hlen] at hlast
  unfold LonVxImage.includesBacklog LonVxNpdu.includesBacklog
  have hcode : v.pduType.code = ENCLOSED_PDU_TYPE_TPDU ∨ v.pduType.code = ENCLOSED_PDU_TYPE_SPDU ↔
      v.pduType = .tpdu ∨ v.pduType = .spdu := by
    cases v.pduType <;> decide
  simp only [h.domainLen, h.pduFmt, ← hlast, hv, hcode, true_and]

theorem message_backlog_none (hv : v.includesBacklog = false) : (v.message n).backlog = none := by
  show (if v.includesBacklog then _ else none : Option UInt8) = none
  rw [if_neg (by rw [hv]; decide)]

theorem includesBacklog_of_not_multicast (hv : v.isMulticast = false) :
    v.includesBacklog = false := by
  unfold LonVxNpdu.includesBacklog
  rw [hv]
  exact decide_eq_false fun h => absurd h.1 (by decide)

theorem backlog_eq (v : LonVxNpdu) :
    (v.message n).backlog.toList.length = (if v.includesBacklog then 1 else 0) ∧
      (v.message n).backlog.isSome = v.includesBacklog := by
  cases hb : v.includesBacklog with
  | true =>
    have : (v.message n).backlog = some (v.priDelta &&& IPV4_LON_VX_NPDU_MASK_DELTA_BACKLOG) :=
      if_pos hb
    rw [this]
    exact ⟨rfl, rfl⟩
  | false =>
    rw [message_backlog_none n hb]
    exact ⟨rfl, rfl⟩

theorem multicastFormat_fits (h : m.Holds v) (hv : v.isMulticast = true) :
    (m.multicastFormat uninit).Fits n v := by
  obtain ⟨hlen, hsome⟩ := backlog_eq n v
  cases hd : v.dest with
  | broadcast subnet =>
    have hfmt : m.addrFmt = LT_AF_BROADCAST := by rw [h.addrFmt, hd]; rfl
    have hdest : m.image 4 = subnet := by
      have := h.dest
      rw [hd] at this
      exact (Image.contains_cons.mp this).1
    have hb := h.includesBacklog hv (by rw [hd]; rfl)
    have htarget : v.target n =
        if subnet = 0 then .domainBroadcast else .subnetBroadcast subnet := by
      rw [LonVxNpdu.target, hd]
    refine ⟨by rw [hd]; rfl, ?_, ?_, ?_, ?_⟩
    · show (if m.includesBacklog then 3 else 2) = _
      rw [hlen, hb]
      split <;> rfl
    · show m.pduFmt ||| (if m.includesBacklog then _ else 0) |||
        (if m.addrFmt = _ then if m.image 4 = 0 then _ else _ else _) = _
      rw [hsome, hb, h.pduFmt, hfmt, if_pos rfl, hdest, htarget]
      by_cases hz : subnet = 0
      · rw [if_pos hz, if_pos hz]
        rfl
      · rw [if_neg hz, if_neg hz]
        rfl
    · rw [htarget]
      split
      · exact Image.contains_nil _ _
      · refine Image.contains_cons.mpr ⟨?_, Image.contains_nil _ _⟩
        show uninit.set 0 (m.image 4) 0 = subnet
        rw [Image.set_self, hdest]
    · show (if m.addrFmt = _ ∧ m.image 4 = 0 then 0 else 1) = _
      rw [hfmt, hdest, htarget]
      by_cases hz : subnet = 0
      · rw [if_pos ⟨rfl, hz⟩, if_pos hz]
        rfl
      · rw [if_neg fun hx => hz hx.2, if_neg hz]
        rfl
  | multicast group =>
    have hfmt : m.addrFmt = LT_AF_GROUP := by rw [h.addrFmt, hd]; rfl
    have hdest : m.image 4 = group := by
      have := h.dest
      rw [hd] at this
      exact (Image.contains_cons.mp this).1
    have hb := h.includesBacklog hv (by rw [hd]; rfl)
    have htarget : v.target n = .group group := by rw [LonVxNpdu.target, hd]
    have hne : ¬LT_AF_GROUP = LT_AF_BROADCAST := by decide
    refine ⟨by rw [hd]; rfl, ?_, ?_, ?_, ?_⟩
    · show (if m.includesBacklog then 3 else 2) = _
      rw [hlen, hb]
      split <;> rfl
    · show m.pduFmt ||| (if m.includesBacklog then _ else 0) |||
        (if m.addrFmt = _ then if m.image 4 = 0 then _ else _ else _) = _
      rw [hsome, hb, h.pduFmt, hfmt, if_neg hne, htarget]
      rfl
    · rw [htarget]
      refine Image.contains_cons.mpr ⟨?_, Image.contains_nil _ _⟩
      show uninit.set 0 (m.image 4) 0 = group
      rw [Image.set_self, hdest]
    · show (if m.addrFmt = _ ∧ m.image 4 = 0 then 0 else 1) = _
      rw [hfmt, if_neg fun hx => hne hx.1, htarget]
      rfl
  | _ =>
    rw [LonVxNpdu.isMulticast, hd] at hv
    exact absurd hv Bool.false_ne_true

theorem uniqueIdFormat_fits (h : m.Holds v) {subnet : UInt8} {id : UniqueId}
    (hd : v.dest = .uniqueNodeId subnet id) : (m.uniqueIdFormat uninit).Fits n v := by
  have hm : v.isMulticast = false := by rw [LonVxNpdu.isMulticast, hd]
  have hb := message_backlog_none n (includesBacklog_of_not_multicast hm)
  have htarget : v.target n = .broadcastNeuronId subnet id := by rw [LonVxNpdu.target, hd]
  have hdest := h.dest
  rw [hd, NetAddr.bytes, Image.contains_cons] at hdest
  obtain ⟨hsubnet, hid⟩ := hdest
  have hlen : v.dest.bytes.length = 7 := by
    rw [hd, NetAddr.bytes, List.length_cons, Vector.length_toList]
  refine ⟨by rw [hlen]; rfl, by rw [hb]; rfl, ?_, ?_, ?_⟩
  · show m.pduFmt ||| _ = _
    rw [hb, h.pduFmt, htarget]
    exact congrArg (· ||| _) UInt8.or_zero.symm
  · rw [htarget]
    refine Image.contains_cons.mpr ⟨?_, ?_⟩
    · show Image.copy (uninit.set 0 (m.image 4)) 1 m.image 5 6 0 = subnet
      rw [Image.copy_of_not_mem (by omega), Image.set_self, hsubnet]
    · have := hid.copy (uninit.set 0 (m.image 4)) 1
      rw [Vector.length_toList] at this
      exact this
  · rw [htarget, LsUdpTarget.bytes, List.length_cons, Vector.length_toList]
    rfl

theorem ipv4GetArbitraryDestAddress_spec (n : UdpNode) (v : LonVxNpdu) {D : Image}
    (hD : ∀ k < v.domainId.length, D k = v.domainImage k) (a : SubnetNode) {fmt : UInt8}
    (hfmt : fmt ≠ IPV4_LSUDP_NPDU_ADDR_FMT_GROUP_RESP ∨ v.explicit n a = false)
    (dest : IpAddress) (uninit : Image) :
    ∃ dest', n.ipv4GetArbitraryDestAddress D v.domainId.length a.subnet (a.setSelField true).node fmt
        dest uninit =
      if v.explicit n a then (2, (uninit.set 0 a.subnet).set 1 a.nodeId, dest')
      else (0, uninit, dest') := by
  unfold UdpNode.ipv4GetArbitraryDestAddress
  dsimp only
  rw [findMappingInfo_congr hD, and_setSelField]
  cases hi : n.map.findMappingInfo
      (lsAddress v.domainImage v.domainId.length a.subnet (a.setSelField true).node) with
  | none =>
    have he : v.explicit n a = true := by rw [LonVxNpdu.explicit, hi]
    rw [he] at hfmt
    rw [if_neg (hfmt.resolve_right (by decide))]
    exact ⟨_, (if_pos he).symm⟩
  | some i =>
    have he : v.explicit n a = decide ((n.map.lsMapInfo i).state = .arbitrary) := by
      rw [LonVxNpdu.explicit, hi]
    dsimp only
    by_cases ha : (n.map.lsMapInfo i).state = .arbitrary
    · rw [decide_eq_true ha] at he
      rw [he] at hfmt
      rw [if_pos ha, if_neg (hfmt.resolve_right (by decide))]
      exact ⟨_, (if_pos he).symm⟩
    · rw [decide_eq_false ha] at he
      rw [if_neg ha]
      exact ⟨_, (if_neg (by rw [he]; decide)).symm⟩

theorem subnetNodeFormat_fits_subnetNode (h : m.Holds v) {a : SubnetNode}
    (hd : v.dest = .subnetNode a) : (m.subnetNodeFormat n uninit).Fits n v := by
  have hm : v.isMulticast = false := by rw [LonVxNpdu.isMulticast, hd]
  have hb := message_backlog_none n (includesBacklog_of_not_multicast hm)
  have hg : m.isGroupResp = false := by rw [h.isGroupResp, LonVxNpdu.isGroupResp, hd]
  have htarget : v.target n =
      if v.explicit n a then .expSubnetNode a.subnet a.nodeId else .subnetNode := by
    rw [LonVxNpdu.target, hd]
  have hdest := h.dest
  rw [hd, NetAddr.bytes, Image.contains_cons, Image.contains_cons] at hdest
  obtain ⟨hsubnet, hnode, -⟩ := hdest
  have hlen : v.dest.bytes.length = 2 := by rw [hd]; rfl
  obtain ⟨dest', hspec⟩ := ipv4GetArbitraryDestAddress_spec n v
    (h.domain_eq (show 6 = 4 + v.dest.bytes.length by rw [hlen])) a
    (.inl (by decide : IPV4_LSUDP_NPDU_ADDR_FMT_SUBNET_NODE ≠ IPV4_LSUDP_NPDU_ADDR_FMT_GROUP_RESP))
    (generateLonUdpAddress (fun k => m.image (6 + k)) m.domainLen (m.image 4) (m.image 5)) uninit
  have hformat : m.subnetNodeFormat n uninit =
      ⟨6, 2, v.pduType.code ||| (v.target n).fmt,
        if v.explicit n a then (uninit.set 0 a.subnet).set 1 a.nodeId else uninit,
        (v.target n).bytes.length, dest'⟩ := by
    unfold LonVxImage.subnetNodeFormat
    rw [hg]
    dsimp only
    rw [if_neg Bool.false_ne_true, if_neg Bool.false_ne_true, h.domainLen, hsubnet, hnode]
    rw [h.domainLen, hsubnet, hnode] at hspec
    rw [hspec, htarget, h.pduFmt]
    split <;> rfl
  rw [hformat]
  refine ⟨by rw [hlen], by rw [hb]; rfl, ?_, ?_, rfl⟩
  · rw [hb]
    exact congrArg (· ||| _) UInt8.or_zero.symm
  · rw [htarget]
    split
    · exact Image.contains_set_set _ _ _
    · exact Image.contains_nil _ _

theorem subnetNodeFormat_fits_groupResp (h : m.Holds v) {a : MulticastAckAddress}
    (hd : v.dest = .multicastAck a) (he : v.explicit n a.subnetAddr = false) :
    (m.subnetNodeFormat n uninit).Fits n v := by
  have hm : v.isMulticast = false := by rw [LonVxNpdu.isMulticast, hd]
  have hb := message_backlog_none n (includesBacklog_of_not_multicast hm)
  have hg : m.isGroupResp = true := by rw [h.isGroupResp, LonVxNpdu.isGroupResp, hd]
  have htarget : v.target n = .groupResp a.groupId a.member := by rw [LonVxNpdu.target, hd]
  have hdest := h.dest
  rw [hd, NetAddr.bytes] at hdest
  simp only [Image.contains_cons, Image.contains_nil, and_true] at hdest
  obtain ⟨hsubnet, hnode, hgroup, hmember⟩ := hdest
  have hlen : v.dest.bytes.length = 4 := by rw [hd]; rfl
  obtain ⟨dest', hspec⟩ := ipv4GetArbitraryDestAddress_spec n v
    (h.domain_eq (show 8 = 4 + v.dest.bytes.length by rw [hlen])) a.subnetAddr (.inr he)
    (generateLonUdpAddress (fun k => m.image (8 + k)) m.domainLen (m.image 4) (m.image 5)) uninit
  have hformat : m.subnetNodeFormat n uninit =
      ⟨8, 2, v.pduType.code ||| (v.target n).fmt,
        (uninit.set 0 a.groupId).set 1 a.member, 2, dest'⟩ := by
    unfold LonVxImage.subnetNodeFormat
    rw [hg]
    dsimp only
    rw [if_pos rfl, if_pos rfl, h.domainLen, hsubnet, hnode]
    rw [h.domainLen, hsubnet, hnode, if_neg (by rw [he]; decide)] at hspec
    rw [hspec, htarget, h.pduFmt, ← hgroup, ← hmember]
    rfl
  rw [hformat]
  refine ⟨by rw [hlen], by rw [hb]; rfl, ?_, ?_, ?_⟩
  · rw [hb]
    exact congrArg (· ||| _) UInt8.or_zero.symm
  · rw [htarget]
    exact Image.contains_set_set _ _ _
  · rw [htarget]
    rfl

theorem format_fits (h : m.Holds v)
    (he : ∀ a, v.dest = .multicastAck a → v.explicit n a.subnetAddr = false) :
    (m.format n uninit).Fits n v := by
  unfold LonVxImage.format
  rw [h.addrFmt]
  cases hd : v.dest with
  | unbound => exact absurd hd v.bound
  | subnetNode a => exact h.subnetNodeFormat_fits_subnetNode n uninit hd
  | multicastAck a => exact h.subnetNodeFormat_fits_groupResp n uninit hd (he a hd)
  | uniqueNodeId subnet id => exact h.uniqueIdFormat_fits n uninit hd
  | broadcast subnet => exact h.multicastFormat_fits n uninit (by rw [LonVxNpdu.isMulticast, hd])
  | multicast group => exact h.multicastFormat_fits n uninit (by rw [LonVxNpdu.isMulticast, hd])

end LonVxImage.Holds

theorem ipv4GetArbitrarySourceAddress_spec (n : UdpNode) (v : LonVxNpdu) {D : Image}
    (hD : ∀ k < v.domainId.length, D k = v.domainImage k) (uninit : Image) :
    ∃ arb, n.ipv4GetArbitrarySourceAddress v.derivedAddress D v.domainId.length uninit =
        ((v.message n).sourceBytes.length, arb, v.sourceAddress n) ∧
      arb.Contains 0 (v.message n).sourceBytes := by
  have hderived : v.derivedAddress = #v[(domainPrefix v.domainId).1, (domainPrefix v.domainId).2,
      v.source.subnet, v.source.nodeId] :=
    generateLonUdpAddress_parts v.domain v.subnet_ne v.node_ne
  have huses : n.usesArbitrary v.derivedAddress D v.domainId.length =
      n.usesArbitrary v.derivedAddress v.domainImage v.domainId.length := by
    have hhas : UdpNode.hasAddress D v.domainId.length =
        UdpNode.hasAddress v.domainImage v.domainId.length := by
      unfold UdpNode.hasAddress
      by_cases h3 : v.domainId.length = 3
      · rw [hD 2 (by omega)]
      · simp only [h3, false_and]
    unfold UdpNode.usesArbitrary
    rw [hhas]
  have hmatches : n.matchesDomain D v.domainId.length =
      n.matchesDomain v.domainImage v.domainId.length := by
    unfold UdpNode.matchesDomain
    rw [generateLonUdpAddress_congr hD]
  have hsubnet : v.derivedAddress.image 2 = v.source.subnet := by rw [hderived]; rfl
  have hnode : v.derivedAddress.image 3 &&& NODE_ID_MASK = v.source.nodeId := by
    rw [hderived]
    exact (UInt8.and_assoc _ _ _).trans (congrArg (v.source.node &&& ·) (UInt8.and_self))
  have hbytes : (v.message n).sourceBytes =
      ((v.arbitrarySource n).map LsUdpSource.bytes).getD [] := rfl
  unfold UdpNode.ipv4GetArbitrarySourceAddress LonVxNpdu.sourceAddress
  dsimp only
  rw [huses, hmatches, hsubnet, hnode, hbytes]
  unfold LonVxNpdu.arbitrarySource
  cases n.usesArbitrary v.derivedAddress v.domainImage v.domainId.length with
  | false => exact ⟨uninit, rfl, Image.contains_nil _ _⟩
  | true =>
    cases n.matchesDomain v.domainImage v.domainId.length with
    | true => exact ⟨_, rfl, Image.contains_set_set _ _ _⟩
    | false =>
      refine ⟨_, Prod.ext ?_ (Prod.ext rfl rfl), ?_⟩
      · show 3 + v.domainId.length = ([v.source.subnet, v.source.nodeId ||| 0x80,
          getDomainLenEncoding v.domainId.length] ++ v.domainId).length
        rw [List.length_append]
        rfl
      · have hdomain : D.Contains 0 v.domainId := by
          refine List.ext_getElem (by rw [Image.length_slice]) fun k hk _ => ?_
          rw [Image.length_slice] at hk
          simp [Image.slice, hD k hk, LonVxNpdu.domainImage, hk]
        have hcopied := hdomain.copy (uninit.set 2 (getDomainLenEncoding v.domainId.length)) 3
        refine Image.contains_append.mpr ⟨?_, ?_⟩
        · refine Image.contains_cons.mpr ⟨?_, Image.contains_cons.mpr ⟨?_,
            Image.contains_cons.mpr ⟨?_, Image.contains_nil _ _⟩⟩⟩
          · rw [Image.set_of_ne (by decide), Image.set_of_ne (by decide), Image.set_self]
          · rw [Image.set_self, Image.set_self]
          · rw [Image.set_of_ne (by decide), Image.set_of_ne (by decide),
              Image.set_of_ne (by decide), Image.copy_of_not_mem (by omega), Image.set_self]
        · have hfirst := (Image.OnlyIn.set _ 0 v.source.subnet).contains hcopied (.inr (by decide))
          have hsecond := (Image.OnlyIn.set _ 1 v.source.nodeId).contains hfirst (.inr (by decide))
          exact (Image.OnlyIn.set _ 1 _).contains hsecond (.inr (by decide : 1 + 1 ≤ 3))

theorem LsUdpTarget.length_bytes_le (t : LsUdpTarget) : t.bytes.length ≤ 7 := by
  cases t with
  | broadcastNeuronId subnet id =>
    rw [bytes, List.length_cons, Vector.length_toList]
  | _ => simp [bytes]

theorem LonVxNpdu.length_message_le (v : LonVxNpdu) (n : UdpNode) :
    (v.message n).bytes.length ≤ 16 + MAX_PDU_SIZE := by
  have hpdu : (v.message n).pdu.length ≤ MAX_PDU_SIZE := v.length_le
  have htarget := (v.message n).target.length_bytes_le
  have hdomain := v.domain.length_le
  have hbacklog : (v.message n).backlog.toList.length ≤ 1 := by
    cases (v.message n).backlog <;> simp
  have hsource : (v.message n).sourceBytes.length ≤ 6 := by
    show (((v.arbitrarySource n).map LsUdpSource.bytes).getD []).length ≤ 6
    unfold LonVxNpdu.arbitrarySource
    split
    · split
      · simp [LsUdpSource.bytes]
      · simp [LsUdpSource.bytes]
        omega
    · simp
  rw [LsUdpMessage.length_bytes, LsUdpMessage.targetAt]
  omega

theorem UdpNode.convertLonVxToLonUdp_spec (n : UdpNode) {m : LonVxImage} {v : LonVxNpdu}
    (uninit : Image) {pduLen : UInt16} (pSourceAddr pDestAddr : IpAddress) (h : m.Holds v)
    (he : ∀ a, v.dest = .multicastAck a → v.explicit n a.subnetAddr = false)
    (hlen : pduLen.toNat = v.bytes.length) :
    (n.convertLonVxToLonUdp uninit m pduLen pSourceAddr pDestAddr).payload.image.Contains 0
        (v.message n).bytes ∧
      (n.convertLonVxToLonUdp uninit m pduLen pSourceAddr pDestAddr).len.toNat =
        (v.message n).bytes.length ∧
      (n.convertLonVxToLonUdp uninit m pduLen pSourceAddr pDestAddr).sourceAddr =
        v.sourceAddress n := by
  have hf := h.format_fits n uninit he
  have hD := h.domain_eq hf.domainOffset
  obtain ⟨arb, harb, hsource⟩ := ipv4GetArbitrarySourceAddress_spec n v hD uninit
  have hversion : ¬(m.version ≠ IPV4_LT_VER_LEGACY ∧ m.version ≠ IPV4_LT_VER_ENHANCED) := by
    rw [h.version]
    cases v.enhanced <;> decide
  have hderived : generateLonUdpAddress (fun k => m.image ((m.format n uninit).domainOffset + k))
      m.domainLen (m.image 2) (m.image 3) = v.derivedAddress := by
    rw [h.domainLen, generateLonUdpAddress_congr hD, h.subnet, h.node]
    exact generateLonUdpAddress_node (and_setSelField v.source _)
  have hpdu : (pduLen - .ofNat ((m.format n uninit).domainOffset + m.domainLen)).toNat =
      v.pdu.length := by
    have hv : v.bytes.length = 4 + v.dest.bytes.length + v.domainId.length + v.pdu.length := by
      simp only [LonVxNpdu.bytes, List.length_append, List.length_cons, v.length_header]
      omega
    have := pduLen.toNat_lt
    rw [hf.domainOffset, h.domainLen, UInt16.toNat_sub, UInt16.toNat_ofNat']
    omega
  unfold convertLonVxToLonUdp
  rw [if_neg hversion]
  dsimp only
  rw [hderived, h.domainLen] 
  rw [h.domainLen] at hpdu
  rw [harb, hpdu]
  dsimp only
  rw [hf.hdrLen, hf.enclosedLen, hf.hdr1]
  have hhdr1 : v.pduType.code |||
        (if (v.message n).backlog.isSome then IPV4_LSUDP_NPDU_MASK_MCR else 0) |||
        (v.target n).fmt |||
      (if m.image 0 &&& IPV4_LON_VX_NPDU_MASK_PRIORITY ≠ 0 then IPV4_LSUDP_NPDU_MASK_PRIORITY
        else 0) = (v.message n).hdr1 := by
    rw [h.priDelta]
    simp [LsUdpMessage.hdr1, LonVxNpdu.message]
  have hmcr := (hdr1_fields (v.message n).pduType (v.message n).backlog.isSome
    (v.message n).priority (v.message n).target.fmt_mem rfl).2.1
  change (v.message n).hdr1 &&& IPV4_LSUDP_NPDU_MASK_MCR ≠ 0 ↔ _ at hmcr
  simp only [hhdr1, hmcr]
  set placed := (m.image.copy (2 + (v.message n).backlog.toList.length + (v.target n).bytes.length +
    (v.message n).sourceBytes.length) m.image ((m.format n uninit).domainOffset + v.domainId.length)
    v.pdu.length).copy (2 + (v.message n).backlog.toList.length) arb 0
    (v.message n).sourceBytes.length with hplaced
  have hkeeps : ∀ k < 2, placed k = m.image k := by
    intro k hk
    rw [hplaced, Image.copy_of_not_mem (by omega), Image.copy_of_not_mem (by omega)]
  have hmarked : (if (v.message n).backlog.isSome = true then
      placed.set 2 (placed 0 &&& IPV4_LON_VX_NPDU_MASK_DELTA_BACKLOG) else placed) 1 =
        v.typeByte := by
    split
    · rw [Image.set_of_ne (by decide), hkeeps 1 (by decide), h.typeByte]
    · rw [hkeeps 1 (by decide), h.typeByte]
  have hhdr0 : (if (if v.enhanced then IPV4_LT_VER_ENHANCED else IPV4_LT_VER_LEGACY) =
        IPV4_LT_VER_LEGACY then IPV4_LSUDP_UDP_VER_LS_LEGACY else IPV4_LSUDP_UDP_VER_LS_ENHANCED) <<<
        4 ||| (if (v.message n).sourceBytes.length ≠ 0 then IPV4_LSUDP_NPDU_MASK_ARB_SOURCE else 0) =
      (v.message n).hdr0 := by
    have hsome : (v.message n).sourceBytes.length ≠ 0 ↔ (v.message n).source.isSome = true := by
      unfold LsUdpMessage.sourceBytes
      cases (v.message n).source with
      | none => simp
      | some s =>
        cases hd : s.domainId with
        | none => simp [LsUdpSource.bytes, hd]
        | some d => simp [LsUdpSource.bytes, hd]
    simp only [hsome]
    unfold LsUdpMessage.hdr0
    cases he : v.enhanced with
    | true => rw [show (v.message n).enhanced = true from he]; rfl
    | false => rw [show (v.message n).enhanced = false from he]; rfl
  rw [hmarked, v.typeByte_fields.1, hhdr0]
  refine ⟨?_, ?_, trivial⟩
  · refine contains_assemble hsource hf.enclosed ?_ rfl ?_
    · rw [hf.domainOffset]
      exact h.pdu
    · intro x hx
      have hx : (if v.includesBacklog then some (v.priDelta &&& IPV4_LON_VX_NPDU_MASK_DELTA_BACKLOG)
        else none) = some x := hx
      split at hx
      · rw [hkeeps 0 (by decide), h.priDelta]
        exact Option.some.inj hx
      · cases hx
  · have hle := v.length_message_le n
    have hmax : MAX_PDU_SIZE = 276 := rfl
    rw [LsUdpMessage.length_bytes, LsUdpMessage.targetAt] at hle ⊢
    change 2 + (v.message n).backlog.toList.length + (v.message n).sourceBytes.length +
      (v.target n).bytes.length + v.pdu.length ≤ _ at hle
    change _ = 2 + (v.message n).backlog.toList.length + (v.message n).sourceBytes.length +
      (v.target n).bytes.length + v.pdu.length
    rw [UInt16.toNat_add, hpdu, UInt16.toNat_ofNat']
    omega

namespace LonVxNpdu

variable (v : LonVxNpdu)

def NamesReceiver (domain : IzotDomain) : Prop :=
  match v.dest with
  | .subnetNode a => a.subnet = domain.subnet ∧ a.nodeId = domain.node
  | .multicastAck a => a.subnetAddr.subnet = domain.subnet ∧ a.subnetAddr.nodeId = domain.node
  | _ => True

def EnclosesDomain (n : UdpNode) : Prop :=
  n.usesArbitrary v.derivedAddress v.domainImage v.domainId.length = true ∧
    n.matchesDomain v.domainImage v.domainId.length = false

/-- All of the NPDU is there again but the backlog and the choice of the path. -/
structure Reconstructs (r : LonVx) : Prop where
  npdu : r.npdu.tail = v.bytes.tail
  ltVxLen : r.ltVxLen.toNat = v.bytes.length
  priority : r.npdu.headD 0 &&& IPV4_LON_VX_NPDU_MASK_PRIORITY =
    v.priDelta &&& IPV4_LON_VX_NPDU_MASK_PRIORITY

def KeepsBacklog (r : LonVx) : Prop :=
  r.npdu.headD 0 &&& IPV4_LON_VX_NPDU_MASK_DELTA_BACKLOG =
    v.priDelta &&& IPV4_LON_VX_NPDU_MASK_DELTA_BACKLOG

def ExpectsBacklog : Prop :=
  v.isMulticast = true ∧ (v.pduType = .tpdu ∨ v.pduType = .spdu) ∧ v.pdu.headD 0 &&& 0x70 = 0

/-- What the receiver makes of the NPDU when the sender has converted it and the payload and the
source address arrive as they were sent. -/
def Arrives (n n' : UdpNode) (P : LonVx → Prop) : Prop :=
  ∀ (uninit : Image) (m : LonVxImage) (pduLen : UInt16) (pSourceAddr pDestAddr : IpAddress)
    (u : LsUdpPayload), m.image.Contains 0 v.bytes → pduLen.toNat = v.bytes.length →
      let p := n.convertLonVxToLonUdp uninit m pduLen pSourceAddr pDestAddr
      (∀ k < p.len.toNat, u.image k = p.payload.image k) →
        P (n'.convertLonUdpToLonVx u p.sourceAddr p.len).2

variable {v} {n : UdpNode}

theorem derivedAddress_eq (v : LonVxNpdu) :
    v.derivedAddress = #v[(domainPrefix v.domainId).1, (domainPrefix v.domainId).2,
      v.source.subnet, v.source.nodeId] :=
  generateLonUdpAddress_parts v.domain v.subnet_ne v.node_ne

theorem enclosedDomain_message (v : LonVxNpdu) (n : UdpNode) {d : List UInt8}
    (h : (v.message n).enclosedDomain = some d) : d = v.domainId := by
  obtain ⟨s, hs, hd⟩ := Option.bind_eq_some_iff.mp h
  have hs : v.arbitrarySource n = some s := hs
  unfold arbitrarySource at hs
  split at hs
  · cases hs
    dsimp only at hd
    split at hd
    · cases hd
    · exact (Option.some.inj hd).symm
  · cases hs

theorem enclosedDomain_of_encloses (h : v.EnclosesDomain n) :
    (v.message n).enclosedDomain = some v.domainId := by
  have hs : (v.message n).source = some ⟨v.source, some v.domainId⟩ := by
    show v.arbitrarySource n = _
    unfold arbitrarySource
    rw [if_pos h.1, if_neg (by rw [h.2]; decide)]
  rw [LsUdpMessage.enclosedDomain, hs]
  rfl

theorem sourceAddress_prefix (h : (v.message n).enclosedDomain = none) :
    (v.sourceAddress n).image 0 = (domainPrefix v.domainId).1 ∧
      (v.sourceAddress n).image 1 = (domainPrefix v.domainId).2 := by
  unfold sourceAddress
  split
  case isTrue hu =>
    have hm : n.matchesDomain v.domainImage v.domainId.length = true := by
      by_contra hm
      have he := enclosedDomain_of_encloses ⟨hu, Bool.eq_false_of_not_eq_true hm⟩
      rw [h] at he
      cases he
    have htake := decide_eq_true_iff.mp hm
    have hleading : generateLonUdpAddress v.domainImage v.domainId.length 1 1 =
        #v[(domainPrefix v.domainId).1, (domainPrefix v.domainId).2, 1, 1] :=
      generateLonUdpAddress_parts v.domain (by decide) (by decide)
    rw [hleading] at htake
    have h0 := congrArg (·[0]?) htake
    have h1 := congrArg (·[1]?) htake
    simp at h0 h1
    exact ⟨(n.ownIpAddress.image_eq (by decide)).trans h0,
      (n.ownIpAddress.image_eq (by decide)).trans h1⟩
  case isFalse =>
    exact ⟨congrArg (·.image 0) v.derivedAddress_eq, congrArg (·.image 1) v.derivedAddress_eq⟩

theorem or_nodeId (a : SubnetNode) : (0x80 : UInt8) ||| a.nodeId = (a.setSelField true).node :=
  UInt8.or_comm _ _

theorem received_target (n : UdpNode) {domain : IzotDomain} (hnames : v.NamesReceiver domain)
    (start : Nat) :
    ((v.target n).received domain start).addrFmt = v.dest.addrFmt.getD 0 ∧
      ((v.target n).received domain start).isGroupResp = v.isGroupResp ∧
      ((v.target n).received domain start).bytes = v.dest.bytes := by
  unfold NamesReceiver at hnames
  unfold target isGroupResp
  cases hd : v.dest with
  | unbound => exact absurd hd v.bound
  | broadcast subnet =>
    dsimp only
    split
    case isTrue hz => exact ⟨rfl, rfl, congrArg (fun x => [x]) hz.symm⟩
    case isFalse => exact ⟨rfl, rfl, rfl⟩
  | multicast group => exact ⟨rfl, rfl, rfl⟩
  | subnetNode a =>
    rw [hd] at hnames
    obtain ⟨hsubnet, hnode⟩ := hnames
    dsimp only
    split
    case isTrue => exact ⟨rfl, rfl, congrArg (fun x => [a.subnet, x]) (or_nodeId a)⟩
    case isFalse =>
      refine ⟨rfl, rfl, ?_⟩
      show [domain.subnet, 0x80 ||| domain.node] = [a.subnet, (a.setSelField true).node]
      rw [← hsubnet, ← hnode, or_nodeId]
  | multicastAck a =>
    rw [hd] at hnames
    obtain ⟨hsubnet, hnode⟩ := hnames
    refine ⟨rfl, rfl, ?_⟩
    show [domain.subnet, 0x80 ||| domain.node, a.groupId, a.member] =
      [a.subnetAddr.subnet, (a.subnetAddr.setSelField true).node, a.groupId, a.member]
    rw [← hsubnet, ← hnode, or_nodeId]
  | uniqueNodeId subnet id => exact ⟨rfl, rfl, rfl⟩

theorem header_message (n : UdpNode) {domain : IzotDomain} (hnames : v.NamesReceiver domain) :
    (v.message n).header domain (v.sourceAddress n) v.domainId = v.header := by
  obtain ⟨hfmt, hgroup, hbytes⟩ := v.received_target n hnames (v.message n).targetAt
  have hsource : ((v.message n).source.map (·.addr.subnet)).getD ((v.sourceAddress n).image 2) =
        v.source.subnet ∧
      ((v.message n).source.map (·.addr.nodeId)).getD ((v.sourceAddress n).image 3) = v.source.nodeId := by
    show ((v.arbitrarySource n).map (·.addr.subnet)).getD ((v.sourceAddress n).image 2) = _ ∧
      ((v.arbitrarySource n).map (·.addr.nodeId)).getD ((v.sourceAddress n).image 3) = _
    unfold arbitrarySource sourceAddress
    split
    case isTrue => exact ⟨rfl, rfl⟩
    case isFalse =>
      exact ⟨congrArg (·.image 2) v.derivedAddress_eq, congrArg (·.image 3) v.derivedAddress_eq⟩
  have hnode : (if v.isGroupResp then ((0x80 : UInt8) ||| v.source.nodeId) &&& NODE_ID_MASK
      else 0x80 ||| v.source.nodeId) = (v.source.setSelField !v.isGroupResp).node := by
    rw [or_nodeId]
    cases v.isGroupResp with
    | true =>
      rw [if_pos rfl, and_setSelField]
      exact UInt8.or_zero.symm
    | false => rfl
  have htype : v.typeByte = (v.message n).pduType.code <<< 4 |||
      (if (v.message n).enhanced then IPV4_LT_VER_ENHANCED <<< 6 else 0) |||
      getDomainLenEncoding v.domainId.length ||| v.dest.addrFmt.getD 0 <<< 2 :=
    v.typeByte_fields.2.2.2.2
  have htarget : (v.message n).target = v.target n := rfl
  unfold LsUdpMessage.header
  dsimp only
  rw [hsource.1, hsource.2, htarget, hfmt, hgroup, hbytes, hnode, ← htype]
  rfl

theorem priDelta_message (v : LonVxNpdu) (n : UdpNode) :
    (v.message n).priDelta &&& IPV4_LON_VX_NPDU_MASK_PRIORITY =
        v.priDelta &&& IPV4_LON_VX_NPDU_MASK_PRIORITY ∧
      (v.includesBacklog = true → (v.message n).priDelta &&& IPV4_LON_VX_NPDU_MASK_DELTA_BACKLOG =
        v.priDelta &&& IPV4_LON_VX_NPDU_MASK_DELTA_BACKLOG) := by
  have hall := forall_byte (P := fun b => ∀ included : Bool,
    let x := (if decide (b &&& IPV4_LON_VX_NPDU_MASK_PRIORITY ≠ 0) = true then
        IPV4_LON_VX_NPDU_MASK_PRIORITY else 0) |||
      (((if included then some (b &&& IPV4_LON_VX_NPDU_MASK_DELTA_BACKLOG) else none).getD 0) &&&
        IPV4_LON_VX_NPDU_MASK_DELTA_BACKLOG)
    x &&& IPV4_LON_VX_NPDU_MASK_PRIORITY = b &&& IPV4_LON_VX_NPDU_MASK_PRIORITY ∧
      (included = true → x &&& IPV4_LON_VX_NPDU_MASK_DELTA_BACKLOG =
        b &&& IPV4_LON_VX_NPDU_MASK_DELTA_BACKLOG)) (by decide +kernel) v.priDelta
  exact hall v.includesBacklog

end LonVxNpdu

/-- Between a sender that knows the derived address of the node that a group response is for and
the receiver, an NPDU that is no announcement is carried over, when its domain is enclosed or its
addresses are those of no shorter domain. -/
theorem LonVxNpdu.arrives (v : LonVxNpdu) (n n' : UdpNode) (hnames : v.NamesReceiver n'.domain)
    (hann : ¬IsAnnouncement v.pduType v.pdu) (hdomain : v.EnclosesDomain n ∨ ¬Ambiguous v.domainId)
    (hresp : ∀ a, v.dest = .multicastAck a → v.explicit n a.subnetAddr = false) :
    v.Arrives n n' fun r =>
      v.Reconstructs r ∧ (v.includesBacklog = true → v.KeepsBacklog r) := by
  intro uninit m pduLen pSourceAddr pDestAddr u hm hlen p hu
  obtain ⟨hbytes, hplen, hsource⟩ := n.convertLonVxToLonUdp_spec uninit pSourceAddr pDestAddr
    (LonVxImage.holds_of_contains hm) hresp hlen
  have hholds : u.Holds (v.message n) := by
    refine LsUdpPayload.holds_of_contains (hbytes.congr fun k hk => ?_)
    rw [Nat.zero_add]
    exact hu k (hplen ▸ hk)
  have henc : ∀ d, (v.message n).enclosedDomain = some d → d = v.domainId :=
    fun d => v.enclosedDomain_message n
  have hd : u.HasDomain (v.sourceAddress n) v.domainId := by
    cases he : (v.message n).enclosedDomain with
    | some d => exact hholds.hasDomain_enclosed (henc d he ▸ he) v.domain
    | none =>
      have hamb : ¬Ambiguous v.domainId := by
        refine hdomain.resolve_left fun hz => ?_
        rw [v.enclosedDomain_of_encloses hz] at he
        cases he
      obtain ⟨h0, h1⟩ := v.sourceAddress_prefix he
      exact hholds.hasDomain_derived he v.domain hamb h0 h1
  have hplain : (v.message n).target.Plain := by
    show (v.target n).Plain
    unfold LonVxNpdu.target
    cases v.dest with
    | broadcast subnet =>
      dsimp only
      split <;> trivial
    | subnetNode a =>
      dsimp only
      split
      · exact node_flag.1 a.node
      · trivial
    | _ => trivial
  have hresult := n'.convertLonUdpToLonVx_of_holds hholds hd (fun d he => congrArg _ (henc d he))
    hplain hann hplen
  rw [v.header_message n hnames] at hresult
  show v.Reconstructs (n'.convertLonUdpToLonVx u p.sourceAddr p.len).2 ∧ _
  rw [hsource, hresult]
  obtain ⟨hpriority, hbacklog⟩ := v.priDelta_message n
  refine ⟨⟨rfl, ?_, hpriority⟩, hbacklog⟩
  have hv : v.bytes.length = v.pdu.length + v.header.length + 1 := by
    simp only [LonVxNpdu.bytes, List.length_append, List.length_cons]
    omega
  have := pduLen.toNat_lt
  show (UInt16.ofNat (v.pdu.length + v.header.length + 1)).toNat = _
  rw [UInt16.toNat_ofNat']
  omega

def someNpdu (a b : UInt8) : LonVxNpdu where
  priDelta := 0x85
  enhanced := true
  pduType := .tpdu
  source := ⟨1, 1⟩
  dest := .subnetNode ⟨1, 2⟩
  domainId := [a, b, 0]
  pdu := [0x01, 0x80]
  subnet_ne := show (1 : UInt8) ≠ 0 by decide
  node_ne := show (1 : UInt8) &&& 0x7F ≠ 0 by decide
  bound := NetAddr.noConfusion
  domain := .three a b
  length_le := by decide

theorem LonVxNpdu.arrives_someNpdu :
    (someNpdu 0x12 0x34).NamesReceiver UdpNode.udpNode.domain ∧
      ¬IsAnnouncement (someNpdu 0x12 0x34).pduType (someNpdu 0x12 0x34).pdu ∧
      ¬Ambiguous (someNpdu 0x12 0x34).domainId ∧
      (someNpdu 0x12 0x34).Arrives UdpNode.udpNode UdpNode.udpNode fun r =>
        (someNpdu 0x12 0x34).Reconstructs r ∧
          ((someNpdu 0x12 0x34).includesBacklog = true → (someNpdu 0x12 0x34).KeepsBacklog r) := by
  have hnames : (someNpdu 0x12 0x34).NamesReceiver UdpNode.udpNode.domain := ⟨rfl, rfl⟩
  have hann : ¬IsAnnouncement (someNpdu 0x12 0x34).pduType (someNpdu 0x12 0x34).pdu :=
    fun h => PduType.noConfusion h.1
  have hamb : ¬Ambiguous (someNpdu 0x12 0x34).domainId :=
    show ¬((0x12 : UInt8) = 0xC0 ∧ (0x34 : UInt8) = 0xA8 ∨ (0x12 : UInt8) = 10) by decide
  exact ⟨hnames, hann, hamb, LonVxNpdu.arrives _ _ _ hnames hann (.inr hamb)
    fun a h => NetAddr.noConfusion h⟩

def derivedNode : UdpNode := { UdpNode.udpNode with ownIpAddress := #v[10, 5, 1, 1] }

theorem LonVxNpdu.not_arrives :
    ¬∀ (v : LonVxNpdu) (n n' : UdpNode), v.NamesReceiver n'.domain →
      v.Arrives n n' fun r => v.Reconstructs r ∧ (v.ExpectsBacklog → v.KeepsBacklog r) := by
  intro hall
  have hm : Image.Contains (fun k => (someNpdu 10 5).bytes.getD k 0) 0 (someNpdu 10 5).bytes := by
    unfold Image.Contains
    decide
  have h := hall (someNpdu 10 5) derivedNode UdpNode.udpNode ⟨rfl, rfl⟩ (fun _ => 0)
    ⟨fun k => (someNpdu 10 5).bytes.getD k 0⟩ 11 default default _ hm (by decide) fun _ _ => rfl
  exact absurd h.1.ltVxLen (by decide)

end LonStack.LonUdp
