import LonStack.App.Datapoint
import LonStack.LonUdp.RoundTrip
import LonStack.NetMgmt.Truthful

namespace LonStack

abbrev IZOT_DHCP_FLAG : Attribute := ⟨8, 0x20, 5⟩
abbrev IZOT_AUTH_TYPE : Attribute := ⟨8, 0x18, 3⟩
abbrev IZOT_DOMAIN_ID_LENGTH : Attribute := ⟨8, 0x07, 0⟩

namespace LonUdp

open Lib

def domainOfPrefix (ownIpAddress : Image) : Image :=
  let domain : Image := fun _ => 0
  if ownIpAddress 0 = IPV4_DOMAIN_LEN_0_PREFIX_0 ∧ ownIpAddress 1 = IPV4_DOMAIN_LEN_0_PREFIX_1 then
    domain.setAttribute 0 IZOT_DOMAIN_ID_LENGTH 0
  else if ownIpAddress 0 = IPV4_DOMAIN_LEN_1_PREFIX then
    (domain.setAttribute 0 IZOT_DOMAIN_ID_LENGTH 1).set 0 (ownIpAddress 1)
  else
    (((domain.setAttribute 0 IZOT_DOMAIN_ID_LENGTH 3).set 0 (ownIpAddress 0)).set 1
      (ownIpAddress 1)).set 2 0

/-- The entry of the domain table for an address. What `rand` gives is used where the address does not
belong to a subnet and node. -/
def lonVxDomain (ownIpAddress : Image) (rand : Nat × Nat) : Image :=
  let domain := domainOfPrefix ownIpAddress
  let domain :=
    if 1 ≤ ownIpAddress 2 ∧ 1 ≤ ownIpAddress 3 ∧ ownIpAddress 3 ≤ 127 then
      (((domain.set 6 (ownIpAddress 2)).setAttribute 0 IZOT_DOMAIN_NODE
        (ownIpAddress 3)).setAttribute 0 IZOT_DHCP_FLAG 1).setAttribute 0 IZOT_LS_MODE 0
    else
      (((domain.set 6 (.ofNat (rand.1 % 254 + 1))).setAttribute 0 IZOT_DOMAIN_NODE
        (.ofNat (rand.2 % 126 + 1))).setAttribute 0 IZOT_DHCP_FLAG 0).setAttribute 0 IZOT_LS_MODE 1
  (((domain.setAttribute 0 IZOT_DOMAIN_INVALID 0).setAttribute 0 IZOT_DOMAIN_NONCLONE
    1).setAttribute 0 IZOT_DHCP_FLAG 1).setAttribute 0 IZOT_AUTH_TYPE AUTH_OMA

def setLonVxAddrFromLonUdpAddr (gp : AppData) (ownIpAddress : IpAddress) (rand : Nat × Nat) :
    AppData :=
  (gp.updateDomain (lonVxDomain ownIpAddress.image rand) 0 0 false).2.recomputeChecksum

structure LocalDid where
  did : List UInt8
  didLen : Nat
  sub : UInt8
  node : UInt8
  deriving DecidableEq, Repr

def izotGetDidFromLocalAddress (ownIpAddress : IpAddress) : LocalDid :=
  let own := ownIpAddress.image
  let (didLen, pDomainId) :=
    if own 0 = 192 ∧ own 1 = 168 then (0, 0)
    else if own 0 = 10 then (1, 1)
    else (2, 0)
  { did := own.slice pDomainId didLen
    didLen := didLen
    sub := own 2
    node := own 3 }

def announcedDomain (addr : Image) : UInt8 × Nat :=
  if addr.slice 0 2 = ipv4_zero_len_domain_prefix.toList then (0, 0)
  else if addr 0 = IPV4_DOMAIN_LEN_1_PREFIX then (1, 1)
  else (2, 0)

def multicastAnnouncement (pDesiredIpAddress : IpAddress) : List UInt8 :=
  let addr := pDesiredIpAddress.image
  let domain := announcedDomain addr
  [(0 : UInt8), ENCLOSED_PDU_TYPE_APDU <<< 4 ||| LT_AF_BROADCAST <<< 2 ||| domain.1, addr 2,
      addr 3 ||| 0x80, 0] ++
    addr.slice domain.2 domain.1.toNat ++ (if domain.1 = 2 then [0] else []) ++
    [IPV4_EXP_MSG_CODE, IPV4_EXP_DEVICE_LS_ADDR_MAPPING_ANNOUNCEMENT]

structure HasAddress (d : IzotDomain) (domainId : List UInt8) (subnet node : UInt8) : Prop where
  idLength : d.idLength = domainId.length
  id : d.id.toList.take domainId.length = domainId
  subnet : d.subnet = subnet
  node : d.node = node

structure Announces (npdu : Npdu) (domainId : List UInt8) (subnet node : UInt8) : Prop where
  idLength : decodeDomainLength npdu.domainLength = domainId.length
  broadcast : npdu.destAddr = .broadcast 0
  id : (npdu.data.drop 3).take domainId.length = domainId
  subnet : npdu.subnetAddr.subnet = subnet
  node : npdu.subnetAddr.nodeId = node

structure ConvertsBack (gp : AppData) (rand : Nat × Nat) (domainId : List UInt8)
    (subnet node : UInt8) (addr : IpAddress) : Prop where
  stored : HasAddress ((setLonVxAddrFromLonUdpAddr gp addr rand).configTables.domainTable 0)
    domainId subnet node
  returned : izotGetDidFromLocalAddress addr = ⟨domainId, domainId.length, subnet, node⟩
  announced : Announces ⟨(multicastAnnouncement addr).getD 1 0, (multicastAnnouncement addr).drop 2⟩
    domainId subnet node

namespace Attribute

variable {a : Attribute} {m : UInt8} (b value : UInt8)

theorem put_and (h : a.mask &&& m = 0) : a.put b value &&& m = b &&& m := by
  rw [Attribute.put, ← UInt8.toBitVec_inj]
  ext i hi
  have hbit : (a.mask &&& m).toBitVec[i] = false := by
    rw [h]
    simp
  rw [UInt8.toBitVec_and, BitVec.getElem_and] at hbit
  simp only [UInt8.toBitVec_and, UInt8.toBitVec_or, UInt8.toBitVec_not, BitVec.getElem_and,
    BitVec.getElem_or, BitVec.getElem_not]
  cases hmask : a.mask.toBitVec[i] <;> simp_all

theorem put_and_mask : a.put b value &&& a.mask = (value <<< a.shift) &&& a.mask := by
  rw [Attribute.put, ← UInt8.toBitVec_inj]
  ext i hi
  simp only [UInt8.toBitVec_and, UInt8.toBitVec_or, UInt8.toBitVec_not, BitVec.getElem_and,
    BitVec.getElem_or, BitVec.getElem_not]
  cases a.mask.toBitVec[i] <;> simp

end Attribute

section

variable {gp : AppData} {rand : Nat × Nat} {domainId : List UInt8} {subnet node : UInt8}
  {addr : IpAddress}

structure AddressOf (domainId : List UInt8) (subnet node : UInt8) (own : Image) : Prop where
  first : own 0 = (domainPrefix domainId).1
  second : own 1 = (domainPrefix domainId).2
  subnet : own 2 = subnet
  node : own 3 = node

theorem addressOf_generate (hdom : IpDomain domainId) (hsubnet : 1 ≤ subnet) (hnode : 1 ≤ node)
    (hle : node ≤ 127) :
    AddressOf domainId subnet node
      (generateLonUdpAddress (fun k => domainId.getD k 0) domainId.length subnet node).image := by
  have hmask : node &&& NODE_ID_MASK = node := by
    have hall : ∀ k < 128, UInt8.ofNat k &&& NODE_ID_MASK = UInt8.ofNat k := by decide
    have hlt : node.toNat < 128 := Nat.lt_succ_of_le (UInt8.le_iff_toNat_le.mp hle)
    simpa only [UInt8.ofNat_toNat] using hall node.toNat hlt
  have hsubnet' : subnet ≠ 0 := by
    rintro rfl
    exact absurd hsubnet (by decide)
  have hnode' : node &&& NODE_ID_MASK ≠ 0 := by
    rw [hmask]
    rintro rfl
    exact absurd hnode (by decide)
  rw [generateLonUdpAddress_parts hdom hsubnet' hnode', hmask]
  exact ⟨rfl, rfl, rfl, rfl⟩

inductive Form (own : Image) : List UInt8 → Prop
  | empty (first : own 0 = IPV4_DOMAIN_LEN_0_PREFIX_0) (second : own 1 = IPV4_DOMAIN_LEN_0_PREFIX_1) :
      Form own []
  | one (first : own 0 = IPV4_DOMAIN_LEN_1_PREFIX) : Form own [own 1]
  | three (hz : ¬(own 0 = IPV4_DOMAIN_LEN_0_PREFIX_0 ∧ own 1 = IPV4_DOMAIN_LEN_0_PREFIX_1))
      (hone : own 0 ≠ IPV4_DOMAIN_LEN_1_PREFIX) : Form own [own 0, own 1, 0]

theorem AddressOf.form {own : Image} (h : AddressOf domainId subnet node own)
    (hdom : IpDomain domainId) (hamb : ¬Ambiguous domainId) : Form own domainId := by
  cases hdom with
  | empty => exact .empty h.first h.second
  | one a =>
    have hsecond : own 1 = a := h.second
    rw [← hsecond]
    exact .one h.first
  | three a b =>
    have hfirst : own 0 = a := h.first
    have hsecond : own 1 = b := h.second
    obtain ⟨hz, hone⟩ := not_or.mp hamb
    rw [← hfirst, ← hsecond] at hz
    rw [← hfirst] at hone
    rw [← hfirst, ← hsecond]
    exact .three hz hone

theorem Form.not_zero {own : Image} {a : UInt8} (h : own 0 = IPV4_DOMAIN_LEN_1_PREFIX) :
    ¬(own 0 = IPV4_DOMAIN_LEN_0_PREFIX_0 ∧ own 1 = a) := by
  rw [h]
  exact fun hz => absurd hz.1 (by decide)

theorem returned_iff (h : AddressOf domainId subnet node addr.image)
    (hform : Form addr.image domainId) :
    izotGetDidFromLocalAddress addr = ⟨domainId, domainId.length, subnet, node⟩ ↔
      domainId.length ≠ 3 := by
  have hsubnet := h.subnet
  have hnode := h.node
  unfold izotGetDidFromLocalAddress
  generalize addr.image = own at *
  dsimp only
  cases hform with
  | empty first second =>
    rw [if_pos ⟨first, second⟩, hsubnet, hnode]
    exact iff_of_true rfl (by decide)
  | one first =>
    rw [if_neg (Form.not_zero first), if_pos first, hsubnet, hnode]
    exact iff_of_true rfl (Nat.succ_ne_succ_iff.mpr nofun)
  | three hz hone =>
    rw [if_neg hz, if_neg hone]
    exact iff_of_false (fun heq => Nat.noConfusion (Nat.succ.inj (Nat.succ.inj (congrArg LocalDid.didLen heq))))
      (not_not_intro rfl)

theorem domainOfPrefix_of_form {own : Image} (hform : Form own domainId) :
    (∀ k < domainId.length, domainOfPrefix own k = domainId.getD k 0) ∧
      domainOfPrefix own 8 &&& 7 = .ofNat domainId.length := by
  have hone : (1 : UInt8) <<< IZOT_DOMAIN_ID_LENGTH.shift &&& 7 = 1 := by decide
  have hthree : (3 : UInt8) <<< IZOT_DOMAIN_ID_LENGTH.shift &&& 7 = 3 := by decide
  unfold domainOfPrefix
  cases hform with
  | empty first second =>
    rw [if_pos ⟨first, second⟩]
    exact ⟨nofun, rfl⟩
  | one first =>
    rw [if_neg (Form.not_zero first), if_pos first]
    refine ⟨fun k hk => ?_, (Attribute.put_and_mask (a := IZOT_DOMAIN_ID_LENGTH) 0 1).trans hone⟩
    obtain rfl : k = 0 := Nat.lt_one_iff.mp hk
    rfl
  | three hz hten =>
    rw [if_neg hz, if_neg hten]
    refine ⟨fun k hk => ?_, (Attribute.put_and_mask (a := IZOT_DOMAIN_ID_LENGTH) 0 3).trans hthree⟩
    match k, hk with
    | 0, _ | 1, _ | 2, _ => rfl

theorem lonVxDomain_of_node {own : Image} (hsubnet : 1 ≤ own 2) (hnode : 1 ≤ own 3)
    (hle : own 3 ≤ 127) :
    (∀ k < 6, lonVxDomain own rand k = domainOfPrefix own k) ∧ lonVxDomain own rand 6 = own 2 ∧
      lonVxDomain own rand 7 &&& 0x7F = own 3 ∧
      lonVxDomain own rand 8 &&& 7 = domainOfPrefix own 8 &&& 7 := by
  have hmask : own 3 <<< IZOT_DOMAIN_NODE.shift &&& 0x7F = own 3 := by
    have hall : ∀ k < 128, UInt8.ofNat k <<< IZOT_DOMAIN_NODE.shift &&& 0x7F = UInt8.ofNat k := by
      decide
    simpa only [UInt8.ofNat_toNat] using
      hall (own 3).toNat (Nat.lt_succ_of_le (UInt8.le_iff_toNat_le.mp hle))
  unfold lonVxDomain
  rw [if_pos ⟨hsubnet, hnode, hle⟩]
  generalize domainOfPrefix own = d
  refine ⟨fun k hk => ?_, rfl, ?_, ?_⟩
  · have h6 : k ≠ 6 := by omega
    have h7 : k ≠ 7 := by omega
    have h8 : k ≠ 8 := by omega
    simp [Lib.Image.setAttribute, Lib.Image.set, h6, h7, h8]
  · exact (Attribute.put_and _ _ (by decide)).trans
      ((Attribute.put_and_mask (a := IZOT_DOMAIN_NODE) _ _).trans hmask)
  · exact (Attribute.put_and _ _ (by decide)).trans ((Attribute.put_and _ _ (by decide)).trans
      ((Attribute.put_and _ _ (by decide)).trans ((Attribute.put_and _ _ (by decide)).trans
        (Attribute.put_and _ _ (by decide)))))

theorem hasAddress_lonVxDomain {own : Image} (h : AddressOf domainId subnet node own)
    (hform : Form own domainId) (hsubnet : 1 ≤ subnet) (hnode : 1 ≤ node) (hle : node ≤ 127)
    (key : AuthKey) :
    HasAddress { IzotDomain.ofImage (lonVxDomain own rand) 0 with key := key } domainId subnet
      node := by
  rw [← h.subnet] at hsubnet
  rw [← h.node] at hnode hle
  obtain ⟨hid, hsub, hnod, hlen⟩ := @lonVxDomain_of_node rand own hsubnet hnode hle
  obtain ⟨hid', hlen'⟩ := domainOfPrefix_of_form hform
  have hlength : domainId.length ≤ 3 := by
    cases hform <;> simp only [List.length_cons, List.length_nil] <;> omega
  refine ⟨?_, ?_, hsub.trans h.subnet, hnod.trans h.node⟩
  · change (lonVxDomain own rand 8 &&& 7).toNat = _
    rw [hlen, hlen']
    exact UInt8.toNat_ofNat_of_lt' (Nat.lt_of_le_of_lt hlength (by decide))
  · refine List.ext_getElem ?_ fun k hk hk' => ?_
    · rw [List.length_take, Vector.length_toList]
      omega
    · have hk6 : k < 6 := by omega
      rw [List.getElem_take, Vector.getElem_toList]
      change (Vector.ofFn fun i : Fin 6 => lonVxDomain own rand (0 + i))[k] = _
      rw [Vector.getElem_ofFn, Nat.zero_add, hid k hk6, hid' k hk',
        List.getD_eq_getElem?_getD, List.getElem?_eq_getElem hk', Option.getD_some]

theorem stored (h : AddressOf domainId subnet node addr.image)
    (hform : Form addr.image domainId) (hsubnet : 1 ≤ subnet) (hnode : 1 ≤ node)
    (hle : node ≤ 127) :
    HasAddress ((setLonVxAddrFromLonUdpAddr gp addr rand).configTables.domainTable 0)
      domainId subnet node := by
  have hdomain : (0 : UInt8).toNat < gp.numDomains := by
    unfold AppData.numDomains
    split <;> decide
  have hzero : 0 < MAX_DOMAINS := by decide
  have hcopy : (gp.setMem (gp.mem.copy (gp.domainTable 0) (lonVxDomain addr.image rand) 0 9)).configTables =
      _ := gp.configTables_copyDomainNoKey hzero 0
  have hstored : (setLonVxAddrFromLonUdpAddr gp addr rand).configTables.domainTable 0 =
      { IzotDomain.ofImage (lonVxDomain addr.image rand) 0 with
        key := (gp.configTables.domainTable 0).key } := by
    rw [setLonVxAddrFromLonUdpAddr, AppData.configTables_recomputeChecksum,
      AppData.updateDomain_of_lt hdomain]
    exact congrArg (fun t => t.domainTable 0) hcopy
  rw [hstored]
  exact hasAddress_lonVxDomain h hform hsubnet hnode hle _

theorem announces (h : AddressOf domainId subnet node addr.image)
    (hform : Form addr.image domainId) (hle : node ≤ 127) :
    Announces ⟨(multicastAnnouncement addr).getD 1 0, (multicastAnnouncement addr).drop 2⟩
      domainId subnet node := by
  have hnode : (node ||| 0x80) &&& NODE_ID_MASK = node := by
    have hall : ∀ k < 128, (UInt8.ofNat k ||| 0x80) &&& NODE_ID_MASK = UInt8.ofNat k := by decide
    simpa only [UInt8.ofNat_toNat] using
      hall node.toNat (Nat.lt_succ_of_le (UInt8.le_iff_toNat_le.mp hle))
  have hsubnet := h.subnet
  have hlength : ∀ k < 3, decodeDomainLength ((ENCLOSED_PDU_TYPE_APDU <<< 4 |||
      LT_AF_BROADCAST <<< 2 ||| UInt8.ofNat k) &&& 3) = if k = 2 then 3 else k := by decide
  have hformat : ∀ k < 3, (ENCLOSED_PDU_TYPE_APDU <<< 4 ||| LT_AF_BROADCAST <<< 2 |||
      UInt8.ofNat k) >>> 2 &&& 3 = 0 := by decide
  have hslice : addr.image.slice 0 2 = ipv4_zero_len_domain_prefix.toList ↔
      addr.image 0 = IPV4_DOMAIN_LEN_0_PREFIX_0 ∧ addr.image 1 = IPV4_DOMAIN_LEN_0_PREFIX_1 := by
    change [addr.image 0, addr.image 1] = [IPV4_DOMAIN_LEN_0_PREFIX_0, IPV4_DOMAIN_LEN_0_PREFIX_1] ↔ _
    rw [List.cons.injEq, List.cons.injEq, eq_self, and_true]
  rw [← h.node] at hnode ⊢
  unfold multicastAnnouncement announcedDomain
  dsimp only
  generalize addr.image = own at *
  cases hform with
  | empty first second =>
    rw [if_pos (hslice.mpr ⟨first, second⟩)]
    exact ⟨hlength 0 (by decide), if_pos (hformat 0 (by decide)), rfl, hsubnet, hnode⟩
  | one first =>
    rw [if_neg (hslice.not.mpr (Form.not_zero first)), if_pos first]
    exact ⟨hlength 1 (by decide), if_pos (hformat 1 (by decide)), rfl, hsubnet, hnode⟩
  | three hz hone =>
    rw [if_neg (hslice.not.mpr hz), if_neg hone]
    exact ⟨hlength 2 (by decide), if_pos (hformat 2 (by decide)), rfl, hsubnet, hnode⟩

/-- The address of a node is taken for it, unless its domain has an identifier of three bytes. -/
theorem convertsBack_iff (hdom : IpDomain domainId) (hamb : ¬Ambiguous domainId)
    (hsubnet : 1 ≤ subnet) (hnode : 1 ≤ node) (hle : node ≤ 127) :
    ConvertsBack gp rand domainId subnet node
        (generateLonUdpAddress (fun k => domainId.getD k 0) domainId.length subnet node) ↔
      domainId.length ≠ 3 := by
  have haddress := addressOf_generate hdom hsubnet hnode hle
  have hform := haddress.form hdom hamb
  rw [← returned_iff haddress hform]
  exact ⟨ConvertsBack.returned, fun hreturned =>
    ⟨stored haddress hform hsubnet hnode hle, hreturned, announces haddress hform hle⟩⟩

theorem convertsBack_iff_oneByte :
    ConvertsBack ConfigCommand.zeroNode (0, 0) [5] 1 1
      (generateLonUdpAddress (fun k => [(5 : UInt8)].getD k 0) 1 1 1) :=
  (convertsBack_iff (.one 5) id (by decide) (by decide) (by decide)).mpr (by decide)

theorem not_convertsBack :
    ¬ConvertsBack ConfigCommand.zeroNode (0, 0) [1, 2, 0] 1 1
      (generateLonUdpAddress (fun k => [(1 : UInt8), 2, 0].getD k 0) 3 1 1) := by
  intro h
  exact absurd h.returned (by decide)

end

end LonUdp

end LonStack
