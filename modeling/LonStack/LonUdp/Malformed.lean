import LonStack.App.Send
import LonStack.LonUdp.Translate

namespace LonStack.LonUdp

open Lib

abbrev MAX_PDU_SIZE : Nat := MAX_DATA_SIZE + 21

theorem decodeDomainLength_le (lengthCode : UInt8) : decodeDomainLength lengthCode ≤ 6 := by
  unfold decodeDomainLength
  split
  · decide
  · split
    · decide
    · split <;> decide

namespace LsUdpPayload

variable (u : LsUdpPayload) (pSourceAddr : IpAddress)

def destLengths (start : Nat) : Option (Nat × Nat) :=
  if u.addrFmt = IPV4_LSUDP_NPDU_ADDR_FMT_BROADCAST_NEURON_ID then some (7, 7)
  else if u.addrFmt = IPV4_LSUDP_NPDU_ADDR_FMT_SUBNET_NODE then some (0, 2)
  else if u.addrFmt = IPV4_LSUDP_NPDU_ADDR_FMT_GROUP_RESP then some (2, 4)
  else if u.addrFmt = IPV4_LSUDP_NPDU_ADDR_FMT_DOMAIN_BROADCAST then some (0, 1)
  else if u.addrFmt = IPV4_LSUDP_NPDU_ADDR_FMT_SUBNET_BROADCAST then some (1, 1)
  else if u.addrFmt = IPV4_LSUDP_NPDU_ADDR_FMT_GROUP then some (1, 1)
  else if u.addrFmt = IPV4_LSUDP_NPDU_ADDR_FMT_EXP_SUBNET_NODE then
    if u.image (start + 1) &&& 0x80 ≠ 0 then some (4, 4) else some (2, 2)
  else none

def headerLengths : Option (Nat × Nat) :=
  if u.unsupported then none
  else
    let domainLen := (u.domain pSourceAddr).1
    (u.destLengths (u.destAt domainLen)).map fun l =>
      (u.destAt domainLen + l.1, 4 + l.2 + domainLen)

def isAnnouncement (read : Nat) (udpLen : UInt16) : Bool :=
  u.announces read (udpLen - .ofNat read) IPV4_EXP_SUBNETS_LS_ADDR_MAPPING_ANNOUNCEMENT (3 + 32) ||
    u.announces read (udpLen - .ofNat read) IPV4_EXP_DEVICE_LS_ADDR_MAPPING_ANNOUNCEMENT 2

variable {u pSourceAddr} {start : Nat} {read written : Nat}

theorem map_dest (domain : IzotDomain) :
    (u.dest domain start).map (fun d => (d.next, d.bytes.length)) =
      (u.destLengths start).map fun l => (start + l.1, l.2) := by
  unfold dest destLengths
  simp only [apply_ite (Option.map _), Option.map_some, Option.map_none]
  rfl

theorem destLengths_le {l : Nat × Nat} (h : u.destLengths start = some l) :
    l.1 ≤ l.2 ∧ l.2 ≤ 7 := by
  have hall : (u.destLengths start).all (fun l => l.1 ≤ l.2 ∧ l.2 ≤ 7) = true := by
    unfold destLengths
    simp only [apply_ite (Option.all _), Option.all_some, Option.all_none]
    simp
  rw [h] at hall
  exact of_decide_eq_true hall

theorem length_header (domainLen : Nat) (pDomain : Image) (source : UInt8 × UInt8)
    (d : LsUdpDest) :
    (u.header domainLen pDomain source d).length = 4 + d.bytes.length + domainLen := by
  unfold header
  simp only [List.length_append, List.length_cons, List.length_nil, Image.length_slice]

theorem destAt_le (domainLen : Nat) : u.destAt domainLen ≤ 6 + domainLen := by
  have hs : u.sourceAt ≤ 3 := by
    unfold sourceAt
    split <;> decide
  unfold destAt
  split
  · omega
  · split <;> omega

theorem domain_length_le : (u.domain pSourceAddr).1 ≤ 6 := by
  unfold domain
  split
  · exact decodeDomainLength_le _
  · split
    · exact Nat.zero_le 6
    · split
      · exact (by decide : 1 ≤ 6)
      · exact (by decide : 3 ≤ 6)

theorem headerLengths_le (h : u.headerLengths pSourceAddr = some (read, written)) :
    read ≤ written + 2 ∧ written ≤ 17 := by
  unfold headerLengths at h
  split at h
  · cases h
  · dsimp only at h
    obtain ⟨l, hl, he⟩ := Option.map_eq_some_iff.mp h
    cases he
    have := destLengths_le hl
    have := u.destAt_le (u.domain pSourceAddr).1
    have : (u.domain pSourceAddr).1 ≤ 6 := domain_length_le
    omega

end LsUdpPayload

namespace UdpNode

structure Converts (n : UdpNode) (u : LsUdpPayload) (pSourceAddr : IpAddress) (udpLen : UInt16)
    (d : LsUdpDest) : Prop where
  read : u.dest n.domain (u.destAt (u.domain pSourceAddr).1) = some d
  consumed : d.next ≤ udpLen.toNat
  ltVxLen : (n.convertLonUdpToLonVx u pSourceAddr udpLen).2.ltVxLen.toNat =
    (u.header (u.domain pSourceAddr).1 (u.domain pSourceAddr).2 (u.source pSourceAddr)
      d).length + (udpLen.toNat - d.next)
  fits : (n.convertLonUdpToLonVx u pSourceAddr udpLen).2.ltVxLen.toNat ≤ MAX_PDU_SIZE

def DropsMalformed (n : UdpNode) (u : LsUdpPayload) (pSourceAddr : IpAddress) (udpLen : UInt16) :
    Prop :=
  (n.convertLonUdpToLonVx u pSourceAddr udpLen).2.ltVxLen = 0 ∨
    ∃ d, n.Converts u pSourceAddr udpLen d

variable {n : UdpNode} {u : LsUdpPayload} {pSourceAddr : IpAddress} {udpLen : UInt16}
  {read written : Nat}

theorem ltVxLen_of_headerLengths_none (h : u.headerLengths pSourceAddr = none) :
    (n.convertLonUdpToLonVx u pSourceAddr udpLen).2.ltVxLen = 0 := by
  unfold LsUdpPayload.headerLengths at h
  unfold convertLonUdpToLonVx
  split
  case isTrue => rfl
  case isFalse hu =>
    rw [if_neg hu] at h
    have hm := @LsUdpPayload.map_dest u (u.destAt (u.domain pSourceAddr).1) n.domain
    rw [Option.map_eq_none_iff.mp h, Option.map_none, Option.map_eq_none_iff] at hm
    rw [hm]

theorem ltVxLen_of_headerLengths (h : u.headerLengths pSourceAddr = some (read, written)) :
    ∃ d, u.dest n.domain (u.destAt (u.domain pSourceAddr).1) = some d ∧ d.next = read ∧
      (u.header (u.domain pSourceAddr).1 (u.domain pSourceAddr).2 (u.source pSourceAddr)
        d).length = written ∧
      (n.convertLonUdpToLonVx u pSourceAddr udpLen).2.ltVxLen =
        if u.isAnnouncement read udpLen then 0 else udpLen - .ofNat read + .ofNat written := by
  unfold LsUdpPayload.headerLengths at h
  split at h
  case isTrue => cases h
  case isFalse hu =>
    dsimp only at h
    obtain ⟨l, hl, he⟩ := Option.map_eq_some_iff.mp h
    cases he
    have hm := @LsUdpPayload.map_dest u (u.destAt (u.domain pSourceAddr).1) n.domain
    rw [hl, Option.map_some, Option.map_eq_some_iff] at hm
    obtain ⟨d, hd, he⟩ := hm
    obtain ⟨hnext, hbytes⟩ := Prod.mk.inj he
    have hlen := u.length_header (u.domain pSourceAddr).1 (u.domain pSourceAddr).2
      (u.source pSourceAddr) d
    rw [hbytes] at hlen
    refine ⟨d, hd, hnext, hlen, ?_⟩
    unfold convertLonUdpToLonVx LsUdpPayload.isAnnouncement
    rw [if_neg hu, hd]
    dsimp only
    unfold convertPdu
    dsimp only
    rw [hlen, hnext]
    cases hs : u.announces (u.destAt (u.domain pSourceAddr).1 + l.1)
      (udpLen - .ofNat (u.destAt (u.domain pSourceAddr).1 + l.1))
      IPV4_EXP_SUBNETS_LS_ADDR_MAPPING_ANNOUNCEMENT (3 + 32) with
    | true => rfl
    | false =>
      rw [Bool.false_or, if_neg Bool.false_ne_true]
      split <;> rfl

theorem toNat_ltVxLen (hread : read ≤ written + 2) (hwritten : written ≤ 17)
    (h : 3 ≤ udpLen.toNat) :
    (udpLen - .ofNat read + .ofNat written : UInt16).toNat =
      (udpLen.toNat + written - read) % 65536 := by
  have := udpLen.toNat_lt
  rw [UInt16.toNat_add, UInt16.toNat_sub, UInt16.toNat_ofNat', UInt16.toNat_ofNat']
  omega

/-- A payload that is long enough is dropped or converted as a whole exactly when its header is
unknown, when it is an announcement, or when its header is complete and the NPDU fits. An NPDU of
65536 bytes is reported as none. -/
theorem dropsMalformed_iff (n : UdpNode) (u : LsUdpPayload) (pSourceAddr : IpAddress)
    (udpLen : UInt16) (h : 3 ≤ udpLen.toNat) :
    n.DropsMalformed u pSourceAddr udpLen ↔
      ∀ read written, u.headerLengths pSourceAddr = some (read, written) →
        u.isAnnouncement read udpLen ∨
          read ≤ udpLen.toNat ∧ udpLen.toNat - read + written ≤ MAX_PDU_SIZE ∨
          udpLen.toNat + written = 65536 + read := by
  cases hl : u.headerLengths pSourceAddr with
  | none =>
    refine iff_of_true (.inl (ltVxLen_of_headerLengths_none hl)) ?_
    rintro read written ⟨⟩
  | some l =>
    obtain ⟨read, written⟩ := l
    obtain ⟨hread, hwritten⟩ := LsUdpPayload.headerLengths_le hl
    obtain ⟨d, hd, hnext, hlen, hlt⟩ := @ltVxLen_of_headerLengths n u pSourceAddr udpLen _ _ hl
    have hnat := toNat_ltVxLen hread hwritten h
    have := udpLen.toNat_lt
    have : MAX_PDU_SIZE = 276 := rfl
    constructor
    · rintro hdrop _ _ ⟨⟩
      cases ha : u.isAnnouncement read udpLen with
      | true => exact .inl rfl
      | false =>
        rw [ha, if_neg Bool.false_ne_true] at hlt
        refine .inr ?_
        rcases hdrop with hz | ⟨d', hd', hconsumed, hlt', hfits⟩
        · rw [hlt, ← UInt16.toNat_inj, hnat, UInt16.toNat_zero] at hz
          omega
        · cases hd.symm.trans hd'
          omega
    · intro hall
      rcases hall read written rfl with ha | ⟨hle, hfits⟩ | hwrap
      · exact .inl (by rw [hlt, if_pos ha])
      · cases ha : u.isAnnouncement read udpLen with
        | true => exact .inl (by rw [hlt, if_pos ha])
        | false =>
          rw [ha, if_neg Bool.false_ne_true] at hlt
          refine .inr ⟨d, hd, hnext ▸ hle, ?_, ?_⟩
          · rw [hlt, hnat, hlen, hnext]
            omega
          · rw [hlt, hnat]
            omega
      · refine .inl ?_
        rw [hlt]
        split
        · rfl
        · rw [← UInt16.toNat_inj, hnat, UInt16.toNat_zero]
          omega

def udpNode : UdpNode where
  map := emptyMap
  ownIpAddress := #v[0xC0, 0xA8, 1, 2]
  isConnected := true
  domain := ⟨default, 1, 0x82, 0, default⟩

def shortPayload : LsUdpPayload := ⟨fun k => if k = 1 then 0x60 else 0⟩

theorem dropsMalformed_iff_short :
    3 ≤ (20 : UInt16).toNat ∧ udpNode.DropsMalformed shortPayload #v[0xC0, 0xA8, 1, 1] 20 := by
  refine ⟨by decide, (dropsMalformed_iff _ _ _ _ (by decide)).mpr ?_⟩
  intro read written h
  have h9 : shortPayload.headerLengths #v[0xC0, 0xA8, 1, 1] = some (9, 11) := by decide
  cases h9.symm.trans h
  exact .inr (.inl (by decide))

theorem not_dropsMalformed :
    ¬∀ (n : UdpNode) (u : LsUdpPayload) (pSourceAddr : IpAddress) (udpLen : UInt16),
      3 ≤ udpLen.toNat → n.DropsMalformed u pSourceAddr udpLen := by
  intro hall
  have hdrop := hall udpNode shortPayload #v[0xC0, 0xA8, 1, 1] 3 (by decide)
  have h9 : shortPayload.headerLengths #v[0xC0, 0xA8, 1, 1] = some (9, 11) := by decide
  rcases (dropsMalformed_iff _ _ _ _ (by decide)).mp hdrop 9 11 h9 with ha | hb | hw
  · exact absurd ha (by decide)
  · exact absurd hb.1 (by decide)
  · exact absurd hw (by decide)

end UdpNode

end LonStack.LonUdp
