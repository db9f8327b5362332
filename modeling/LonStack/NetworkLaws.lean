import LonStack.Network
import LonStack.PduLaws
import LonStack.QueueLaws

namespace LonStack

theorem PduType.ofCode_code (t : PduType) : ofCode t.code = t := by
  cases t <;> rfl

theorem Npdu.header_fields {version : Nat} (hv : version < 4) (t : PduType)
    {addrFmt domainLength : UInt8} (hf : addrFmt < 4) (hl : domainLength < 4) {npdu : Npdu}
    (hhdr : npdu.hdr = header version t.code addrFmt domainLength) :
    npdu.protocolVersion = version ∧ npdu.pduType = t ∧ npdu.addrFmt = addrFmt ∧
      npdu.domainLength = domainLength := by
  have hall : ∀ (v c f l : Fin 4),
      (header v (UInt8.ofNat c) (UInt8.ofNat f) (UInt8.ofNat l) >>> 6).toNat = v ∧
        (header v (UInt8.ofNat c) (UInt8.ofNat f) (UInt8.ofNat l) >>> 4) &&& 3 = UInt8.ofNat c ∧
        (header v (UInt8.ofNat c) (UInt8.ofNat f) (UInt8.ofNat l) >>> 2) &&& 3 = UInt8.ofNat f ∧
        header v (UInt8.ofNat c) (UInt8.ofNat f) (UInt8.ofNat l) &&& 3 = UInt8.ofNat l := by
    decide +kernel
  have hc : t.code.toNat < 4 := by cases t <;> decide
  have := hall ⟨version, hv⟩ ⟨t.code.toNat, hc⟩ ⟨addrFmt.toNat, UInt8.lt_iff_toNat_lt.mp hf⟩
    ⟨domainLength.toNat, UInt8.lt_iff_toNat_lt.mp hl⟩
  simp only [UInt8.ofNat_toNat] at this
  obtain ⟨h₁, h₂, h₃, h₄⟩ := this
  refine ⟨?_, ?_, ?_, ?_⟩
  · rw [protocolVersion, hhdr, h₁]
  · rw [pduType, hhdr, h₂, PduType.ofCode_code]
  · rw [Npdu.addrFmt, hhdr, h₃]
  · rw [Npdu.domainLength, hhdr, h₄]

theorem decodeDomainLength_encode {length : Nat} {code : UInt8}
    (h : encodeDomainLength length = some code) : decodeDomainLength code = length ∧ code < 4 := by
  unfold encodeDomainLength at h
  split_ifs at h with h₀ h₁ h₃ h₆ <;> simp only [Option.some.injEq] at h <;> subst h <;>
    simp_all [decodeDomainLength]

theorem encodeDomainLength_le {length : Nat} {code : UInt8}
    (h : encodeDomainLength length = some code) : length ≤ 6 := by
  unfold encodeDomainLength at h
  split_ifs at h <;> omega

theorem NetAddr.addrFmt_lt {dest : NetAddr} {addrFmt : UInt8} (h : dest.addrFmt = some addrFmt) :
    addrFmt < 4 := by
  cases dest <;> simp [NetAddr.addrFmt] at h <;> subst h <;> decide

theorem SubnetNode.selField_setSelField (a : SubnetNode) (bit : Bool) :
    (a.setSelField bit).node &&& 0x80 ≠ 0 ↔ bit = true :=
  forall_byte (P := fun n =>
    ∀ bit : Bool, ((n &&& 0x7F) ||| (if bit then (0x80 : UInt8) else 0)) &&& 0x80 ≠ 0 ↔ bit = true)
    (by decide +kernel) a.node bit

theorem SubnetNode.setSelField_true {n m : UInt8} (hm : m &&& 0x80 ≠ 0)
    (h : n &&& 0x7F = m &&& 0x7F) : (n &&& 0x7F) ||| 0x80 = m := by
  rw [h]
  exact forall_byte (P := fun m => m &&& 0x80 ≠ 0 → (m &&& 0x7F) ||| 0x80 = m)
    (by decide +kernel) m hm

@[simp]
theorem SubnetNode.nodeId_setSelField (a : SubnetNode) (bit : Bool) :
    (a.setSelField bit).nodeId = a.nodeId :=
  forall_byte (P := fun n =>
    ∀ bit : Bool, ((n &&& 0x7F) ||| (if bit then (0x80 : UInt8) else 0)) &&& 0x7F = n &&& 0x7F)
    (by decide +kernel) a.node bit

def NetAddr.inNpdu : NetAddr → NetAddr
  | .subnetNode a => .subnetNode (a.setSelField true)
  | .multicastAck a => .multicastAck { a with subnetAddr := a.subnetAddr.setSelField true }
  | dest => dest

@[simp]
theorem NetAddr.addressMode_inNpdu (dest : NetAddr) : dest.inNpdu.addressMode = dest.addressMode := by
  cases dest <;> rfl

@[simp]
theorem NetAddr.domainAt_inNpdu (dest : NetAddr) : dest.inNpdu.domainAt = dest.domainAt := by
  cases dest <;> rfl

structure Npdu.Holds (npdu : Npdu) (src : SubnetNode) (dest : NetAddr)
    (domainId pdu : List UInt8) : Prop where
  addrFmt : dest.addrFmt = some npdu.addrFmt
  selField : src.node &&& 0x80 ≠ 0 ↔ dest.addressMode ≠ .multicastAck
  data : ∃ rest, npdu.data = [src.subnet, src.node] ++ dest.bytes ++ domainId ++ pdu ++ rest

namespace Npdu.Holds

variable {npdu : Npdu} {src : SubnetNode} {dest : NetAddr} {domainId pdu : List UInt8}

theorem subnetAddr (h : npdu.Holds src dest domainId pdu) : npdu.subnetAddr = src := by
  obtain ⟨rest, hdata⟩ := h.data
  simp [Npdu.subnetAddr, byte, hdata]

theorem destAddr (h : npdu.Holds src dest domainId pdu) : npdu.destAddr = dest.inNpdu := by
  obtain ⟨rest, hdata⟩ := h.data
  have hsel : npdu.selField = true ↔ dest.addressMode ≠ .multicastAck := by
    rw [← h.selField, Npdu.selField]
    simp [byte, hdata]
  have hfmt := h.addrFmt
  unfold Npdu.destAddr
  cases dest with
  | broadcast subnet =>
    simp only [NetAddr.addrFmt, Option.some.injEq] at hfmt
    simp [← hfmt, byte, hdata, NetAddr.bytes, NetAddr.inNpdu]
  | multicast group =>
    simp only [NetAddr.addrFmt, Option.some.injEq] at hfmt
    simp [← hfmt, byte, hdata, NetAddr.bytes, NetAddr.inNpdu]
  | subnetNode a =>
    simp only [NetAddr.addrFmt, Option.some.injEq] at hfmt
    simp [← hfmt, hsel, NetAddr.addressMode, byte, hdata, NetAddr.bytes, NetAddr.inNpdu,
      SubnetNode.setSelField]
  | multicastAck a =>
    simp only [NetAddr.addrFmt, Option.some.injEq] at hfmt
    simp [← hfmt, hsel, NetAddr.addressMode, byte, hdata, NetAddr.bytes, NetAddr.inNpdu,
      SubnetNode.setSelField]
  | uniqueNodeId subnet id =>
    simp only [NetAddr.addrFmt, Option.some.injEq] at hfmt
    have hid : Vector.ofFn (fun k : Fin 6 => npdu.byte (3 + k)) = id := by
      apply Vector.ext
      intro k hk
      rw [Vector.getElem_ofFn, byte, hdata, Nat.add_comm]
      simp [NetAddr.bytes, List.getElem?_append_left, hk]
    rw [hid]
    simp [← hfmt, byte, hdata, NetAddr.bytes, NetAddr.inNpdu]
  | unbound => simp [NetAddr.addrFmt] at hfmt

theorem length_bytes (h : npdu.Holds src dest domainId pdu) :
    dest.domainAt = 2 + dest.bytes.length := by
  have hfmt := h.addrFmt
  cases dest with
  | unbound => simp [NetAddr.addrFmt] at hfmt
  | broadcast | multicast | subnetNode | multicastAck => rfl
  | uniqueNodeId => simp [NetAddr.domainAt, NetAddr.bytes]

theorem domainId_eq (h : npdu.Holds src dest domainId pdu) :
    bytesAt npdu.data dest.domainAt domainId.length = domainId := by
  obtain ⟨rest, hdata⟩ := h.data
  have := bytesAt_append ([src.subnet, src.node] ++ dest.bytes) domainId (pdu ++ rest)
  rwa [List.length_append, show [src.subnet, src.node].length = 2 from rfl, ← h.length_bytes,
    ← List.append_assoc, ← List.append_assoc, ← hdata] at this

theorem pdu_eq (h : npdu.Holds src dest domainId pdu) :
    bytesAt npdu.data (dest.domainAt + domainId.length) pdu.length = pdu := by
  obtain ⟨rest, hdata⟩ := h.data
  have := bytesAt_append ([src.subnet, src.node] ++ dest.bytes ++ domainId) pdu rest
  rwa [List.length_append, List.length_append, show [src.subnet, src.node].length = 2 from rfl,
    ← h.length_bytes, ← List.append_assoc, ← hdata] at this

end Npdu.Holds

namespace NetworkStackData

variable {gp : NetworkStackData} {nw : NWSendParam} {lk : LKSendParam} {b : Bool}

theorem formNpdu_spec (h : gp.formNpdu nw = some lk) :
    ∃ addrFmt domainLength,
      nw.destAddr.addr.addrFmt = some addrFmt ∧
      encodeDomainLength (gp.sendDomain nw.destAddr.dmn).1 = some domainLength ∧
      lk.npdu.hdr = Npdu.header nw.version nw.pduType.code addrFmt domainLength ∧
      lk.npdu.data =
        [(gp.sendSource nw.destAddr).subnet, (gp.sendSource nw.destAddr).node] ++
          nw.destAddr.addr.bytes ++ (gp.sendDomain nw.destAddr.dmn).2 ++ nw.bytes ∧
      lk.pduSize =
        1 + (nw.destAddr.addr.domainAt + (gp.sendDomain nw.destAddr.dmn).1) + nw.pduSize ∧
      lk.pduSize ≤ gp.nwOutBufSize false := by
  simp only [formNpdu, Option.bind_eq_bind, Option.bind_eq_some_iff] at h
  obtain ⟨addrFmt, hfmt, h⟩ := h
  split at h
  case isTrue => cases h
  case isFalse =>
    simp only [Option.bind_eq_some_iff] at h
    obtain ⟨domainLength, hlen, h⟩ := h
    split at h
    case isTrue => cases h
    case isFalse hfit =>
      obtain rfl := (Option.some.inj h).symm
      exact ⟨addrFmt, domainLength, hfmt, hlen, rfl, rfl, rfl, Nat.le_of_not_lt hfit⟩

def SendsNpdu (gp : NetworkStackData) (priority : Bool) (nw : NWSendParam) (lk : LKSendParam) :
    Prop :=
  gp.nwCurrent = some priority ∧ (gp.nwOutQ priority).peek = some nw ∧
    (gp.networkLayerSend.lkOutQ priority).toList = (gp.lkOutQ priority).toList ++ [lk]

@[simp]
theorem lkOutQ_complete (nw : NWSendParam) (success : Bool) (gp : NetworkStackData) :
    (gp.complete nw success).lkOutQ = gp.lkOutQ := by
  unfold complete
  split <;> rfl

theorem SendsNpdu.formNpdu (h : gp.SendsNpdu b nw lk) : gp.formNpdu nw = some lk := by
  obtain ⟨hcur, hpeek, hlk⟩ := h
  simp only [networkLayerSend, hcur, hpeek, sendPdu] at hlk
  split at hlk
  case isTrue => simp at hlk
  case isFalse =>
    cases hform : gp.formNpdu nw with
    | none => simp [hform, nwSendTerminate, dropNwOut] at hlk
    | some lk' =>
      simp only [hform, lkOutQ_complete, pushLk, dropNwOut, Function.update_self,
        Queue.toList_push] at hlk
      split at hlk
      · rw [List.append_cancel_left_eq, List.cons.injEq] at hlk
        rw [hlk.1]
      · simp at hlk

theorem length_sendDomain {dmn : Domain} (h : (gp.sendDomain dmn).1 ≤ 6) :
    (gp.sendDomain dmn).2.length = (gp.sendDomain dmn).1 := by
  unfold sendDomain at h ⊢
  split at h
  case isTrue hown => simpa [hown] using h
  case isFalse hflex => simpa [hflex] using h

theorem selField_sendSource {dest : DestinationAddress}
    (hown : dest.dmn.domainIndex < gp.eep.numDomains) :
    (gp.sendSource dest).node &&& 0x80 ≠ 0 ↔ dest.addressMode ≠ .multicastAck := by
  rw [sendSource, if_pos hown, SubnetNode.selField_setSelField]
  simp

end NetworkStackData

structure NWReceiveParam.Carries (r : NWReceiveParam) (lk : LKSendParam) : Prop where
  pduSize : r.pduSize = lk.pduSize
  hdr : r.npdu.hdr = lk.npdu.hdr
  data : ∃ rest, r.npdu.data = lk.npdu.data ++ rest

structure NWReceiveParam.IsFrom (r : NWReceiveParam) (gp : NetworkStackData) (nw : NWSendParam) :
    Prop where
  protocolVersion : r.npdu.protocolVersion = nw.version
  pduType : r.npdu.pduType = nw.pduType
  domainLength : decodeDomainLength r.npdu.domainLength = (gp.sendDomain nw.destAddr.dmn).2.length
  pduSize : r.pduSize =
    1 + (nw.destAddr.addr.domainAt + (gp.sendDomain nw.destAddr.dmn).2.length) + nw.pduSize
  holds : r.npdu.Holds (gp.sendSource nw.destAddr) nw.destAddr.addr
    (gp.sendDomain nw.destAddr.dmn).2 nw.bytes

theorem NWReceiveParam.Carries.isFrom {r : NWReceiveParam} {gp : NetworkStackData}
    {nw : NWSendParam} {lk : LKSendParam} (hr : r.Carries lk) (h : gp.formNpdu nw = some lk)
    (hv : nw.version < 4) (hown : nw.destAddr.dmn.domainIndex < gp.eep.numDomains) :
    r.IsFrom gp nw := by
  obtain ⟨addrFmt, domainLength, hfmt, hlen, hhdr, hdata, hsize, -⟩ :=
    NetworkStackData.formNpdu_spec h
  obtain ⟨hdecode, hlt⟩ := decodeDomainLength_encode hlen
  have hbytes := NetworkStackData.length_sendDomain (encodeDomainLength_le hlen)
  obtain ⟨h₁, h₂, h₃, h₄⟩ := Npdu.header_fields hv nw.pduType (NetAddr.addrFmt_lt hfmt) hlt
    (hr.hdr.trans hhdr)
  obtain ⟨rest, hrest⟩ := hr.data
  exact
    { protocolVersion := h₁
      pduType := h₂
      domainLength := by rw [h₄, hdecode, hbytes]
      pduSize := by rw [hr.pduSize, hsize, hbytes]
      holds :=
        { addrFmt := by rw [hfmt, h₃]
          selField := NetworkStackData.selField_sendSource hown
          data := ⟨rest, by rw [hrest, hdata]⟩ } }

end LonStack
