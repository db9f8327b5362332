import LonStack.AddressFilter
import Mathlib.Data.Fintype.Card

namespace LonStack

abbrev ALT_CHANNEL : UInt8 := 4

def incrementStat (n : Nat) : Nat := if n = 65535 then n else n + 1

structure RxCounts where
  lcsL3Rx : Nat
  rxUnsolicited : Bool → Bool → UInt16

namespace RxCounts

def logRxStat (c : RxCounts) (altPath : UInt8) : RxCounts :=
  let channel := altPath &&& ALT_CHANNEL ≠ 0
  let path := altPath &&& ALT_PATH ≠ 0
  { c with
    rxUnsolicited := Function.update c.rxUnsolicited channel
      (Function.update (c.rxUnsolicited channel) path (c.rxUnsolicited channel path + 1)) }

end RxCounts

namespace NetworkStackData

/-- What `receiveNpdu` counts. A packet is counted in `lcsL3Rx` before its size is checked. -/
def countReceived (r : NWReceiveParam) (gp : NetworkStackData) (c : RxCounts) : RxCounts :=
  let domainLength := decodeDomainLength r.npdu.domainLength
  if domainLength ≠ 0 ∧ domainLength ≠ 1 ∧ domainLength ≠ 3 then c
  else if ¬gp.accepts (gp.domainIndexOf r.domainId) r.npdu.subnetAddr r.npdu.destAddr then c
  else
    let c := { c with lcsL3Rx := incrementStat c.lcsL3Rx }
    if r.pduSize ≤ r.pduAt + 1 then c
    else if r.npdu.pduType = .apdu ∧ ¬(gp.appInQ.full ∨ gp.appInBufSize < r.enclosedSize) then
      c.logRxStat r.altPath
    else c

end NetworkStackData

structure NWReceiveParam.AgreesInside (r r' : NWReceiveParam) : Prop where
  priority : r'.priority = r.priority
  altPath : r'.altPath = r.altPath
  pduSize : r'.pduSize = r.pduSize
  hdr : 1 ≤ r.pduSize → r'.npdu.hdr = r.npdu.hdr
  byte : ∀ k < r.pduSize - 1, r'.npdu.byte k = r.npdu.byte k

namespace Npdu

variable {a b : Npdu}

theorem fields_of_hdr (h : b.hdr = a.hdr) :
    b.addrFmt = a.addrFmt ∧ b.domainLength = a.domainLength ∧ b.pduType = a.pduType ∧
      b.protocolVersion = a.protocolVersion := by
  simp only [addrFmt, domainLength, pduType, protocolVersion, h, and_self]

theorem destAddr_of_bytes (hhdr : b.hdr = a.hdr)
    (hbytes : ∀ k < a.destAddr.domainAt, b.byte k = a.byte k) : b.destAddr = a.destAddr := by
  have hfmt := (fields_of_hdr hhdr).1
  unfold destAddr at hbytes ⊢
  rw [hfmt]
  by_cases h0 : a.addrFmt = 0
  · rw [if_pos h0] at hbytes
    have hthree : ∀ k < 3, b.byte k = a.byte k := hbytes
    rw [if_pos h0, if_pos h0, hthree 2 (by decide)]
  rw [if_neg h0] at hbytes
  rw [if_neg h0, if_neg h0]
  by_cases h1 : a.addrFmt = 1
  · rw [if_pos h1] at hbytes
    have hthree : ∀ k < 3, b.byte k = a.byte k := hbytes
    rw [if_pos h1, if_pos h1, hthree 2 (by decide)]
  rw [if_neg h1] at hbytes
  rw [if_neg h1, if_neg h1]
  by_cases h2 : a.addrFmt = 2
  · rw [if_pos h2] at hbytes
    rw [if_pos h2, if_pos h2]
    have hfour : ∀ k < 4, b.byte k = a.byte k := by
      intro k hk
      apply hbytes
      split
      · exact hk
      · exact Nat.lt_trans hk (by decide : 4 < 6)
    have hsel : b.selField = a.selField := by rw [selField, selField, hfour 1 (by decide)]
    rw [hsel]
    by_cases hfield : a.selField = true
    · rw [if_pos hfield, if_pos hfield, hfour 2 (by decide), hfour 3 (by decide)]
    · rw [if_neg hfield] at hbytes
      have hsix : ∀ k < 6, b.byte k = a.byte k := hbytes
      rw [if_neg hfield, if_neg hfield, hfour 2 (by decide), hfour 3 (by decide),
        hsix 4 (by decide), hsix 5 (by decide)]
  · rw [if_neg h2] at hbytes
    have hnine : ∀ k < 9, b.byte k = a.byte k := hbytes
    rw [if_neg h2, if_neg h2, hnine 2 (by decide)]
    congr 1
    ext k hk
    rw [Vector.getElem_ofFn, Vector.getElem_ofFn, hnine (3 + k) (by omega)]

theorem addrFmt_cases (a : Npdu) :
    a.addrFmt = 0 ∨ a.addrFmt = 1 ∨ a.addrFmt = 2 ∨ a.addrFmt = 3 := by
  have hall : ∀ n : UInt8, (n >>> 2) &&& 3 = 0 ∨ (n >>> 2) &&& 3 = 1 ∨ (n >>> 2) &&& 3 = 2 ∨
      (n >>> 2) &&& 3 = 3 := forall_byte (by decide +kernel)
  exact hall a.hdr

theorem destAddr_addrFmt (a : Npdu) : a.destAddr.addrFmt = some a.addrFmt := by
  unfold destAddr
  rcases a.addrFmt_cases with h | h | h | h
  · simp [h, NetAddr.addrFmt]
  · simp [h, NetAddr.addrFmt]
  · rw [h, if_neg (by decide), if_neg (by decide), if_pos rfl]
    split <;> rfl
  · simp [h, NetAddr.addrFmt]

theorem destAddr_broadcast (h : a.addrFmt = 0) : a.destAddr = .broadcast (a.byte 2) := if_pos h

theorem destAddr_multicast (h : a.addrFmt = 1) : a.destAddr = .multicast (a.byte 2) := by
  rw [destAddr, h, if_neg (by decide), if_pos rfl]

theorem destAddr_subnetNode (h : a.addrFmt = 2) (hsel : a.selField = true) :
    a.destAddr = .subnetNode ⟨a.byte 2, a.byte 3⟩ := by
  rw [destAddr, h, if_neg (by decide), if_neg (by decide), if_pos rfl, if_pos hsel]

theorem destAddr_multicastAck (h : a.addrFmt = 2) (hsel : a.selField = false) :
    a.destAddr = .multicastAck ⟨⟨a.byte 2, a.byte 3⟩, a.byte 4, a.byte 5⟩ := by
  rw [destAddr, h, if_neg (by decide), if_neg (by decide), if_pos rfl, hsel,
    if_neg Bool.false_ne_true]

theorem selField_of_multicastAck {d : MulticastAckAddress} (h : a.destAddr = .multicastAck d) :
    a.selField = false := by
  have hnode := NetworkStackData.selField_of_multicastAck h
  exact decide_eq_false (not_not.mpr hnode)

theorem domainAt_le (a : Npdu) : 3 ≤ a.destAddr.domainAt := by
  unfold destAddr
  repeat' split
  all_goals simp [NetAddr.domainAt]

end Npdu

theorem take_bytesAt (data : List UInt8) (k m n : Nat) :
    (bytesAt data k n).take m = bytesAt data k (min m n) := by
  rw [bytesAt, bytesAt, ← List.map_take, List.take_range]

theorem bytesAt_of_getD {a b : List UInt8} {k len : Nat}
    (h : ∀ i < len, b.getD (k + i) 0 = a.getD (k + i) 0) : bytesAt b k len = bytesAt a k len := by
  apply List.ext_getElem
  · simp
  · intro i hi _
    rw [length_bytesAt] at hi
    simpa [bytesAt] using h i hi

theorem domainLength_cases (lengthCode : UInt8) :
    (decodeDomainLength lengthCode ≠ 0 ∧ decodeDomainLength lengthCode ≠ 1 ∧
      decodeDomainLength lengthCode ≠ 3) ↔ decodeDomainLength lengthCode = 6 := by
  unfold decodeDomainLength
  repeat' split
  all_goals decide

namespace NetworkStackData

variable {gp : NetworkStackData} {uninit : SourceAddress} {r r' : NWReceiveParam}

def Passes (gp : NetworkStackData) (r : NWReceiveParam) : Prop :=
  decodeDomainLength r.npdu.domainLength ≠ 6 ∧
    gp.accepts (gp.domainIndexOf r.domainId) r.npdu.subnetAddr r.npdu.destAddr = true

theorem receiveNpdu_of_not_passes (h : ¬gp.Passes r) : gp.receiveNpdu uninit r = gp := by
  unfold receiveNpdu
  dsimp only
  split
  case isTrue => rfl
  case isFalse hlen =>
    rw [domainLength_cases] at hlen
    exact if_pos fun haccepts => h ⟨hlen, haccepts⟩

theorem countReceived_of_not_passes (h : ¬gp.Passes r) (c : RxCounts) :
    gp.countReceived r c = c := by
  unfold countReceived
  dsimp only
  split
  case isTrue => rfl
  case isFalse hlen =>
    rw [domainLength_cases] at hlen
    exact if_pos fun haccepts => h ⟨hlen, haccepts⟩

theorem receiveNpdu_of_passes (h : gp.Passes r) :
    gp.receiveNpdu uninit r =
      if r.pduSize ≤ r.pduAt + 1 then gp
      else
        let srcAddr := sourceAddress uninit (gp.domainIndexOf r.domainId) r.domainId r.npdu
        if r.npdu.pduType = .apdu then gp.receiveApdu r srcAddr r.pduAt r.enclosedSize
        else gp.receiveTsa r srcAddr r.pduAt r.enclosedSize := by
  have hlen := h.1
  rw [ne_eq, ← domainLength_cases] at hlen
  unfold receiveNpdu
  dsimp only
  rw [if_neg hlen]
  exact if_neg (not_not.mpr h.2)

theorem countReceived_of_passes (h : gp.Passes r) (c : RxCounts) :
    gp.countReceived r c =
      let c := { c with lcsL3Rx := incrementStat c.lcsL3Rx }
      if r.pduSize ≤ r.pduAt + 1 then c
      else if r.npdu.pduType = .apdu ∧ ¬(gp.appInQ.full ∨ gp.appInBufSize < r.enclosedSize) then
        c.logRxStat r.altPath
      else c := by
  have hlen := h.1
  rw [ne_eq, ← domainLength_cases] at hlen
  unfold countReceived
  dsimp only
  rw [if_neg hlen, if_neg (not_not.mpr h.2)]

end NetworkStackData

theorem NWReceiveParam.domainAt_le (r : NWReceiveParam) : r.npdu.destAddr.domainAt ≤ r.pduAt :=
  Nat.le_add_right ..

namespace NWReceiveParam.AgreesInside

variable {r r' : NWReceiveParam}

theorem subnetAddr (h : r.AgreesInside r') (hsize : 3 ≤ r.pduSize) :
    r'.npdu.subnetAddr = r.npdu.subnetAddr := by
  rw [Npdu.subnetAddr, Npdu.subnetAddr, h.byte 0 (by omega), h.byte 1 (by omega)]

theorem destAddr (h : r.AgreesInside r') (hsize : r.npdu.destAddr.domainAt + 1 ≤ r.pduSize) :
    r'.npdu.destAddr = r.npdu.destAddr :=
  Npdu.destAddr_of_bytes (h.hdr (by omega)) fun k hk => h.byte k (by omega)

theorem bytesAt_eq (h : r.AgreesInside r') {k n : Nat} (hsize : k + n + 1 ≤ r.pduSize) :
    bytesAt r'.npdu.data k n = bytesAt r.npdu.data k n :=
  bytesAt_of_getD fun i hi => h.byte (k + i) (by omega)

theorem pduAt (h : r.AgreesInside r') (hsize : 1 ≤ r.pduSize)
    (hdest : r'.npdu.destAddr.domainAt = r.npdu.destAddr.domainAt) : r'.pduAt = r.pduAt := by
  rw [NWReceiveParam.pduAt, NWReceiveParam.pduAt, hdest, (Npdu.fields_of_hdr (h.hdr hsize)).2.1]

theorem domainId (h : r.AgreesInside r') (hsize : r.pduAt + 1 ≤ r.pduSize) :
    r'.domainId = r.domainId := by
  rw [NWReceiveParam.pduAt] at hsize
  rw [NWReceiveParam.domainId, NWReceiveParam.domainId, h.destAddr (by omega),
    (Npdu.fields_of_hdr (h.hdr (by omega))).2.1]
  exact h.bytesAt_eq hsize

end NWReceiveParam.AgreesInside

namespace NetworkStackData

variable {gp : NetworkStackData} {uninit : SourceAddress} {r r' : NWReceiveParam}

theorem receiveNpdu_of_agrees (h : r.AgreesInside r') (hpass : gp.Passes r)
    (hpass' : gp.Passes r') (hsize : r.pduAt + 1 < r.pduSize) :
    gp.receiveNpdu uninit r' = gp.receiveNpdu uninit r := by
  have hlow := r.npdu.domainAt_le
  have hhigh := r.domainAt_le
  have hdest := h.destAddr (by omega)
  have hat := h.pduAt (by omega) (by rw [hdest])
  have hdom := h.domainId (by omega)
  have hsrc := h.subnetAddr (by omega)
  obtain ⟨-, -, htype, hversion⟩ := Npdu.fields_of_hdr (h.hdr (by omega))
  have henclosed : r'.enclosedSize = r.enclosedSize := by
    rw [NWReceiveParam.enclosedSize, NWReceiveParam.enclosedSize, h.pduSize, hat]
  have hsource : sourceAddress uninit (gp.domainIndexOf r'.domainId) r'.domainId r'.npdu =
      sourceAddress uninit (gp.domainIndexOf r.domainId) r.domainId r.npdu := by
    simp only [sourceAddress, hdest, hdom, hsrc]
  rw [receiveNpdu_of_passes hpass, receiveNpdu_of_passes hpass']
  dsimp only
  rw [h.pduSize, hat, htype, henclosed, hsource, receiveApdu, receiveApdu, receiveTsa, receiveTsa,
    h.priority, h.altPath, htype, hversion]
  have hpos : r.pduAt + r.enclosedSize + 1 = r.pduSize := by
    rw [NWReceiveParam.enclosedSize]
    omega
  have hapdu : bytesAt r'.npdu.data r.pduAt r.enclosedSize =
      bytesAt r.npdu.data r.pduAt r.enclosedSize := h.bytesAt_eq (by omega)
  have hbyte : r'.npdu.byte r.pduAt = r.npdu.byte r.pduAt := h.byte _ (by omega)
  have hrest : bytesAt r'.npdu.data (r.pduAt + 1) (r.enclosedSize - 1) =
      bytesAt r.npdu.data (r.pduAt + 1) (r.enclosedSize - 1) := h.bytesAt_eq (by omega)
  rw [hapdu, hbyte, hrest]

def MayBeOwn (gp : NetworkStackData) (r : NWReceiveParam) : Prop :=
  gp.eep.nodeConfigured = true ∧ gp.isOwnAddr 0 r.npdu.subnetAddr = true ∧
    (gp.eep.domainTable 0).invalid = false ∧
    (gp.eep.domainTable 0).idLength = decodeDomainLength r.npdu.domainLength ∧
    r.domainId.take (r.pduSize - 10) =
      ((gp.eep.domainTable 0).id.toList.take (gp.eep.domainTable 0).idLength).take (r.pduSize - 10)

instance : Decidable (gp.MayBeOwn r) := by
  unfold MayBeOwn
  infer_instance

def filteredSize (gp : NetworkStackData) (r : NWReceiveParam) : Nat :=
  match r.npdu.destAddr with
  | .broadcast _ => if gp.eep.nodeConfigured then r.pduAt + 1 else 1
  | .uniqueNodeId .. => if gp.MayBeOwn r then r.pduAt + 1 else 10
  | .multicastAck _ => if decodeDomainLength r.npdu.domainLength = 0 then 6 else r.pduAt + 1
  | _ => r.pduAt + 1

theorem domainIndexOf_unconfigured (h : gp.eep.nodeConfigured = false) (domainId : List UInt8) :
    gp.domainIndexOf domainId = FLEX_DOMAIN := by
  simp [domainIndexOf, h]

theorem accepts_uniqueNodeId (domainId : List UInt8) (src : SubnetNode) (subnet : UInt8) :
    gp.accepts (gp.domainIndexOf domainId) src (.uniqueNodeId subnet gp.eep.uniqueNodeId) = true ↔
      ¬(gp.domainIndexOf domainId = 0 ∧ gp.isOwnAddr 0 src = true) := by
  rcases gp.domainIndexOf_cases domainId with ⟨hconf, hfirst⟩ | ⟨hflex, -⟩
  · rw [accepts_domain hconf hfirst.1.1]
    simp only [isForDomain, isForUniqueId, beq_self_eq_true, and_true]
    exact not_congr (and_congr_right fun hzero => by rw [hzero])
  · rw [hflex, accepts_flex]
    exact iff_of_true (.inl ⟨subnet, rfl⟩) fun hzero => absurd hzero.1 (by decide)

theorem uniqueNodeId_of_accepts {i : Nat} {src : SubnetNode} {subnet : UInt8} {id : UniqueId}
    (h : gp.accepts i src (.uniqueNodeId subnet id) = true) : id = gp.eep.uniqueNodeId := by
  simp only [accepts, Bool.and_eq_true] at h
  exact isForUniqueId_iff.mp h.1.1.2 subnet id rfl

theorem length_domainId (r : NWReceiveParam) :
    r.domainId.length = decodeDomainLength r.npdu.domainLength := length_bytesAt ..

theorem mayBeOwn_of_agrees (h : r.AgreesInside r') (hsize : 10 ≤ r.pduSize)
    {subnet : UInt8} {id : UniqueId} (hdest : r.npdu.destAddr = .uniqueNodeId subnet id)
    (hdest' : r'.npdu.destAddr = .uniqueNodeId subnet id)
    (hzero : gp.domainIndexOf r'.domainId = 0) (hown : gp.isOwnAddr 0 r.npdu.subnetAddr = true) :
    gp.MayBeOwn r := by
  obtain ⟨-, hlen, -⟩ := Npdu.fields_of_hdr (h.hdr (by omega))
  rcases gp.domainIndexOf_cases r'.domainId with ⟨hconf, hfirst⟩ | ⟨hflex, -⟩
  · rw [hzero] at hfirst
    obtain ⟨-, hvalid, hidLength, hid⟩ := hfirst.1
    refine ⟨hconf, hown, hvalid, ?_, ?_⟩
    · rw [hidLength, length_domainId, hlen]
    · rw [hidLength, hid, NWReceiveParam.domainId, NWReceiveParam.domainId, hdest, hdest', hlen]
      have hmin := Nat.min_le_left (r.pduSize - 10) (decodeDomainLength r.npdu.domainLength)
      rw [NetAddr.domainAt, take_bytesAt, take_bytesAt, h.bytesAt_eq (by omega)]
  · rw [hzero] at hflex
    exact absurd hflex (by decide)

theorem passes_of_agrees (h : r.AgreesInside r') (hpass : gp.Passes r)
    (hsize : gp.filteredSize r ≤ r.pduSize) : gp.Passes r' ∧ r'.pduAt = r.pduAt := by
  by_cases hheader : r.pduAt + 1 ≤ r.pduSize
  · have hlow := r.npdu.domainAt_le
    have hhigh := r.domainAt_le
    have hdest := h.destAddr (by omega)
    refine ⟨?_, h.pduAt (by omega) (by rw [hdest])⟩
    rw [Passes, h.domainId hheader, hdest, h.subnetAddr (by omega),
      (Npdu.fields_of_hdr (h.hdr (by omega))).2.1]
    exact hpass
  · unfold filteredSize at hsize
    have hfmt := r.npdu.destAddr_addrFmt
    cases hdest : r.npdu.destAddr with
    | broadcast subnet =>
      rw [hdest] at hsize hfmt
      dsimp only at hsize
      split at hsize
      case isTrue => exact absurd hsize hheader
      case isFalse hconf =>
        rw [Bool.not_eq_true] at hconf
        obtain ⟨hfmt', hlen, -⟩ := Npdu.fields_of_hdr (h.hdr hsize)
        have hdest' : r'.npdu.destAddr = .broadcast (r'.npdu.byte 2) :=
          Npdu.destAddr_broadcast (hfmt'.trans (Option.some.inj hfmt).symm)
        refine ⟨⟨hlen ▸ hpass.1, ?_⟩, h.pduAt hsize (by rw [hdest, hdest']; rfl)⟩
        rw [domainIndexOf_unconfigured hconf, hdest', accepts_flex]
        exact .inr ⟨hconf, _, rfl⟩
    | uniqueNodeId subnet id =>
      rw [hdest] at hsize
      dsimp only at hsize
      split at hsize
      case isTrue => exact absurd hsize hheader
      case isFalse hown =>
        have hdest' : r'.npdu.destAddr = .uniqueNodeId subnet id := by
          rw [h.destAddr (by rw [hdest]; exact hsize), hdest]
        obtain ⟨-, hlen, -⟩ := Npdu.fields_of_hdr (h.hdr (by omega))
        refine ⟨⟨hlen ▸ hpass.1, ?_⟩, h.pduAt (by omega) (by rw [hdest, hdest'])⟩
        have haccepts := hpass.2
        rw [hdest] at haccepts
        obtain rfl := uniqueNodeId_of_accepts haccepts
        rw [hdest', h.subnetAddr (by omega), accepts_uniqueNodeId]
        rintro ⟨hzero, hsource⟩
        exact hown (mayBeOwn_of_agrees h hsize hdest hdest' hzero hsource)
    | multicastAck a =>
      rw [hdest] at hsize hfmt
      dsimp only at hsize
      split at hsize
      case isFalse => exact absurd hsize hheader
      case isTrue hlen =>
        obtain ⟨hfmt', hlen', -⟩ := Npdu.fields_of_hdr (h.hdr (by omega))
        have hsel : r'.npdu.selField = false := by
          rw [Npdu.selField, h.byte 1 (by omega)]
          exact Npdu.selField_of_multicastAck hdest
        have hform' := Npdu.destAddr_multicastAck (hfmt'.trans (Option.some.inj hfmt).symm) hsel
        have hform := Npdu.destAddr_multicastAck (Option.some.inj hfmt).symm
          (Npdu.selField_of_multicastAck hdest)
        refine ⟨⟨hlen' ▸ hpass.1, ?_⟩, h.pduAt (by omega) (by rw [hform, hform']; rfl)⟩
        have hnil : r.domainId = [] ∧ r'.domainId = [] := by
          rw [← List.length_eq_zero_iff, ← List.length_eq_zero_iff, length_domainId,
            length_domainId, hlen']
          exact ⟨hlen, hlen⟩
        have haccepts := hpass.2
        rw [hform, hnil.1] at haccepts
        rw [hform', hnil.2, h.subnetAddr (by omega), h.byte 2 (by omega), h.byte 3 (by omega),
          h.byte 4 (by omega)]
        exact haccepts
    | multicast | subnetNode | unbound =>
      rw [hdest] at hsize
      exact absurd hsize hheader

end NetworkStackData

def NWReceiveParam.withBytes (r : NWReceiveParam) (k : Nat) (bytes : List UInt8) : NWReceiveParam :=
  { r with npdu := { r.npdu with data := bytesAt r.npdu.data 0 k ++ bytes } }

namespace NWReceiveParam

variable (r : NWReceiveParam) {k : Nat} (bytes : List UInt8)

theorem byte_withBytes_lt {i : Nat} (hi : i < k) :
    (r.withBytes k bytes).npdu.byte i = r.npdu.byte i := by
  have hlength : i < (bytesAt r.npdu.data 0 k).length := by rwa [length_bytesAt]
  rw [withBytes, Npdu.byte, List.getD_eq_getElem?_getD, List.getElem?_append_left hlength]
  simp [bytesAt, Npdu.byte, hi]

theorem byte_withBytes_add (i : Nat) :
    (r.withBytes k bytes).npdu.byte (k + i) = bytes.getD i 0 := by
  have hlength : (bytesAt r.npdu.data 0 k).length ≤ k + i := by
    rw [length_bytesAt]
    omega
  rw [withBytes, Npdu.byte, List.getD_eq_getElem?_getD, List.getElem?_append_right hlength,
    length_bytesAt, Nat.add_sub_cancel_left, List.getD_eq_getElem?_getD]

theorem agreesInside_withBytes (hsize : r.pduSize ≤ k + 1) :
    r.AgreesInside (r.withBytes k bytes) :=
  ⟨rfl, rfl, rfl, fun _ => rfl, fun _ hi => r.byte_withBytes_lt bytes (by omega)⟩

theorem destAddr_withBytes (hk : r.npdu.destAddr.domainAt ≤ k) :
    (r.withBytes k bytes).npdu.destAddr = r.npdu.destAddr :=
  Npdu.destAddr_of_bytes rfl fun _ hi => r.byte_withBytes_lt bytes (by omega)

end NWReceiveParam

theorem exists_byte_ne (a b : UInt8) : ∃ v : UInt8, v ≠ a ∧ v ≠ b := by
  by_cases h0 : a ≠ 0 ∧ b ≠ 0
  · exact ⟨0, h0.1.symm, h0.2.symm⟩
  by_cases h1 : a ≠ 1 ∧ b ≠ 1
  · exact ⟨1, h1.1.symm, h1.2.symm⟩
  · exact ⟨2, by grind, by grind⟩

theorem Eeprom.exists_not_member (eep : Eeprom) (i : Nat) :
    ∃ group, (eep.isGroupMember i group).isSome = false := by
  by_contra hall
  push Not at hall
  have hmember : ∀ group : UInt8, ∃ k, (eep.addrTable k).group = group := by
    intro group
    have hsome : (eep.isGroupMember i group).isSome = true := Bool.not_eq_false _ ▸ hall group
    obtain ⟨k, -, hgroup, -⟩ := eep.isGroupMember_iff.mp hsome
    exact ⟨k, hgroup⟩
  have hsub : Finset.range 256 ⊆
      Finset.univ.image fun k : Fin NUM_ADDR_TBL_ENTRIES => (eep.addrTable k).group.toNat := by
    intro n hn
    obtain ⟨k, hk⟩ := hmember (UInt8.ofNat n)
    refine Finset.mem_image.mpr ⟨k, Finset.mem_univ k, ?_⟩
    rw [hk, UInt8.toNat_ofNat', Nat.mod_eq_of_lt (Finset.mem_range.mp hn)]
  have hcard := (Finset.card_le_card hsub).trans Finset.card_image_le
  rw [Finset.card_range, Finset.card_univ, Fintype.card_fin] at hcard
  exact absurd hcard (by decide)

namespace NetworkStackData

variable {gp : NetworkStackData} {uninit : SourceAddress} {r r' : NWReceiveParam}

theorem isForDomain_of_accepts {i : Nat} {src : SubnetNode} {dest : NetAddr}
    (hconf : gp.eep.nodeConfigured = true) (hdest : dest.addressMode ≠ .uniqueNodeId)
    (h : gp.accepts i src dest = true) : i ≠ FLEX_DOMAIN ∧ gp.isForDomain i dest = true := by
  have hmode : (dest.addressMode != .uniqueNodeId) = true := bne_iff_ne.mpr hdest
  simp only [accepts, hconf, hmode, Bool.and_true, Bool.and_eq_true, Bool.not_eq_true',
    Bool.or_eq_true, beq_iff_eq] at h
  have hflex : i ≠ FLEX_DOMAIN := by simpa using h.2
  exact ⟨hflex, h.1.1.1.2.resolve_left hflex⟩

theorem exists_flex_domain (gp : NetworkStackData) (n : Nat) :
    ∃ v : UInt8, ∀ domainId : List UInt8, domainId[n]? = some v →
      gp.domainIndexOf domainId = FLEX_DOMAIN := by
  obtain ⟨v, h0, h1⟩ := exists_byte_ne ((gp.eep.domainTable 0).id.toList.getD n 0)
    ((gp.eep.domainTable 1).id.toList.getD n 0)
  have hmiss {i : Nat} (hne : v ≠ (gp.eep.domainTable i).id.toList.getD n 0) (domainId : List UInt8)
      (hget : domainId[n]? = some v) : gp.isDomain i domainId = false := by
    rw [← Bool.not_eq_true]
    intro hdomain
    simp only [isDomain, Bool.and_eq_true, beq_iff_eq] at hdomain
    have hlt : n < domainId.length := (List.getElem?_eq_some_iff.mp hget).1
    have hid := hget
    rw [hdomain.2, List.getElem?_take_of_lt hlt] at hid
    exact hne (by rw [List.getD_eq_getElem?_getD, hid, Option.getD_some])
  refine ⟨v, fun domainId hget => ?_⟩
  simp [domainIndexOf, hmiss h0 domainId hget, hmiss h1 domainId hget]

theorem not_passes_of_domain (hconf : gp.eep.nodeConfigured = true)
    (hdest : r.npdu.destAddr.addressMode ≠ .uniqueNodeId)
    (hlen : decodeDomainLength r.npdu.domainLength ≠ 0) (hsize : r.pduSize ≤ r.pduAt) :
    ∃ r', r.AgreesInside r' ∧ ¬gp.Passes r' := by
  obtain ⟨v, hv⟩ := gp.exists_flex_domain (decodeDomainLength r.npdu.domainLength - 1)
  have hat : r.pduAt = r.npdu.destAddr.domainAt + decodeDomainLength r.npdu.domainLength := rfl
  refine ⟨r.withBytes (r.pduAt - 1) [v], r.agreesInside_withBytes _ (by omega), fun hpass => ?_⟩
  have hdest' := r.destAddr_withBytes (k := r.pduAt - 1) [v] (by omega)
  have hget : (r.withBytes (r.pduAt - 1) [v]).domainId[
      decodeDomainLength r.npdu.domainLength - 1]? = some v := by
    have hbyte := r.byte_withBytes_add (k := r.pduAt - 1) [v] 0
    have hsum : r.npdu.destAddr.domainAt + (decodeDomainLength r.npdu.domainLength - 1) =
        r.pduAt - 1 + 0 := by omega
    rw [NWReceiveParam.domainId, hdest', bytesAt, List.getElem?_map, List.getElem?_range]
    · rw [Option.map_some, hsum]
      exact congrArg some hbyte
    · show decodeDomainLength r.npdu.domainLength - 1 < decodeDomainLength r.npdu.domainLength
      omega
  have haccepts := hpass.2
  rw [hv _ hget, hdest'] at haccepts
  exact (isForDomain_of_accepts hconf hdest haccepts).1 rfl

theorem not_passes_of_dest (hconf : gp.eep.nodeConfigured = true) {k : Nat} {v : UInt8}
    {dest : NetAddr} (hsize : r.pduSize ≤ k + 1)
    (hlen : decodeDomainLength r.npdu.domainLength = 0)
    (hdest : (r.withBytes k [v]).npdu.destAddr = dest) (hmode : dest.addressMode ≠ .uniqueNodeId)
    (hfor : gp.isForDomain (gp.domainIndexOf []) dest = false) :
    ∃ r', r.AgreesInside r' ∧ ¬gp.Passes r' := by
  refine ⟨r.withBytes k [v], r.agreesInside_withBytes _ hsize, fun hpass => ?_⟩
  have hnil : (r.withBytes k [v]).domainId = [] := by
    rw [← List.length_eq_zero_iff, length_domainId]
    exact hlen
  have haccepts := hpass.2
  rw [hnil, hdest] at haccepts
  rw [(isForDomain_of_accepts hconf hmode haccepts).2] at hfor
  exact Bool.false_ne_true hfor.symm

theorem not_passes_of_uniqueNodeId (hfmt : r.npdu.addrFmt = 3) (hsize : r.pduSize ≤ 9) :
    ∃ r', r.AgreesInside r' ∧ ¬gp.Passes r' := by
  obtain ⟨v, hv, -⟩ := exists_byte_ne gp.eep.uniqueNodeId[5] 0
  refine ⟨r.withBytes 8 [v], r.agreesInside_withBytes _ (by omega), fun hpass => ?_⟩
  have hdest : (r.withBytes 8 [v]).npdu.destAddr = .uniqueNodeId
      ((r.withBytes 8 [v]).npdu.byte 2)
      (Vector.ofFn fun k => (r.withBytes 8 [v]).npdu.byte (3 + k)) := by
    have hfmt' : (r.withBytes 8 [v]).npdu.addrFmt = 3 := hfmt
    rw [Npdu.destAddr, hfmt', if_neg (by decide), if_neg (by decide), if_neg (by decide)]
  have haccepts := hpass.2
  rw [hdest] at haccepts
  have hid := uniqueNodeId_of_accepts haccepts
  have hfive := congrArg (fun id : UniqueId => id[5]) hid
  simp only [Vector.getElem_ofFn] at hfive
  exact hv ((r.byte_withBytes_add (k := 8) [v] 0).symm.trans hfive)

theorem not_passes_of_mayBeOwn (hown : gp.MayBeOwn r) {subnet : UInt8}
    (hdest : r.npdu.destAddr = .uniqueNodeId subnet gp.eep.uniqueNodeId)
    (hlen : decodeDomainLength r.npdu.domainLength ≤ 6) (hsize : r.pduSize ≤ r.pduAt) :
    ∃ r', r.AgreesInside r' ∧ ¬gp.Passes r' := by
  obtain ⟨hconf, hsrc, hvalid, hlength, hprefix⟩ := hown
  have hat : r.pduAt = 9 + decodeDomainLength r.npdu.domainLength := by
    rw [NWReceiveParam.pduAt, hdest, NetAddr.domainAt]
  generalize hd : gp.eep.domainTable 0 = d at hvalid hlength hprefix
  have hidLength : (d.id.toList.take d.idLength).length = decodeDomainLength r.npdu.domainLength := by
    rw [List.length_take, Vector.length_toList, hlength]
    exact Nat.min_eq_left hlen
  refine ⟨r.withBytes 9 (d.id.toList.take d.idLength),
    ⟨rfl, rfl, rfl, fun _ => rfl, fun k hk => ?_⟩, fun hpass => ?_⟩
  · by_cases hnine : k < 9
    · exact r.byte_withBytes_lt _ hnine
    · obtain ⟨i, rfl⟩ := Nat.exists_eq_add_of_le (Nat.le_of_not_lt hnine)
      have hget := congrArg (fun l : List UInt8 => l[i]?) hprefix
      rw [List.getElem?_take_of_lt (by omega), List.getElem?_take_of_lt (by omega),
        NWReceiveParam.domainId, hdest, NetAddr.domainAt, bytesAt, List.getElem?_map,
        List.getElem?_range (by omega), Option.map_some] at hget
      rw [r.byte_withBytes_add, List.getD_eq_getElem?_getD, ← hget, Option.getD_some, Npdu.byte]
  · have hdest' := r.destAddr_withBytes (k := 9) (d.id.toList.take d.idLength)
      (by rw [hdest, NetAddr.domainAt])
    have hdomain : (r.withBytes 9 (d.id.toList.take d.idLength)).domainId =
        d.id.toList.take d.idLength := by
      rw [NWReceiveParam.domainId, hdest', hdest, NetAddr.domainAt]
      apply List.ext_getElem
      · rw [length_bytesAt, hidLength]
        rfl
      · intro i hi hi'
        have hbyte := r.byte_withBytes_add (k := 9) (d.id.toList.take d.idLength) i
        rw [List.getD_eq_getElem?_getD, List.getElem?_eq_getElem hi', Option.getD_some] at hbyte
        rw [← hbyte]
        simp [bytesAt, Npdu.byte]
    have hzero : gp.domainIndexOf (d.id.toList.take d.idLength) = 0 := by
      have hmatch : gp.isDomain 0 (d.id.toList.take d.idLength) = true := by
        have hall : d.id.toList.take (d.id.toList.take d.idLength).length =
            d.id.toList.take d.idLength := by
          rw [hidLength, hlength]
        rw [isDomain, hd, hvalid, hall, hidLength, hlength, beq_self_eq_true, beq_self_eq_true]
        rfl
      rw [domainIndexOf, hconf, hmatch]
      rfl
    have hsource : (r.withBytes 9 (d.id.toList.take d.idLength)).npdu.subnetAddr =
        r.npdu.subnetAddr := by
      rw [Npdu.subnetAddr, Npdu.subnetAddr, r.byte_withBytes_lt _ (by decide),
        r.byte_withBytes_lt _ (by decide)]
    have haccepts := hpass.2
    rw [hdomain, hdest', hdest, hsource, accepts_uniqueNodeId] at haccepts
    exact haccepts ⟨hzero, hsrc⟩

theorem pduAt_eq (r : NWReceiveParam) :
    r.pduAt = r.npdu.destAddr.domainAt + decodeDomainLength r.npdu.domainLength := rfl

theorem exists_agrees_of_broadcast {subnet : UInt8} (hconf : gp.eep.nodeConfigured = true)
    (hdest : r.npdu.destAddr = .broadcast subnet) (hsize : r.pduSize < gp.filteredSize r) :
    ∃ r', r.AgreesInside r' ∧ ¬gp.Passes r' := by
  have hfmt := r.npdu.destAddr_addrFmt
  have hat := pduAt_eq r
  unfold filteredSize at hsize
  rw [hdest] at hsize hfmt hat
  dsimp only at hsize
  rw [if_pos hconf] at hsize
  by_cases hlen : decodeDomainLength r.npdu.domainLength = 0
  case neg =>
    exact not_passes_of_domain hconf (by simp [hdest, NetAddr.addressMode]) hlen (by omega)
  case pos =>
    -- the broadcast is for another subnet
    obtain ⟨v, h0, hown⟩ := exists_byte_ne 0 (gp.eep.domainTable (gp.domainIndexOf [])).subnet
    have hform : (r.withBytes 2 [v]).npdu.destAddr = .broadcast v := by
      rw [Npdu.destAddr_broadcast (a := (r.withBytes 2 [v]).npdu) (Option.some.inj hfmt).symm]
      exact congrArg _ (r.byte_withBytes_add (k := 2) [v] 0)
    refine not_passes_of_dest hconf ?_ hlen hform (by simp [NetAddr.addressMode]) ?_
    · rw [NetAddr.domainAt] at hat
      omega
    · simp [isForDomain, h0, hown]

theorem exists_agrees_of_multicast {group : UInt8} (hconf : gp.eep.nodeConfigured = true)
    (hdest : r.npdu.destAddr = .multicast group) (hsize : r.pduSize < gp.filteredSize r) :
    ∃ r', r.AgreesInside r' ∧ ¬gp.Passes r' := by
  have hfmt := r.npdu.destAddr_addrFmt
  have hat := pduAt_eq r
  unfold filteredSize at hsize
  rw [hdest] at hsize hfmt hat
  dsimp only at hsize
  by_cases hlen : decodeDomainLength r.npdu.domainLength = 0
  case neg =>
    exact not_passes_of_domain hconf (by simp [hdest, NetAddr.addressMode]) hlen (by omega)
  case pos =>
    -- the message is for a group that the node is no member of
    obtain ⟨v, hv⟩ := gp.eep.exists_not_member (gp.domainIndexOf [])
    have hform : (r.withBytes 2 [v]).npdu.destAddr = .multicast v := by
      rw [Npdu.destAddr_multicast (a := (r.withBytes 2 [v]).npdu) (Option.some.inj hfmt).symm]
      exact congrArg _ (r.byte_withBytes_add (k := 2) [v] 0)
    refine not_passes_of_dest hconf ?_ hlen hform (by simp [NetAddr.addressMode]) hv
    rw [NetAddr.domainAt] at hat
    omega

theorem exists_agrees_of_subnetNode {a : SubnetNode} (hconf : gp.eep.nodeConfigured = true)
    (hdest : r.npdu.destAddr = .subnetNode a) (hsize : r.pduSize < gp.filteredSize r) :
    ∃ r', r.AgreesInside r' ∧ ¬gp.Passes r' := by
  have hfmt := r.npdu.destAddr_addrFmt
  have hat := pduAt_eq r
  have hsel : r.npdu.selField = true := decide_eq_true (selField_of_subnetNode hdest)
  unfold filteredSize at hsize
  rw [hdest] at hsize hfmt hat
  dsimp only at hsize
  by_cases hlen : decodeDomainLength r.npdu.domainLength = 0
  case neg =>
    exact not_passes_of_domain hconf (by simp [hdest, NetAddr.addressMode]) hlen (by omega)
  case pos =>
    -- the message is for another node
    obtain ⟨v, hown, -⟩ := exists_byte_ne
      (gp.eep.domainTable (gp.domainIndexOf [])).nodeClone 0
    have hsel' : (r.withBytes 3 [v]).npdu.selField = true := by
      rw [Npdu.selField, r.byte_withBytes_lt _ (by decide)]
      exact hsel
    have hform := Npdu.destAddr_subnetNode (a := (r.withBytes 3 [v]).npdu)
      (Option.some.inj hfmt).symm hsel'
    rw [show (r.withBytes 3 [v]).npdu.byte 3 = v from r.byte_withBytes_add (k := 3) [v] 0] at hform
    refine not_passes_of_dest hconf ?_ hlen hform (by simp [NetAddr.addressMode]) ?_
    · rw [NetAddr.domainAt] at hat
      omega
    · rw [← Bool.not_eq_true]
      exact fun h => hown (isOwnAddr_iff.mp h).2

theorem exists_agrees_of_multicastAck {a : MulticastAckAddress} (hconf : gp.eep.nodeConfigured = true)
    (hdest : r.npdu.destAddr = .multicastAck a) (hsize : r.pduSize < gp.filteredSize r) :
    ∃ r', r.AgreesInside r' ∧ ¬gp.Passes r' := by
  have hfmt := r.npdu.destAddr_addrFmt
  have hat := pduAt_eq r
  have hsel : r.npdu.selField = false := Npdu.selField_of_multicastAck hdest
  unfold filteredSize at hsize
  rw [hdest] at hsize hfmt hat
  dsimp only at hsize
  by_cases hlen : decodeDomainLength r.npdu.domainLength = 0
  case neg =>
    rw [if_neg hlen] at hsize
    exact not_passes_of_domain hconf (by simp [hdest, NetAddr.addressMode]) hlen (by omega)
  case pos =>
    -- the acknowledgement is for a group that the node is no member of
    rw [if_pos hlen] at hsize
    obtain ⟨v, hv⟩ := gp.eep.exists_not_member (gp.domainIndexOf [])
    have hsel' : (r.withBytes 4 [v]).npdu.selField = false := by
      rw [Npdu.selField, r.byte_withBytes_lt _ (by decide)]
      exact hsel
    have hform := Npdu.destAddr_multicastAck (a := (r.withBytes 4 [v]).npdu)
      (Option.some.inj hfmt).symm hsel'
    rw [show (r.withBytes 4 [v]).npdu.byte 4 = v from r.byte_withBytes_add (k := 4) [v] 0] at hform
    refine not_passes_of_dest hconf (by omega) hlen hform (by simp [NetAddr.addressMode]) ?_
    simp [isForDomain, hv]

theorem exists_agrees_of_uniqueNodeId {subnet : UInt8} {id : UniqueId} (hpass : gp.Passes r)
    (hdest : r.npdu.destAddr = .uniqueNodeId subnet id) (hsize : r.pduSize < gp.filteredSize r) :
    ∃ r', r.AgreesInside r' ∧ ¬gp.Passes r' := by
  have hfmt := r.npdu.destAddr_addrFmt
  have hpassed := hpass.2
  unfold filteredSize at hsize
  rw [hdest] at hsize hfmt hpassed
  obtain rfl := uniqueNodeId_of_accepts hpassed
  dsimp only at hsize
  split at hsize
  case isTrue hown =>
    refine not_passes_of_mayBeOwn hown hdest ?_ (by omega)
    unfold decodeDomainLength
    repeat' split
    all_goals decide
  case isFalse => exact not_passes_of_uniqueNodeId (Option.some.inj hfmt).symm (by omega)

theorem exists_agrees_of_unconfigured (hpass : gp.Passes r) (hconf : gp.eep.nodeConfigured = false)
    (hsize : r.pduSize < gp.filteredSize r) : ∃ r', r.AgreesInside r' ∧ ¬gp.Passes r' := by
  have hfmt := r.npdu.destAddr_addrFmt
  have hpassed := hpass.2
  unfold filteredSize at hsize
  rw [domainIndexOf_unconfigured hconf, accepts_flex] at hpassed
  rcases hpassed with ⟨subnet, hdest⟩ | ⟨-, subnet, hdest⟩
  · rw [hdest] at hsize hfmt
    dsimp only at hsize
    have hnot : ¬gp.MayBeOwn r := fun hown => Bool.false_ne_true (hconf.symm.trans hown.1)
    rw [if_neg hnot] at hsize
    exact not_passes_of_uniqueNodeId (Option.some.inj hfmt).symm (by omega)
  · rw [hdest] at hsize
    dsimp only at hsize
    rw [hconf, if_neg Bool.false_ne_true] at hsize
    -- Not even the header is there.
    refine ⟨{ r with npdu := { r.npdu with hdr := 3 } },
      ⟨rfl, rfl, rfl, fun hbyte => by omega, fun _ _ => rfl⟩, fun hpass' => hpass'.1 ?_⟩
    show decodeDomainLength (3 &&& 3) = 6
    decide

theorem exists_agrees_of_short (hpass : gp.Passes r) (hsize : r.pduSize < gp.filteredSize r) :
    ∃ r', r.AgreesInside r' ∧ ¬gp.Passes r' := by
  cases hconf : gp.eep.nodeConfigured with
  | false => exact exists_agrees_of_unconfigured hpass hconf hsize
  | true =>
    cases hdest : r.npdu.destAddr with
    | broadcast => exact exists_agrees_of_broadcast hconf hdest hsize
    | multicast => exact exists_agrees_of_multicast hconf hdest hsize
    | subnetNode => exact exists_agrees_of_subnetNode hconf hdest hsize
    | multicastAck => exact exists_agrees_of_multicastAck hconf hdest hsize
    | uniqueNodeId => exact exists_agrees_of_uniqueNodeId hpass hdest hsize
    | unbound =>
      have hfmt := r.npdu.destAddr_addrFmt
      rw [hdest] at hfmt
      cases hfmt

/-- Each effect that the packet has, it has whatever bytes follow it, and what is passed up is the
rest of the packet behind its header. -/
structure ReceivesInside (gp : NetworkStackData) (uninit : SourceAddress) (r : NWReceiveParam) :
    Prop where
  queued : ∀ r', r.AgreesInside r' → gp.receiveNpdu uninit r ≠ gp →
    gp.receiveNpdu uninit r' = gp.receiveNpdu uninit r
  counted : ∀ r' c, r.AgreesInside r' → gp.countReceived r c ≠ c →
    gp.countReceived r' c = gp.countReceived r c
  apdu : ∀ x, (gp.receiveNpdu uninit r).appInQ.toList = gp.appInQ.toList ++ [x] →
    x.pduSize + (r.pduAt + 1) = r.pduSize ∧ 1 ≤ x.pduSize
  tsa : ∀ p, (gp.receiveNpdu uninit r).tsaInQ.toList = gp.tsaInQ.toList ++ [p] →
    p.pduSize + (r.pduAt + 1) = r.pduSize ∧ 1 ≤ p.pduSize

theorem pduSize_of_receiveApdu {srcAddr : SourceAddress} {j pduSize : Nat} {x : APPReceiveParam}
    (h : (gp.receiveApdu r srcAddr j pduSize).appInQ.toList = gp.appInQ.toList ++ [x]) :
    x.pduSize = pduSize := by
  unfold receiveApdu at h
  split at h
  case isTrue => simp at h
  case isFalse =>
    rw [Queue.toList_push] at h
    split at h
    case isTrue =>
      obtain rfl := List.singleton_injective (List.append_cancel_left h)
      rfl
    case isFalse => simp at h

theorem tsaInQ_receiveApdu (srcAddr : SourceAddress) (j pduSize : Nat) :
    (gp.receiveApdu r srcAddr j pduSize).tsaInQ = gp.tsaInQ := by
  unfold receiveApdu
  split <;> rfl

theorem pduSize_of_receiveTsa {srcAddr : SourceAddress} {j pduSize : Nat} {p : TSAReceiveParam}
    (h : (gp.receiveTsa r srcAddr j pduSize).tsaInQ.toList = gp.tsaInQ.toList ++ [p]) :
    p.pduSize = pduSize := by
  unfold receiveTsa at h
  split at h
  case isTrue => simp at h
  case isFalse =>
    rw [Queue.toList_push] at h
    split at h
    case isTrue =>
      obtain rfl := List.singleton_injective (List.append_cancel_left h)
      rfl
    case isFalse => simp at h

theorem appInQ_receiveTsa (srcAddr : SourceAddress) (j pduSize : Nat) :
    (gp.receiveTsa r srcAddr j pduSize).appInQ = gp.appInQ := by
  unfold receiveTsa
  split <;> rfl

theorem passes_of_receiveNpdu_ne (h : gp.receiveNpdu uninit r ≠ gp) :
    gp.Passes r ∧ r.pduAt + 1 < r.pduSize := by
  have hpass : gp.Passes r := by
    by_contra hnot
    exact h (receiveNpdu_of_not_passes hnot)
  refine ⟨hpass, Nat.lt_of_not_le fun hsize => h ?_⟩
  rw [receiveNpdu_of_passes hpass, if_pos hsize]

theorem pduSize_appInQ {x : APPReceiveParam}
    (h : (gp.receiveNpdu uninit r).appInQ.toList = gp.appInQ.toList ++ [x]) :
    x.pduSize + (r.pduAt + 1) = r.pduSize ∧ 1 ≤ x.pduSize := by
  have hne : gp.receiveNpdu uninit r ≠ gp := by
    intro heq
    rw [heq] at h
    simp at h
  obtain ⟨hpass, hsize⟩ := passes_of_receiveNpdu_ne hne
  rw [receiveNpdu_of_passes hpass, if_neg (Nat.not_le.mpr hsize)] at h
  dsimp only at h
  split at h
  case isTrue =>
    rw [pduSize_of_receiveApdu h, NWReceiveParam.enclosedSize]
    omega
  case isFalse =>
    rw [appInQ_receiveTsa] at h
    simp at h

theorem pduSize_tsaInQ {p : TSAReceiveParam}
    (h : (gp.receiveNpdu uninit r).tsaInQ.toList = gp.tsaInQ.toList ++ [p]) :
    p.pduSize + (r.pduAt + 1) = r.pduSize ∧ 1 ≤ p.pduSize := by
  have hne : gp.receiveNpdu uninit r ≠ gp := by
    intro heq
    rw [heq] at h
    simp at h
  obtain ⟨hpass, hsize⟩ := passes_of_receiveNpdu_ne hne
  rw [receiveNpdu_of_passes hpass, if_neg (Nat.not_le.mpr hsize)] at h
  dsimp only at h
  split at h
  case isTrue =>
    rw [tsaInQ_receiveApdu] at h
    simp at h
  case isFalse =>
    rw [pduSize_of_receiveTsa h, NWReceiveParam.enclosedSize]
    omega

theorem countReceived_of_agrees (h : r.AgreesInside r') (hpass : gp.Passes r)
    (hpass' : gp.Passes r') (hat : r'.pduAt = r.pduAt) (c : RxCounts) :
    gp.countReceived r' c = gp.countReceived r c := by
  rw [countReceived_of_passes hpass, countReceived_of_passes hpass']
  dsimp only
  rw [h.pduSize, hat, h.altPath]
  by_cases hsize : r.pduSize ≤ r.pduAt + 1
  · rw [if_pos hsize, if_pos hsize]
  · obtain ⟨-, -, htype, -⟩ := Npdu.fields_of_hdr (h.hdr (by omega))
    have henclosed : r'.enclosedSize = r.enclosedSize := by
      rw [NWReceiveParam.enclosedSize, NWReceiveParam.enclosedSize, h.pduSize, hat]
    rw [if_neg hsize, if_neg hsize, htype, henclosed]

/-- The packet passes the filters by bytes of its own, or does not pass them. -/
theorem receivesInside_iff (gp : NetworkStackData) (uninit : SourceAddress) (r : NWReceiveParam) :
    gp.ReceivesInside uninit r ↔ (gp.Passes r → gp.filteredSize r ≤ r.pduSize) := by
  constructor
  · intro h hpass
    by_contra hsize
    obtain ⟨r', hagrees, hnot⟩ := exists_agrees_of_short hpass (Nat.lt_of_not_le hsize)
    have hcounted := h.counted r' ⟨0, fun _ _ => 0⟩ hagrees
    have hone : (gp.countReceived r ⟨0, fun _ _ => 0⟩).lcsL3Rx = 1 := by
      rw [countReceived_of_passes hpass]
      dsimp only
      repeat' split
      all_goals rfl
    rw [countReceived_of_not_passes hnot] at hcounted
    have hzero := hcounted fun heq => absurd (congrArg RxCounts.lcsL3Rx heq) (by rw [hone]; decide)
    rw [← hzero] at hone
    exact absurd hone (by decide)
  · intro hsize
    refine ⟨fun r' hagrees hne => ?_, fun r' c hagrees hne => ?_, fun _ => pduSize_appInQ,
      fun _ => pduSize_tsaInQ⟩
    · obtain ⟨hpass, hheader⟩ := passes_of_receiveNpdu_ne hne
      exact receiveNpdu_of_agrees hagrees hpass (passes_of_agrees hagrees hpass (hsize hpass)).1
        hheader
    · have hpass : gp.Passes r := by
        by_contra hnot
        exact hne (countReceived_of_not_passes hnot c)
      obtain ⟨hpass', hat⟩ := passes_of_agrees hagrees hpass (hsize hpass)
      exact countReceived_of_agrees hagrees hpass hpass' hat c

def endsInDomain : NWReceiveParam := { filterPacket 0 2 [9, 0x83, 0, 1, 2, 3] with pduSize := 5 }

def endsInOther : NWReceiveParam := { filterPacket 0 2 [9, 0x83, 0, 1, 7, 7] with pduSize := 5 }

theorem not_receivesInside :
    ¬∀ (gp : NetworkStackData) (uninit : SourceAddress) (r : NWReceiveParam),
      gp.ReceivesInside uninit r := by
  intro hall
  let gp := filterNode (fun _ => networkDomain 2 3) false endsInDomain
  let c : RxCounts := ⟨0, fun _ _ => 0⟩
  have hbytes : ∀ k < 4, endsInOther.npdu.byte k = endsInDomain.npdu.byte k := by decide
  have hagrees : endsInDomain.AgreesInside endsInOther := ⟨rfl, rfl, rfl, fun _ => rfl, hbytes⟩
  have hcounts : (gp.countReceived endsInDomain c).lcsL3Rx = 1 := by decide +kernel
  have hother : (gp.countReceived endsInOther c).lcsL3Rx = 0 := by decide +kernel
  have hsame := (hall gp default endsInDomain).counted endsInOther c hagrees fun heq => by
    rw [heq] at hcounts
    exact absurd hcounts (by decide)
  rw [hsame, hcounts] at hother
  exact absurd hother (by decide)

end NetworkStackData

end LonStack
