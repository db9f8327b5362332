import LonStack.Node

namespace LonStack

theorem forall_byte {P : UInt8 → Prop} (h : ∀ n : Fin 256, P (UInt8.ofNat n)) (x : UInt8) :
    P x := by
  have := h ⟨x.toNat, x.toNat_lt⟩
  rwa [UInt8.ofNat_toNat] at this

theorem getD_of_take {a b : List UInt8} {n j : Nat} (h : a.take n = b.take n) (hj : j < n) :
    a.getD j 0 = b.getD j 0 := by
  have hget : (a.take n)[j]? = (b.take n)[j]? := by rw [h]
  rw [List.getElem?_take_of_lt hj, List.getElem?_take_of_lt hj] at hget
  rw [List.getD_eq_getElem?_getD, List.getD_eq_getElem?_getD, hget]

theorem bytesAt_of_take {a b : List UInt8} {n k len : Nat} (h : a.take n = b.take n)
    (hle : k + len ≤ n) : bytesAt a k len = bytesAt b k len := by
  apply List.ext_getElem
  · simp
  · intro j hj hj'
    rw [length_bytesAt] at hj
    simp only [bytesAt, List.getElem_map, List.getElem_range]
    exact getD_of_take h (by omega)

theorem bytesAt_append (a b c : List UInt8) : bytesAt (a ++ (b ++ c)) a.length b.length = b := by
  apply List.ext_getElem
  · simp
  · intro j hj hj'
    simp only [bytesAt, List.getElem_map, List.getElem_range]
    rw [List.getD_eq_getElem?_getD, List.getElem?_append_right (by omega), Nat.add_sub_cancel_left,
      List.getElem?_append_left hj', List.getElem?_eq_getElem hj', Option.getD_some]

theorem bytesAt_add (data : List UInt8) (k a b : Nat) :
    bytesAt data k (a + b) = bytesAt data k a ++ bytesAt data (k + a) b := by
  simp [bytesAt, List.range_add, Nat.add_assoc, Function.comp_def]

theorem bytesAt_self (data : List UInt8) : bytesAt data 0 data.length = data := by
  simpa using bytesAt_append [] data []

@[simp]
theorem length_transNumLo (version transNum : Nat) :
    (transNumLo version transNum).length = dataIndex version := by
  unfold transNumLo dataIndex
  split <;> rfl

def transNumBound (version : Nat) : Nat := if version = LsProtocolModeLegacy then 16 else 4096

theorem sentVersion_eq_legacy_iff (version : Nat) :
    sentVersion version = LsProtocolModeLegacy ↔ version = LsProtocolModeLegacy := by
  unfold sentVersion
  split <;> simp_all

theorem dataIndex_sentVersion (version : Nat) :
    dataIndex (sentVersion version) = dataIndex version := by
  simp only [dataIndex, sentVersion_eq_legacy_iff]

namespace Pdu

variable {fmt pduMsgType : UInt8}

theorem authHdr_fields (hfmt : fmt < 4) (htype : pduMsgType < 4) (n : Nat) (data : List UInt8) :
    (Pdu.mk (authHdr fmt pduMsgType n) data).fmt = fmt ∧
      (Pdu.mk (authHdr fmt pduMsgType n) data).authMsgType = pduMsgType ∧
      (Pdu.mk (authHdr fmt pduMsgType n) data).transNumField = n % 16 := by
  have hall : ∀ (f t : Fin 4) (k : Fin 16),
      (Pdu.mk (authHdr (UInt8.ofNat f) (UInt8.ofNat t) k) []).fmt = UInt8.ofNat f ∧
        (Pdu.mk (authHdr (UInt8.ofNat f) (UInt8.ofNat t) k) []).authMsgType = UInt8.ofNat t ∧
        (Pdu.mk (authHdr (UInt8.ofNat f) (UInt8.ofNat t) k) []).transNumField = k := by
    decide
  have := hall ⟨fmt.toNat, UInt8.lt_iff_toNat_lt.mp hfmt⟩
    ⟨pduMsgType.toNat, UInt8.lt_iff_toNat_lt.mp htype⟩ ⟨n % 16, Nat.mod_lt _ (by decide)⟩
  simpa only [authHdr, Pdu.fmt, authMsgType, transNumField, Nat.mod_mod, UInt8.ofNat_toNat]
    using this

theorem tspduHdr_fields (htype : pduMsgType < 8) (auth : Bool) (n : Nat) (data : List UInt8) :
    (Pdu.mk (tspduHdr auth pduMsgType n) data).pduMsgType = pduMsgType ∧
      (Pdu.mk (tspduHdr auth pduMsgType n) data).transNumField = n % 16 := by
  have hall : ∀ (auth : Bool) (t : Fin 8) (k : Fin 16),
      (Pdu.mk (tspduHdr auth (UInt8.ofNat t) k) []).pduMsgType = UInt8.ofNat t ∧
        (Pdu.mk (tspduHdr auth (UInt8.ofNat t) k) []).transNumField = k := by decide
  have := hall auth ⟨pduMsgType.toNat, UInt8.lt_iff_toNat_lt.mp htype⟩
    ⟨n % 16, Nat.mod_lt _ (by decide)⟩
  simpa only [tspduHdr, Pdu.pduMsgType, transNumField, Nat.mod_mod, UInt8.ofNat_toNat] using this

theorem fmt_lt (pdu : Pdu) : pdu.fmt < 4 := by
  have hhdr := pdu.hdr.toNat_lt
  rw [UInt8.lt_iff_toNat_lt, fmt, UInt8.toNat_shiftRight, Nat.shiftRight_eq_div_pow]
  simp
  omega

theorem transNumField_lt (pdu : Pdu) : pdu.transNumField < 16 := by
  rw [transNumField, UInt8.toNat_and]
  exact Nat.and_lt_two_pow _ (by decide : (0x0F : UInt8).toNat < 2 ^ 4)

theorem transNum_lt (pdu : Pdu) (version : Nat) :
    pdu.transNum version < transNumBound version := by
  have hfield := pdu.transNumField_lt
  have hbyte := (pdu.byte 0).toNat_lt
  unfold transNum transNumBound
  split <;> omega

end Pdu

structure TSAReceiveParam.Carries (p : TSAReceiveParam) (nw : NWSendParam) : Prop where
  hdr : p.pdu.hdr = nw.pdu.hdr
  version : p.version = nw.version
  data : p.pdu.data.take (nw.pduSize - 1) = nw.pdu.data.take (nw.pduSize - 1)

/-- The form of a TPDU or SPDU: `low` stands where the low byte of the transaction number belongs,
and `bytes` behind it. -/
structure NWSendParam.IsTspdu (nw : NWSendParam) (v num : Nat) (auth : Bool) (pduMsgType : UInt8)
    (low bytes : List UInt8) : Prop where
  version : nw.version = sentVersion v
  pduSize : nw.pduSize = bytes.length + 1 + dataIndex v
  hdr : nw.pdu.hdr = Pdu.tspduHdr auth pduMsgType (transNumHi v num)
  length_low : low.length = dataIndex v
  data : ∃ rest, nw.pdu.data = low ++ (bytes ++ rest)

namespace TSAReceiveParam.Carries

variable {p : TSAReceiveParam} {nw : NWSendParam} {v num : Nat} {auth : Bool}
  {pduMsgType : UInt8} {low bytes : List UInt8}

theorem tspdu_fields (hp : p.Carries nw) (hnw : nw.IsTspdu v num auth pduMsgType low bytes)
    (htype : pduMsgType < 8) :
    p.pdu.pduMsgType = pduMsgType ∧ p.pdu.transNumField = transNumHi v num % 16 := by
  have hpdu : p.pdu = ⟨Pdu.tspduHdr auth pduMsgType (transNumHi v num), p.pdu.data⟩ := by
    rw [← hnw.hdr, ← hp.hdr]
  rw [hpdu]
  exact Pdu.tspduHdr_fields htype _ _ _

theorem tspdu_dataIndex (hp : p.Carries nw) (hnw : nw.IsTspdu v num auth pduMsgType low bytes) :
    p.dataIndex = LonStack.dataIndex v := by
  rw [TSAReceiveParam.dataIndex, hp.version, hnw.version, dataIndex_sentVersion]

theorem tspdu_transNum_iff (hp : p.Carries nw)
    (hnw : nw.IsTspdu v num auth pduMsgType low bytes) (htype : pduMsgType < 8) :
    p.transNum = num ↔ num < transNumBound v ∧ low = transNumLo v num := by
  have hfield := (hp.tspdu_fields hnw htype).2
  have hlow := hnw.length_low
  rw [TSAReceiveParam.transNum, Pdu.transNum, hp.version, hnw.version, hfield]
  simp only [sentVersion_eq_legacy_iff]
  by_cases hv : v = LsProtocolModeLegacy
  · rw [LonStack.dataIndex, if_pos hv, List.length_eq_zero_iff] at hlow
    simp only [if_pos hv, transNumHi, transNumBound, transNumLo, hlow, and_true]
    omega
  · rw [LonStack.dataIndex, if_neg hv, List.length_eq_one_iff] at hlow
    obtain ⟨w, rfl⟩ := hlow
    obtain ⟨rest, hdata⟩ := hnw.data
    have hbyte : p.pdu.byte 0 = w := by
      rw [Pdu.byte, getD_of_take hp.data
        (by simp only [hnw.pduSize, LonStack.dataIndex, if_neg hv]; omega), hdata]
      rfl
    have hw := w.toNat_lt
    have hmod : w = UInt8.ofNat num ↔ w.toNat = num % 256 := by
      rw [← UInt8.toNat_inj, UInt8.toNat_ofNat']
    simp only [if_neg hv, transNumHi, transNumBound, transNumLo, hbyte, List.cons.injEq, and_true,
      hmod]
    omega

theorem tspdu_bytes (hp : p.Carries nw) (hnw : nw.IsTspdu v num auth pduMsgType low bytes) :
    bytesAt p.pdu.data (LonStack.dataIndex v) bytes.length = bytes := by
  obtain ⟨rest, hdata⟩ := hnw.data
  rw [bytesAt_of_take hp.data (by rw [hnw.pduSize]; omega), hdata, ← hnw.length_low, bytesAt_append]

end TSAReceiveParam.Carries

end LonStack
