import LonStack.NetMgmt.Change
import LonStack.PduLaws

namespace LonStack

open Lib

namespace AppData

variable {gp gp' : AppData} {p : APPReceiveParam} {apdu : Apdu} {sts : LonStatusCode}
  {msgType : NtwkMgmtMsgType}

theorem nmndRespond_eq :
    gp.nmndRespond msgType sts p apdu =
      { gp with
        tsaRespQ :=
          if p.service = .request ∧ (nmndData msgType apdu).length + 1 ≤ gp.tsaRespBufSize then
            gp.tsaRespQ.push fun slot =>
              slot.asResponse p.reqId false false
                ((nmndCode msgType sts ||| NtwkMgmtMsgType.subCode msgType apdu) ::
                  nmndData msgType apdu)
          else gp.tsaRespQ } := by
  unfold nmndRespond sendResponse allocSendResponse
  split
  case isTrue hs => rw [if_neg fun h => hs h.1]
  case isFalse hs =>
    rw [ne_eq, not_not] at hs
    split
    case isTrue hfull =>
      rw [Queue.push, gp.tsaRespQ.tail_eq_none_iff.mpr hfull]
      simp only [ite_self]
    case isFalse =>
      split
      case isTrue hfit => rw [if_pos ⟨hs, hfit⟩]
      case isFalse hfit => rw [if_neg fun h => hfit h.2]

@[simp] theorem configTables_nmndRespond :
    (gp.nmndRespond msgType sts p apdu).configTables = gp.configTables := by
  rw [nmndRespond_eq]
  rfl

theorem tsaRespQ_nmndRespond (hq : gp'.tsaRespQ = gp.tsaRespQ)
    (hsize : gp'.tsaRespBufSize = gp.tsaRespBufSize) :
    (gp'.nmndRespond msgType sts p apdu).tsaRespQ =
      (gp.nmndRespond msgType sts p apdu).tsaRespQ := by
  rw [nmndRespond_eq, nmndRespond_eq, hq, hsize]

end AppData

inductive Handled (gp : AppData) (p : APPReceiveParam) (apdu : Apdu) :
    Option ConfigChange → AppData → Prop
  | rejected {gp' : AppData} (sts : LonStatusCode) :
      sts ≠ .noError → gp'.configTables = gp.configTables →
        gp'.tsaRespQ = (gp.nmndRespond .nm sts p apdu).tsaRespQ → Handled gp p apdu none gp'
  | applied {gp' : AppData} (change : ConfigChange) :
      gp'.configTables = change.apply gp.twoDomains gp.nvTableSize gp.configTables →
        gp'.tsaRespQ = (gp.nmndRespond .nm .noError p apdu).tsaRespQ →
          Handled gp p apdu (some change) gp'

namespace AppData

variable {gp gp' : AppData} {p : APPReceiveParam} {apdu : Apdu} {sts : LonStatusCode}
  {msgType : NtwkMgmtMsgType} {change : ConfigChange}

theorem handled_rejected (hsts : sts ≠ .noError) :
    Handled gp p apdu none (gp.nmndRespond .nm sts p apdu) :=
  .rejected sts hsts configTables_nmndRespond rfl

theorem handled_applied
    (htables : gp'.configTables = change.apply gp.twoDomains gp.nvTableSize gp.configTables)
    (hq : gp'.tsaRespQ = gp.tsaRespQ) (hsize : gp'.tsaRespBufSize = gp.tsaRespBufSize) :
    Handled gp p apdu (some change) (gp'.recomputeChecksum.nmndRespond .nm .noError p apdu) :=
  .applied change (by rw [configTables_nmndRespond, configTables_recomputeChecksum, htables])
    (tsaRespQ_nmndRespond hq hsize)

theorem updateDomain_of_lt {domainInp : Image} {src : Nat} {i : UInt8} {includeKey : Bool}
    (hi : i.toNat < gp.numDomains) :
    gp.updateDomain domainInp src i includeKey =
      (.noError,
        gp.setMem (gp.mem.copy (gp.domainTable i.toNat) domainInp src
            (if includeKey then 15 else 9))) :=
  if_pos hi

theorem updateDomain_of_not_lt {domainInp : Image} {src : Nat} {i : UInt8} {includeKey : Bool}
    (hi : ¬i.toNat < gp.numDomains) :
    gp.updateDomain domainInp src i includeKey = (.invalidDomain, gp) :=
  if_neg hi

theorem configTables_copyDomain {i : Nat} (hi : i < MAX_DOMAINS) (src : Nat) :
    (gp.setMem (gp.mem.copy (gp.domainTable i) apdu src 15)).configTables =
      gp.configTables.modifyDomain ⟨i, hi⟩ fun _ => .ofImage apdu src :=
  (gp.differs_mem (.copy gp.mem apdu (gp.domainTable i) src 15)).configTables_domain
    (IzotDomain.ofImage_congr fun _ hk => Image.copy_add hk)

theorem IzotDomain.ofImage_copyNoKey {m : Image} {a src : Nat} :
    IzotDomain.ofImage (m.copy a apdu src 9) a =
      { IzotDomain.ofImage apdu src with key := (IzotDomain.ofImage m a).key } := by
  simp only [IzotDomain.ofImage, IzotDomain.mk.injEq]
  refine ⟨?_, Image.copy_add (by omega), Image.copy_add (by omega), Image.copy_add (by omega), ?_⟩
  · apply Vector.ext
    intro k hk
    rw [Vector.getElem_ofFn, Vector.getElem_ofFn]
    exact Image.copy_add (by omega)
  · apply Vector.ext
    intro k hk
    rw [Vector.getElem_ofFn, Vector.getElem_ofFn]
    exact Image.copy_of_not_mem (.inr (by omega))

theorem configTables_copyDomainNoKey {i : Nat} (hi : i < MAX_DOMAINS) (src : Nat) :
    (gp.setMem (gp.mem.copy (gp.domainTable i) apdu src 9)).configTables =
      gp.configTables.modifyDomain ⟨i, hi⟩ fun old =>
        { IzotDomain.ofImage apdu src with key := old.key } :=
  (gp.differs_mem ((Image.OnlyIn.copy gp.mem apdu (gp.domainTable i) src 9).mono
    (Nat.le_refl _) (by omega))).configTables_domain IzotDomain.ofImage_copyNoKey

theorem handled_updateDomain :
    Handled gp p apdu (gp.updateDomainRequest p apdu) (gp.handleNMUpdateDomain p apdu) := by
  unfold updateDomainRequest handleNMUpdateDomain
  by_cases hsize : 2 + sizeofIzotDomain ≤ p.pduSize
  case pos =>
    rw [if_pos hsize]
    by_cases hi : (apdu.data 0).toNat < gp.numDomains
    case pos =>
      rw [dif_pos ⟨hsize, hi⟩, updateDomain_of_lt hi]
      exact handled_applied (configTables_copyDomain _ 2) rfl rfl
    case neg =>
      rw [dif_neg fun h => hi h.2, updateDomain_of_not_lt hi]
      refine .rejected .invalidDomain (by decide) ?_ (tsaRespQ_nmndRespond rfl rfl)
      rw [configTables_nmndRespond, configTables_recomputeChecksum]
  case neg =>
    rw [dif_neg fun h => hsize h.1, if_neg hsize]
    exact handled_rejected (by decide)

theorem handled_nmeUpdateDomain :
    Handled gp p apdu (gp.nmeUpdateDomainRequest p apdu) (gp.handleNmeUpdateDomain p apdu) := by
  unfold nmeUpdateDomainRequest handleNmeUpdateDomain
  by_cases hsize : 3 + sizeofIzotDomain - IZOT_AUTHENTICATION_KEY_LENGTH ≤ p.pduSize
  case pos =>
    rw [if_pos hsize]
    by_cases hi : (apdu.data 1).toNat < gp.numDomains
    case pos =>
      rw [dif_pos ⟨hsize, hi⟩, updateDomain_of_lt hi]
      exact handled_applied (configTables_copyDomainNoKey _ 3) rfl rfl
    case neg =>
      rw [dif_neg fun h => hi h.2, updateDomain_of_not_lt hi]
      refine .rejected .invalidDomain (by decide) ?_ (tsaRespQ_nmndRespond rfl rfl)
      rw [configTables_nmndRespond, configTables_recomputeChecksum]
  case neg =>
    rw [dif_neg fun h => hsize h.1, if_neg hsize]
    exact handled_rejected (by decide)

theorem onlyIn_leaveDomain (i : Nat) :
    gp.mem.OnlyIn (gp.leaveDomain i).mem (gp.domainTable i) 15 := by
  have hfill := Image.OnlyIn.fill gp.mem (gp.domainTable i) sizeofIzotDomain 0xFF
  have hwrite := (Image.OnlyIn.write (gp.mem.fill (gp.domainTable i) sizeofIzotDomain 0xFF)
    (gp.domainTable i) gmrdwf).mono (n := 15) (Nat.le_refl _) (Nat.add_le_add_left (by decide) _)
  refine (hfill.trans hwrite).trans (.trans (.mono (.set _ _ _) ?_ ?_) (.mono (.set _ _ _) ?_ ?_))
  all_goals simp only [IzotDomain.subnetOffset, sizeofIzotDomain]; omega

theorem leaveDomain_mem (i : Nat) {k : Nat} (h6 : k ≠ 6) (h7 : k ≠ 7) :
    (gp.leaveDomain i).mem (gp.domainTable i + k) =
      ((gp.mem.fill (gp.domainTable i) sizeofIzotDomain 0xFF).write (gp.domainTable i) gmrdwf)
        (gp.domainTable i + k) := by
  rw [leaveDomain, mem_setMem, Image.setAttribute, Image.set_of_ne (by simp only []; omega),
    Image.set_of_ne (by simp only [IzotDomain.subnetOffset]; omega)]

theorem ofImage_leaveDomain (i : Nat) :
    IzotDomain.ofImage (gp.leaveDomain i).mem (gp.domainTable i) = .left := by
  have hfill : ∀ k, 6 ≤ k → k < 15 →
      ((gp.mem.fill (gp.domainTable i) sizeofIzotDomain 0xFF).write (gp.domainTable i) gmrdwf)
        (gp.domainTable i + k) = 0xFF := by
    intro k h6 h15
    rw [Image.write_of_le _ _ (by change gp.domainTable i + 6 ≤ _; omega), Image.fill_add h15]
  simp only [IzotDomain.ofImage, IzotDomain.left, IzotDomain.mk.injEq]
  refine ⟨?id, ?subnet, ?node, ?invalid, ?key⟩
  case id =>
    apply Vector.ext
    intro k hk
    have hlen : k < gmrdwf.length := hk
    rw [Vector.getElem_ofFn, leaveDomain_mem i (by omega) (by omega), Image.write_of_mem _ _ hlen]
    rfl
  case subnet =>
    rw [leaveDomain, mem_setMem, Image.setAttribute, Image.set_of_ne (by simp only []; omega),
      Image.set_self]
  case node =>
    rw [leaveDomain, mem_setMem, Image.setAttribute, Image.set_self,
      Image.set_of_ne (by simp only [IzotDomain.subnetOffset]; omega), hfill 7 (by omega) (by omega)]
    rfl
  case invalid =>
    rw [leaveDomain_mem i (by decide) (by decide), hfill 8 (by omega) (by omega)]
  case key =>
    apply Vector.ext
    intro k hk
    rw [Vector.getElem_ofFn, Vector.getElem_replicate, Nat.add_assoc,
      leaveDomain_mem i (by omega) (by omega), hfill _ (by omega) (by omega)]

theorem configTables_leaveDomain {i : Nat} (hi : i < MAX_DOMAINS) :
    (gp.leaveDomain i).configTables = gp.configTables.modifyDomain ⟨i, hi⟩ fun _ => .left :=
  (gp.differs_mem (onlyIn_leaveDomain i)).configTables_domain (ofImage_leaveDomain i)

theorem configTables_setNodeState (state : UInt8) :
    (gp.setNodeState state).configTables =
      { gp.configTables with
        nodeState := IZOT_READONLY_NODE_STATE.get (IZOT_READONLY_NODE_STATE.put 0 state) } := by
  have h : Differs gp (gp.setNodeState state) (gp.eep + 21) 1 := gp.differs_mem (.set _ _ _)
  simp only [configTables, ConfigTables.mk.injEq]
  refine ⟨?_, ?_, ?_, ?_, ?_⟩
  · funext j
    exact h.domain_eq j (by rw [domainTable_eq]; omega)
  · funext j
    exact h.address_eq j (by rw [addrTable_eq]; omega)
  · funext j
    exact h.nv_eq j (by rw [nvConfigTable_eq]; omega)
  · funext j
    exact h.alias_eq j (by rw [nvAliasTable_eq]; omega)
  · rw [nodeState, setNodeState, mem_setMem]
    change Image.getAttribute _ gp.readOnlyData _ = _
    rw [Image.getAttribute, Image.setAttribute, Image.set_self, Attribute.get_put,
      Attribute.get_put]

theorem configTables_leaveNetwork :
    gp.leaveNetwork.configTables = gp.configTables.leave gp.twoDomains := by
  unfold leaveNetwork ConfigTables.leave
  by_cases h : gp.configTables.noDomain gp.twoDomains
  case pos =>
    rw [if_pos h]
    refine Eq.trans (if_pos h ▸ ?_) (configTables_setNodeState IzotApplicationUnconfig)
    rfl
  case neg =>
    rw [if_neg h]
    exact congrArg configTables (if_neg h)

theorem tsaRespQ_leaveNetwork : gp.leaveNetwork.tsaRespQ = gp.tsaRespQ := by
  unfold leaveNetwork
  split
  case isTrue => rfl
  case isFalse => rfl

theorem Differs.twoDomains_eq {a n : Nat} (h : Differs gp gp' a n) (ha : gp.eep + 47 ≤ a) :
    gp'.twoDomains = gp.twoDomains := by
  rw [twoDomains, twoDomains, readOnlyData_eq, readOnlyData_eq, h.eep, Image.getAttribute,
    Image.getAttribute, h.mem _ (.inl (by change gp.eep + 21 < a; omega))]

theorem ne_zero_ne_one_iff (i : UInt8) : i ≠ 0 ∧ i ≠ 1 ↔ ¬i.toNat < MAX_DOMAINS := by
  rw [ne_eq, ne_eq, ← UInt8.toNat_inj, ← UInt8.toNat_inj]
  change ¬i.toNat = 0 ∧ ¬i.toNat = 1 ↔ ¬i.toNat < 2
  omega

theorem configTables_left {i : Nat} (hi : i < MAX_DOMAINS)
    (htables : gp'.configTables = (gp.leaveDomain i).configTables)
    (htwo : gp'.twoDomains = gp.twoDomains) :
    gp'.leaveNetwork.configTables =
      ConfigChange.apply gp.twoDomains gp.nvTableSize gp.configTables (.leaveDomain ⟨i, hi⟩) := by
  rw [configTables_leaveNetwork, htables, htwo, configTables_leaveDomain hi]
  rfl

theorem twoDomains_left (i : Nat) :
    (gp.leaveDomain i).recomputeChecksum.twoDomains = gp.twoDomains := by
  rw [(differs_recomputeChecksum _).twoDomains_eq (by rw [configCheckSum_eq]; omega)]
  exact (gp.differs_mem (onlyIn_leaveDomain i)).twoDomains_eq (by rw [domainTable_eq]; omega)

theorem twoDomains_nmndRespond :
    (gp.nmndRespond msgType sts p apdu).twoDomains = gp.twoDomains := by
  rw [nmndRespond_eq]
  rfl

theorem tsaRespQ_leaveDomain_of_silent (h : LeaveDomainSilent p apdu) :
    (gp.handleNMLeaveDomain p apdu).tsaRespQ = gp.tsaRespQ := by
  obtain ⟨hsize, hlt, hown⟩ := h
  have hi : ¬(apdu.data 0 ≠ 0 ∧ apdu.data 0 ≠ 1) := fun h => (ne_zero_ne_one_iff _).mp h hlt
  unfold handleNMLeaveDomain
  rw [if_neg (not_not.mpr hsize), if_neg hi]
  simp only [if_neg (not_not.mpr hown)]
  rw [tsaRespQ_leaveNetwork]
  rfl

theorem handled_leaveDomain (h : ¬LeaveDomainSilent p apdu) :
    Handled gp p apdu (leaveDomainRequest p apdu) (gp.handleNMLeaveDomain p apdu) := by
  unfold leaveDomainRequest handleNMLeaveDomain
  by_cases hsize : p.pduSize ≠ 2
  case pos =>
    rw [if_pos hsize, dif_neg fun h => hsize h.1]
    exact handled_rejected (by decide)
  case neg =>
    rw [if_neg hsize]
    by_cases hi : apdu.data 0 ≠ 0 ∧ apdu.data 0 ≠ 1
    case pos =>
      rw [if_pos hi, dif_neg fun h => (ne_zero_ne_one_iff _).mp hi h.2]
      exact handled_rejected (by decide)
    case neg =>
      have hlt : (apdu.data 0).toNat < MAX_DOMAINS :=
        not_not.mp fun h => hi ((ne_zero_ne_one_iff _).mpr h)
      have hown : (apdu.data 0).toNat ≠ p.srcAddr.dmn.domainIndex :=
        fun hown => h ⟨not_not.mp hsize, hlt, hown⟩
      rw [if_neg hi, dif_pos ⟨not_not.mp hsize, hlt⟩]
      simp only [if_pos hown]
      refine .applied _ ?_ ?_
      · refine configTables_left hlt ?_ (twoDomains_nmndRespond.trans (twoDomains_left _))
        rw [configTables_nmndRespond, configTables_recomputeChecksum]
      · rw [tsaRespQ_leaveNetwork]
        exact tsaRespQ_nmndRespond rfl rfl

theorem onlyIn_addKey (a src : Nat) :
    gp.mem.OnlyIn (gp.addKey apdu a src).mem (a + 9) 6 :=
  Image.OnlyIn.foldl (fun m i hi => (Image.OnlyIn.set m _ _).mono (Nat.le_add_right _ _)
    (by have hlt : i < 6 := List.mem_range.mp hi; simp only [IzotDomain.keyOffset]; omega)) gp.mem

theorem addKey_mem (a src : Nat) {k : Nat} (hk : k < 6) :
    (gp.addKey apdu a src).mem (a + 9 + k) = gp.mem (a + 9 + k) + apdu (src + k) :=
  Image.foldl_range_set (fun i b => b + apdu (src + i)) gp.mem (a + 9) hk

theorem ofImage_addKey (a src : Nat) :
    IzotDomain.ofImage (gp.addKey apdu a src).mem a =
      (IzotDomain.ofImage gp.mem a).addKey (.ofImage apdu src) := by
  have hold : ∀ k < 9, (gp.addKey apdu a src).mem (a + k) = gp.mem (a + k) :=
    fun k hk => onlyIn_addKey a src _ (.inl (by omega))
  simp only [IzotDomain.ofImage, IzotDomain.addKey, IzotDomain.mk.injEq]
  refine ⟨?_, hold 6 (by omega), hold 7 (by omega), hold 8 (by omega), ?_⟩
  · apply Vector.ext
    intro k hk
    rw [Vector.getElem_ofFn, Vector.getElem_ofFn]
    exact hold k (by omega)
  · apply Vector.ext
    intro k hk
    have hkey : (Vector.ofFn fun i : Fin 6 => gp.mem (a + 9 + i)).get ⟨k, hk⟩ =
        gp.mem (a + 9 + k) := Vector.getElem_ofFn hk
    have hsrc : (AuthKey.ofImage apdu src).get ⟨k, hk⟩ = apdu (src + k) := Vector.getElem_ofFn hk
    rw [Vector.getElem_ofFn, Vector.getElem_ofFn, addKey_mem a src hk, hkey, hsrc]

theorem configTables_addKey {i : Nat} (hi : i < MAX_DOMAINS) (src : Nat) :
    (gp.addKey apdu (gp.domainTable i) src).configTables =
      gp.configTables.modifyDomain ⟨i, hi⟩ fun old => old.addKey (.ofImage apdu src) := by
  have h : Differs gp (gp.addKey apdu (gp.domainTable i) src) (gp.domainTable i) 15 :=
    ⟨rfl, (onlyIn_addKey _ src).mono (Nat.le_add_right _ _) (by omega)⟩
  exact h.configTables_domain (i := ⟨i, hi⟩) (ofImage_addKey _ src)

theorem handled_updateKey :
    Handled gp p apdu (updateKeyRequest p apdu) (gp.handleNMUpdateKey p apdu) := by
  unfold updateKeyRequest handleNMUpdateKey
  by_cases hsize : p.pduSize ≠ 2 + IZOT_AUTHENTICATION_KEY_LENGTH
  case pos =>
    rw [if_pos hsize, dif_neg fun h => hsize h.1]
    exact handled_rejected (by decide)
  case neg =>
    rw [if_neg hsize]
    by_cases hi : apdu.data 0 ≠ 0 ∧ apdu.data 0 ≠ 1
    case pos =>
      rw [if_pos hi, dif_neg fun h => (ne_zero_ne_one_iff _).mp hi h.2]
      exact handled_rejected (by decide)
    case neg =>
      have hlt : (apdu.data 0).toNat < MAX_DOMAINS :=
        not_not.mp fun h => hi ((ne_zero_ne_one_iff _).mpr h)
      rw [if_neg hi, dif_pos ⟨not_not.mp hsize, hlt⟩]
      exact handled_applied (configTables_addKey hlt 2) rfl rfl

theorem twoDomains_attribute :
    gp.mem.getAttribute gp.readOnlyData IZOT_READONLY_TWO_DOMAINS =
      if gp.twoDomains then 1 else 0 := by
  have h : IZOT_READONLY_TWO_DOMAINS.get (gp.mem (gp.readOnlyData + IzotReadOnlyData.readOnly_2)) = 0 ∨
      IZOT_READONLY_TWO_DOMAINS.get (gp.mem (gp.readOnlyData + IzotReadOnlyData.readOnly_2)) = 1 :=
    forall_byte (P := fun b => IZOT_READONLY_TWO_DOMAINS.get b = 0 ∨
      IZOT_READONLY_TWO_DOMAINS.get b = 1) (by decide +kernel) _
  unfold twoDomains Image.getAttribute
  cases h with
  | inl h0 => simp only [h0]; rfl
  | inr h1 => simp only [h1]; rfl

theorem accessDomain_eq_some (htwo : gp.twoDomains = true) {i : UInt8}
    (hi : i.toNat < MAX_DOMAINS) : gp.accessDomain i = some (gp.domainTable i.toNat) := by
  have hle : i ≤ 1 := by
    rw [UInt8.le_iff_toNat_le]
    exact Nat.le_of_lt_succ hi
  rw [accessDomain, twoDomains_attribute, if_pos htwo, if_pos hle]

theorem isSome_accessDomain_one : (gp.accessDomain 1).isSome = gp.twoDomains := by
  cases htwo : gp.twoDomains with
  | true => rw [accessDomain_eq_some htwo (by decide)]; rfl
  | false =>
    rw [accessDomain, twoDomains_attribute, htwo]
    rfl

theorem onlyIn_clearKey (increment : Bool) (a : Nat) :
    gp.mem.OnlyIn (gp.clearKey increment a).mem (a + 9) 6 := by
  unfold clearKey
  split
  case isTrue => exact .refl _ _ _
  case isFalse => exact .fill _ _ _ _

theorem ofImage_setKey (increment : Bool) (a src : Nat) :
    IzotDomain.ofImage (gp.setKey apdu increment a src).mem a =
      (IzotDomain.ofImage gp.mem a).setKey increment (.ofImage apdu src) := by
  rw [setKey, ofImage_addKey, IzotDomain.setKey]
  cases increment with
  | true => rfl
  | false =>
    rw [if_neg Bool.false_ne_true]
    have hold : ∀ k < 9, (gp.clearKey false a).mem (a + k) = gp.mem (a + k) :=
      fun k hk => onlyIn_clearKey false a _ (.inl (by omega))
    simp only [IzotDomain.ofImage, IzotDomain.addKey, IzotDomain.mk.injEq]
    refine ⟨?_, hold 6 (by omega), hold 7 (by omega), hold 8 (by omega), ?_⟩
    · apply Vector.ext
      intro k hk
      rw [Vector.getElem_ofFn, Vector.getElem_ofFn]
      exact hold k (by omega)
    · apply Vector.ext
      intro k hk
      have hkey : (Vector.ofFn fun i : Fin 6 => (gp.clearKey false a).mem (a + 9 + i)).get ⟨k, hk⟩ =
          (gp.clearKey false a).mem (a + 9 + k) := Vector.getElem_ofFn hk
      rw [Vector.getElem_ofFn, hkey]
      change Image.fill _ _ _ _ (a + 9 + k) + _ = _
      rw [Image.fill_add hk, UInt8.zero_add]
      rfl

theorem differs_setKey (increment : Bool) (i src : Nat) :
    Differs gp (gp.setKey apdu increment (gp.domainTable i) src) (gp.domainTable i) 15 := by
  have heep : (gp.setKey apdu increment (gp.domainTable i) src).eep = gp.eep := by
    cases increment with
    | true => rfl
    | false => rfl
  exact ⟨heep, ((onlyIn_clearKey increment _).trans (onlyIn_addKey _ src)).mono
    (Nat.le_add_right _ _) (by omega)⟩

theorem tsaRespQ_setKey (increment : Bool) (a src : Nat) :
    (gp.setKey apdu increment a src).tsaRespQ = gp.tsaRespQ := by
  cases increment with
  | true => rfl
  | false => rfl

theorem tsaRespBufSize_setKey (increment : Bool) (a src : Nat) :
    (gp.setKey apdu increment a src).tsaRespBufSize = gp.tsaRespBufSize := by
  cases increment with
  | true => rfl
  | false => rfl

theorem twoDomains_setKey (increment : Bool) (i src : Nat) :
    (gp.setKey apdu increment (gp.domainTable i) src).twoDomains = gp.twoDomains :=
  (differs_setKey increment i src).twoDomains_eq (by rw [domainTable_eq]; omega)

theorem configTables_setKey {i : Nat} (hi : i < MAX_DOMAINS) (increment : Bool) (src : Nat) :
    (gp.setKey apdu increment (gp.domainTable i) src).configTables =
      gp.configTables.modifyDomain ⟨i, hi⟩ fun old => old.setKey increment (.ofImage apdu src) :=
  (differs_setKey increment i src).configTables_domain (i := ⟨i, hi⟩)
    (ofImage_setKey increment _ src)

theorem updateKeyOf_eq (htwo : gp.twoDomains = true) {i : UInt8} (hi : i.toNat < MAX_DOMAINS)
    (increment : Bool) (src : Nat) :
    gp.updateKeyOf apdu increment i src =
      (.noError, gp.setKey apdu increment (gp.domainTable i.toNat) src) := by
  have hnum : i.toNat < (gp.setKey apdu increment (gp.domainTable i.toNat) src).numDomains := by
    rw [numDomains, twoDomains_setKey, if_pos htwo]
    exact hi
  have hsame : (gp.setKey apdu increment (gp.domainTable i.toNat) src).domainTable i.toNat =
      gp.domainTable i.toNat := by
    rw [domainTable, (differs_setKey increment i.toNat src).eep, domainTable]
  simp only [updateKeyOf, accessDomain_eq_some htwo hi]
  rw [updateDomain_of_lt hnum, hsame, Image.copy_self]
  rfl

theorem setKeys_eq (t : ConfigTables) (increment : Bool) (key : Fin MAX_DOMAINS → AuthKey)
    (n : Nat) :
    ((t.modifyDomain 0 fun old => old.setKey increment (key 0)).modifyDomain 1
        fun old => old.setKey increment (key 1)) =
      ConfigChange.apply true n t (.setKeys increment key) := by
  simp only [ConfigTables.modifyDomain, ConfigChange.apply, ConfigTables.mk.injEq, and_true]
  funext i
  cases i using Fin.cases with
  | zero => rfl
  | succ i => rw [Subsingleton.elim i 0]; rfl

theorem handled_nmeUpdateKey :
    Handled gp p apdu (gp.nmeUpdateKeyRequest p apdu) (gp.handleNmeUpdateKey p apdu) := by
  unfold nmeUpdateKeyRequest handleNmeUpdateKey
  rw [isSome_accessDomain_one]
  by_cases h : 3 + IZOT_OMA_AUTHENTICATION_KEY_LENGTH ≤ p.pduSize ∧ gp.twoDomains = true
  case pos =>
    have h15 : 15 ≤ p.pduSize ∧ gp.twoDomains = true := h
    rw [if_pos h, if_pos h15]
    generalize decide (apdu.data 1 = 1) = increment
    let gp₁ := gp.setKey apdu increment (gp.domainTable 0) 3
    have htwo : gp₁.twoDomains = true := (twoDomains_setKey increment 0 3).trans h.2
    have h0 : gp.updateKeyOf apdu increment 0 (Apdu.dataOffset + 2) = (.noError, gp₁) :=
      updateKeyOf_eq h.2 (by decide) increment 3
    have h1 : gp₁.updateKeyOf apdu increment 1
        (Apdu.dataOffset + 2 + IZOT_AUTHENTICATION_KEY_LENGTH) =
          (.noError, gp₁.setKey apdu increment (gp₁.domainTable 1) 9) :=
      updateKeyOf_eq htwo (by decide) increment 9
    simp only [h0, ne_eq, not_true_eq_false, if_false, h1]
    refine handled_applied ?_ ?_ ?_
    · have hkey₀ : gp₁.configTables = gp.configTables.modifyDomain 0 fun old =>
          old.setKey increment (.ofImage apdu 3) :=
        configTables_setKey (i := 0) (by decide) increment 3
      rw [h.2, ← setKeys_eq, configTables_setKey (i := 1) (by decide), hkey₀]
      rfl
    · exact (tsaRespQ_setKey increment _ 9).trans (tsaRespQ_setKey increment _ 3)
    · exact (tsaRespBufSize_setKey increment _ 9).trans (tsaRespBufSize_setKey increment _ 3)
  case neg =>
    have h15 : ¬(15 ≤ p.pduSize ∧ gp.twoDomains = true) := h
    rw [if_neg h, if_neg h15]
    exact handled_rejected (by decide)

end AppData

end LonStack
