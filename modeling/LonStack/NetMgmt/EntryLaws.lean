import LonStack.NetMgmt.ChangeLaws

namespace LonStack

open Lib

namespace AppData

variable {gp gp' : AppData} {p : APPReceiveParam} {apdu : Apdu}

theorem updateAddress_of_lt {addrEntryInp : Image} {src i : Nat} (hi : i < gp.extended) :
    gp.updateAddress addrEntryInp src i =
      (.noError, gp.setMem (gp.mem.copy (gp.addrTable i) addrEntryInp src 5)) :=
  if_pos hi

theorem updateAddress_of_not_lt {addrEntryInp : Image} {src i : Nat} (hi : ¬i < gp.extended) :
    gp.updateAddress addrEntryInp src i = (.invalidAddrTableIndex, gp) :=
  if_neg hi

theorem configTables_copyAddress {i : Nat} (hi : i < NUM_ADDR_TBL_ENTRIES) (src : Nat) :
    (gp.setMem (gp.mem.copy (gp.addrTable i) apdu src 5)).configTables =
      gp.configTables.modifyAddress ⟨i, hi⟩ fun _ => .ofImage apdu src :=
  (gp.differs_mem (.copy gp.mem apdu (gp.addrTable i) src 5)).configTables_address
    (IzotAddress.ofImage_congr fun _ hk => Image.copy_add hk)

theorem copyAttribute_mem (ap src : Nat) (a : Attribute) (k : Nat) :
    (gp.copyAttribute apdu ap src a).mem (ap + k) =
      if k = a.field then a.put (gp.mem (ap + k)) (a.get (apdu (src + k))) else gp.mem (ap + k) := by
  rw [copyAttribute, mem_setMem, Image.setAttribute]
  by_cases h : k = a.field
  case pos => rw [if_pos h, h, Image.set_self, Image.getAttribute]
  case neg => rw [if_neg h, Image.set_of_ne (by omega)]

theorem updateGroup_eq (ap src : Nat) :
    gp.updateGroup apdu ap src =
      (((((gp.copyAttribute apdu ap src IZOT_ADDRESS_GROUP_SIZE).copyAttribute apdu ap src
        IZOT_ADDRESS_GROUP_REPEAT_TIMER).copyAttribute apdu ap src
          IZOT_ADDRESS_GROUP_RETRY).copyAttribute apdu ap src
            IZOT_ADDRESS_GROUP_RECEIVE_TIMER).copyAttribute apdu ap src
              IZOT_ADDRESS_GROUP_TRANSMIT_TIMER) :=
  rfl

theorem ofImage_updateGroup (ap src : Nat) :
    IzotAddress.ofImage (gp.updateGroup apdu ap src).mem ap =
      (IzotAddress.ofImage gp.mem ap).setGroup (.ofImage apdu src) := by
  have h0 (m : Image) : m ap = m (ap + 0) := rfl
  rw [updateGroup_eq]
  simp only [IzotAddress.ofImage, IzotAddress.setGroup, h0, copyAttribute_mem]
  rfl

theorem onlyIn_updateGroup (ap src : Nat) : gp.mem.OnlyIn (gp.updateGroup apdu ap src).mem ap 5 := by
  have h : ∀ (gp : AppData) (a : Attribute), a.field < 5 →
      gp.mem.OnlyIn (gp.copyAttribute apdu ap src a).mem ap 5 :=
    fun gp a ha => (Image.OnlyIn.set gp.mem _ _).mono (Nat.le_add_right _ _) (by omega)
  rw [updateGroup_eq]
  exact ((((h _ _ (by decide)).trans (h _ _ (by decide))).trans (h _ _ (by decide))).trans
    (h _ _ (by decide))).trans (h _ _ (by decide))

theorem configTables_updateGroup {i : Nat} (hi : i < NUM_ADDR_TBL_ENTRIES) (src : Nat) :
    (gp.updateGroup apdu (gp.addrTable i) src).configTables =
      gp.configTables.modifyAddress ⟨i, hi⟩ fun old => old.setGroup (.ofImage apdu src) := by
  have h : Differs gp (gp.updateGroup apdu (gp.addrTable i) src) (gp.addrTable i) 5 :=
    ⟨rfl, onlyIn_updateGroup _ src⟩
  exact h.configTables_address (i := ⟨i, hi⟩) (ofImage_updateGroup _ src)

theorem handled_updateAddr (h : ¬gp.UpdateAddrMissed p apdu) :
    Handled gp p apdu (gp.updateAddrRequest p apdu) (gp.handleNMUpdateAddr p apdu) := by
  unfold updateAddrRequest handleNMUpdateAddr
  by_cases hsize : (if apdu.data 1 = 0 then 6 else 7) ≤ p.pduSize
  case pos =>
    rw [if_pos hsize]
    by_cases hi : (apdu.data 0).toNat < gp.extended
    case pos =>
      have hlt : (apdu.data 0).toNat < NUM_ADDR_TBL_ENTRIES :=
        Nat.lt_of_not_le fun hle => h ⟨hsize, hi, hle⟩
      rw [dif_pos ⟨hsize, hi, hlt⟩, updateAddress_of_lt hi]
      exact handled_applied (configTables_copyAddress hlt 2) rfl rfl
    case neg =>
      rw [dif_neg fun h => hi h.2.1, updateAddress_of_not_lt hi]
      refine .rejected .invalidAddrTableIndex (by decide) ?_ (tsaRespQ_nmndRespond rfl rfl)
      rw [configTables_nmndRespond, configTables_recomputeChecksum]
  case neg =>
    rw [dif_neg fun h => hsize h.1, if_neg hsize]
    exact handled_rejected (by decide)

theorem addrTableIndex_lt_or (domainIndex : Nat) (group : UInt8) :
    gp.addrTableIndex domainIndex group < NUM_ADDR_TBL_ENTRIES ∨
      gp.addrTableIndex domainIndex group = 0xFF := by
  unfold addrTableIndex
  cases h : (List.range NUM_ADDR_TBL_ENTRIES).find? _ with
  | none => exact .inr rfl
  | some i => exact .inl (List.mem_range.mp (List.mem_of_find?_eq_some h))

theorem handleNMUpdateGroupAddr_eq
    (hmode : ¬(p.srcAddr.addressMode ≠ .multicast ∨ p.srcAddr.dmn.domainIndex = FLEX_DOMAIN))
    (hsize : ¬p.pduSize ≠ 1 + sizeofIzotAddress)
    (hgroup : Image.getAttribute apdu Apdu.dataOffset IZOT_ADDRESS_GROUP_TYPE = 1) :
    gp.handleNMUpdateGroupAddr p apdu =
      if gp.addrTableIndex p.srcAddr.dmn.domainIndex p.srcAddr.group = 0xFF then
        gp.nmndRespond .nm .invalidMessageAddress p apdu
      else if gp.addrTableIndex p.srcAddr.dmn.domainIndex p.srcAddr.group < gp.extended then
        (gp.updateGroup apdu (gp.addrTable (gp.addrTableIndex p.srcAddr.dmn.domainIndex
          p.srcAddr.group)) 1).recomputeChecksum.nmndRespond .nm .noError p apdu
      else { gp with crashed := true } := by
  unfold handleNMUpdateGroupAddr
  rw [if_neg hmode, if_neg hsize]
  simp only [hgroup, if_true, ne_eq, not_true_eq_false, false_or, accessAddress]
  split
  case isTrue => rfl
  case isFalse =>
    by_cases hend : gp.addrTableIndex p.srcAddr.dmn.domainIndex p.srcAddr.group < gp.extended
    case pos => simp only [if_pos hend]
    case neg => simp only [if_neg hend]

theorem tsaRespQ_updateGroupAddr_of_lost (h : gp.UpdateGroupAddrLost p apdu) :
    (gp.handleNMUpdateGroupAddr p apdu).tsaRespQ = gp.tsaRespQ := by
  obtain ⟨hmode, ⟨hsize, hgroup⟩, hend, hlt⟩ := h
  have hlt' : gp.addrTableIndex p.srcAddr.dmn.domainIndex p.srcAddr.group < 254 := hlt
  rw [handleNMUpdateGroupAddr_eq (fun h => h.elim (fun h => h hmode.1) hmode.2)
    (not_not.mpr hsize) hgroup, if_neg (by omega), if_neg (by omega)]

theorem handled_updateGroupAddr (h : ¬gp.UpdateGroupAddrLost p apdu) :
    Handled gp p apdu (gp.updateGroupAddrRequest p apdu) (gp.handleNMUpdateGroupAddr p apdu) := by
  unfold updateGroupAddrRequest
  by_cases hmode : p.srcAddr.addressMode ≠ .multicast ∨ p.srcAddr.dmn.domainIndex = FLEX_DOMAIN
  case pos =>
    unfold handleNMUpdateGroupAddr
    rw [if_pos hmode, dif_neg fun h => hmode.elim (fun h' => h' h.1.1) h.1.2]
    exact handled_rejected (by decide)
  case neg =>
    by_cases hsize : p.pduSize ≠ 1 + sizeofIzotAddress
    case pos =>
      unfold handleNMUpdateGroupAddr
      rw [if_neg hmode, if_pos hsize, dif_neg fun h => hsize h.2.1.1]
      exact handled_rejected (by decide)
    case neg =>
      by_cases hgroup : Image.getAttribute apdu Apdu.dataOffset IZOT_ADDRESS_GROUP_TYPE = 1
      case pos =>
        have hform : p.srcAddr.addressMode = .multicast ∧ p.srcAddr.dmn.domainIndex ≠ FLEX_DOMAIN :=
          ⟨not_not.mp fun h => hmode (.inl h), fun h => hmode (.inr h)⟩
        rw [handleNMUpdateGroupAddr_eq hmode hsize hgroup]
        by_cases hi : gp.addrTableIndex p.srcAddr.dmn.domainIndex p.srcAddr.group = 0xFF
        case pos =>
          rw [if_pos hi, dif_neg fun h => by
            have hlt : gp.addrTableIndex p.srcAddr.dmn.domainIndex p.srcAddr.group < 254 := h.2.2.2
            omega]
          exact handled_rejected (by decide)
        case neg =>
          have hlt : gp.addrTableIndex p.srcAddr.dmn.domainIndex p.srcAddr.group <
              NUM_ADDR_TBL_ENTRIES := (addrTableIndex_lt_or _ _).resolve_right hi
          have hend : gp.addrTableIndex p.srcAddr.dmn.domainIndex p.srcAddr.group < gp.extended :=
            Nat.lt_of_not_le fun hle => h ⟨hform, ⟨not_not.mp hsize, hgroup⟩, hle, hlt⟩
          rw [if_neg hi, if_pos hend, dif_pos ⟨hform, ⟨not_not.mp hsize, hgroup⟩, hend, hlt⟩]
          exact handled_applied (configTables_updateGroup hlt 1) rfl rfl
      case neg =>
        unfold handleNMUpdateGroupAddr
        rw [if_neg hmode, if_neg hsize, dif_neg fun h => hgroup h.2.1.2]
        simp only [hgroup, if_false, ne_eq, not_false_eq_true, true_or, if_true]
        exact handled_rejected (by decide)

theorem updateLegacy_mem (addr np k : Nat) :
    (gp.updateLegacy apdu addr np).mem (addr + k) =
      if k = 3 then IZOT_DATAPOINT_AES.put (IZOT_DATAPOINT_ADDRESS_HIGH.put (gp.mem (addr + 3)) 0) 0
      else if k < 3 then apdu (np + k) else gp.mem (addr + k) := by
  rw [updateLegacy, mem_setMem, Image.setAttribute, Image.setAttribute]
  by_cases h : k = 3
  case pos =>
    rw [if_pos h, h, Image.set_self, Image.set_self, Image.copy_of_not_mem (.inr (Nat.le_refl _))]
  case neg =>
    rw [if_neg h, Image.set_of_ne (by simp only []; omega), Image.set_of_ne (by simp only []; omega)]
    by_cases hk : k < 3
    case pos => rw [if_pos hk, Image.copy_add hk]
    case neg => rw [if_neg hk, Image.copy_of_not_mem (.inr (by simp only [sizeofNVStruct]; omega))]

theorem ofImage_updateLegacy (addr np : Nat) :
    IzotDatapointConfig.ofImage (gp.updateLegacy apdu addr np).mem addr =
      (IzotDatapointConfig.ofImage gp.mem addr).setLegacy (.ofImage apdu np) := by
  have h0 (m : Image) (a : Nat) : m a = m (a + 0) := rfl
  simp only [IzotDatapointConfig.ofImage, IzotDatapointConfig.setLegacy, h0 _ addr, updateLegacy_mem]
  rfl

theorem onlyIn_updateLegacy (addr np : Nat) :
    gp.mem.OnlyIn (gp.updateLegacy apdu addr np).mem addr 4 := by
  have hset : ∀ (m : Image) (x : UInt8), m.OnlyIn (m.set (addr + 3) x) addr 4 :=
    fun m x => (Image.OnlyIn.set m _ x).mono (Nat.le_add_right _ _) (by omega)
  exact (((Image.OnlyIn.copy gp.mem apdu addr np 3).mono (Nat.le_refl _) (by omega)).trans
    (hset _ _)).trans (hset _ _)

theorem configTables_updateLegacy {i : Nat} (hi : i < NV_TABLE_SIZE) (np : Nat) :
    (gp.updateLegacy apdu (gp.nvConfigTable i) np).configTables =
      gp.configTables.modifyNv ⟨i, hi⟩ fun old => old.setLegacy (.ofImage apdu np) := by
  have h : Differs gp (gp.updateLegacy apdu (gp.nvConfigTable i) np) (gp.nvConfigTable i) 4 :=
    ⟨rfl, onlyIn_updateLegacy _ np⟩
  exact h.configTables_nv (i := ⟨i, hi⟩) (ofImage_updateLegacy _ np)

theorem configTables_updateAliasLegacy {i : Nat} (hi : i < NV_ALIAS_TABLE_SIZE) (np : Nat) :
    (gp.updateAliasLegacy apdu (gp.nvAliasTable i) np).configTables =
      gp.configTables.modifyAlias ⟨i, hi⟩ fun old =>
        ⟨old.aliasConfig.setLegacy (.ofImage apdu np), apdu (np + 3)⟩ := by
  have h : Differs gp (gp.updateAliasLegacy apdu (gp.nvAliasTable i) np) (gp.nvAliasTable i) 5 :=
    ⟨rfl, ((onlyIn_updateLegacy _ np).mono (Nat.le_refl _) (by omega)).trans
      ((Image.OnlyIn.set _ _ _).mono (Nat.le_add_right _ _) (Nat.le_refl _))⟩
  refine h.configTables_alias (i := ⟨i, hi⟩) ?_
  rw [IzotAliasConfig.ofImage, updateAliasLegacy, mem_setMem, Image.set_self]
  have hlegacy : IzotDatapointConfig.ofImage ((gp.updateLegacy apdu (gp.nvAliasTable i) np).mem.set
      (gp.nvAliasTable i + sizeofIzotDatapointConfig) (apdu (np + AliasStruct.primary)))
        (gp.nvAliasTable i) =
      IzotDatapointConfig.ofImage (gp.updateLegacy apdu (gp.nvAliasTable i) np).mem
        (gp.nvAliasTable i) :=
    IzotDatapointConfig.ofImage_congr fun k hk => Image.set_of_ne fun h => by
      have h4 : gp.nvAliasTable i + k = gp.nvAliasTable i + 4 := h
      omega
  rw [hlegacy]
  rw [ofImage_updateLegacy]
  rfl

theorem sizeofNVStruct_le_iff :
    sizeofNVStruct + 2 + legacyEscape apdu ≤ p.pduSize ↔ legacyEntry apdu + 3 ≤ p.pduSize := by
  change 3 + 2 + legacyEscape apdu ≤ _ ↔ 2 + legacyEscape apdu + 3 ≤ _
  omega

theorem aliasSize_eq : sizeofAliasStruct - 2 + 2 + legacyEscape apdu = legacyEntry apdu + 4 := by
  change 6 + legacyEscape apdu = 2 + legacyEscape apdu + 4
  omega

theorem le_legacyAliasSize (p : APPReceiveParam) (apdu : Apdu) : 6 ≤ legacyAliasSize p apdu := by
  unfold legacyAliasSize legacyEntry
  split
  case isTrue => omega
  case isFalse => omega

theorem handled_updateNvConfig :
    Handled gp p apdu (gp.updateNvConfigRequest p apdu) (gp.handleNMUpdateNvConfig p apdu) := by
  unfold updateNvConfigRequest handleNMUpdateNvConfig
  by_cases hmin : p.pduSize < 5
  case pos =>
    have hnv : ¬legacyEntry apdu + 3 ≤ p.pduSize := by unfold legacyEntry; omega
    have halias : ¬legacyAliasSize p apdu ≤ p.pduSize := fun h => by
      have := le_legacyAliasSize p apdu
      omega
    rw [if_pos hmin]
    simp only [if_neg hnv, if_neg halias, dite_eq_ite, ite_self]
    exact handled_rejected (by decide)
  case neg =>
    rw [if_neg hmin]
    by_cases hn : legacyIndex apdu < gp.nvTableSize
    case pos =>
      simp only [if_pos hn, dif_pos hn]
      by_cases hsize : sizeofNVStruct + 2 + legacyEscape apdu ≤ p.pduSize
      case pos =>
        rw [if_pos hsize, if_pos (sizeofNVStruct_le_iff.mp hsize)]
        exact handled_applied (configTables_updateLegacy _ _) rfl rfl
      case neg =>
        rw [if_neg hsize, if_neg fun h => hsize (sizeofNVStruct_le_iff.mpr h)]
        exact handled_rejected (by decide)
    case neg =>
      simp only [if_neg hn, dif_neg hn, aliasSize_eq]
      change Handled gp p apdu _ (if legacyIndex apdu < gp.nvTableSize + NV_ALIAS_TABLE_SIZE then
        if legacyAliasSize p apdu ≤ p.pduSize then _ else _ else _)
      by_cases ha : legacyIndex apdu < gp.nvTableSize + NV_ALIAS_TABLE_SIZE
      case pos =>
        have ha' : legacyIndex apdu - gp.nvTableSize < NV_ALIAS_TABLE_SIZE := by omega
        rw [if_pos ha, dif_pos ha']
        by_cases hsize : legacyAliasSize p apdu ≤ p.pduSize
        case pos =>
          rw [if_pos hsize, if_pos hsize]
          exact handled_applied (configTables_updateAliasLegacy ha' _) rfl rfl
        case neg =>
          rw [if_neg hsize, if_neg hsize]
          exact handled_rejected (by decide)
      case neg =>
        rw [if_neg ha, dif_neg (by omega)]
        exact handled_rejected (by decide)

theorem configTables_copyNv {i : Nat} (hi : i < NV_TABLE_SIZE) (src : Nat) :
    (gp.setMem (gp.mem.copy (gp.nvConfigTable i) apdu src 4)).configTables =
      gp.configTables.modifyNv ⟨i, hi⟩ fun _ => .ofImage apdu src :=
  (gp.differs_mem (.copy gp.mem apdu (gp.nvConfigTable i) src 4)).configTables_nv
    (IzotDatapointConfig.ofImage_congr fun _ hk => Image.copy_add hk)

theorem configTables_copyAlias {i : Nat} (hi : i < NV_ALIAS_TABLE_SIZE) (src : Nat) :
    (gp.setMem (gp.mem.copy (gp.nvAliasTable i) apdu src 5)).configTables =
      gp.configTables.modifyAlias ⟨i, hi⟩ fun _ => .ofImage apdu src :=
  (gp.differs_mem (.copy gp.mem apdu (gp.nvAliasTable i) src 5)).configTables_alias
    (IzotAliasConfig.ofImage_congr fun _ hk => Image.copy_add hk)

theorem handled_nmeUpdateNvCnfg :
    Handled gp p apdu (gp.nmeUpdateNvCnfgRequest p apdu) (gp.handleNmeUpdateNvCnfg p apdu) := by
  unfold nmeUpdateNvCnfgRequest handleNmeUpdateNvCnfg
  by_cases hmin : p.pduSize < 6
  case pos =>
    rw [if_pos hmin, dif_neg fun h => by omega]
    exact handled_rejected (by decide)
  case neg =>
    have hsize : 6 ≤ p.pduSize := Nat.le_of_not_lt hmin
    rw [if_neg hmin]
    by_cases hn : expandedIndex apdu < gp.nvTableSize
    case pos =>
      rw [if_pos hn, dif_pos ⟨hsize, hn⟩]
      refine if_pos (c := sizeofIzotDatapointConfig + 2 ≤ p.pduSize) hsize ▸ ?_
      exact handled_applied (configTables_copyNv _ 4) rfl rfl
    case neg =>
      rw [if_neg hn, dif_neg fun h => hn h.2]
      exact handled_rejected (by decide)

theorem handled_nmeUpdateNvAliasCnfg (h : ¬gp.AliasMissed p apdu) :
    Handled gp p apdu (nmeUpdateNvAliasCnfgRequest p apdu)
      (gp.handleNmeUpdateNvAliasCnfg p apdu) := by
  unfold nmeUpdateNvAliasCnfgRequest handleNmeUpdateNvAliasCnfg
  by_cases hmin : p.pduSize < 10
  case pos =>
    rw [if_pos hmin, dif_neg fun h => by omega]
    exact handled_rejected (by decide)
  case neg =>
    have hsize : 10 ≤ p.pduSize := Nat.le_of_not_lt hmin
    rw [if_neg hmin]
    by_cases hn : expandedIndex apdu < gp.nvTableSize + NV_ALIAS_TABLE_SIZE
    case pos =>
      have hlt : expandedIndex apdu < NV_ALIAS_TABLE_SIZE :=
        Nat.lt_of_not_le fun hle => h ⟨hsize, hle, hn⟩
      rw [if_pos hn, dif_pos ⟨hsize, hlt⟩]
      have hfit : sizeofIzotAliasConfig + 4 ≤ p.pduSize := Nat.le_trans (by decide) hsize
      rw [if_pos hfit]
      exact handled_applied (configTables_copyAlias hlt 4) rfl rfl
    case neg =>
      rw [if_neg hn, dif_neg fun h => hn (by omega)]
      exact handled_rejected (by decide)

theorem differs_lcsInitAddress (gp : AppData) :
    Differs gp gp.lcsInitAddress (gp.addrTable 0) 1270 :=
  gp.differs_mem (.foldl (fun m i hi => (Image.OnlyIn.fill m _ _ _).mono
    (by rw [addrTable_eq, addrTable_eq]; omega)
    (by
      have hlt : i < 254 := List.mem_range.mp hi
      rw [addrTable_eq, addrTable_eq]
      omega)) gp.mem)

theorem lcsInitAddress_mem {i k : Nat} (hi : i < NUM_ADDR_TBL_ENTRIES) (hk : k < 5) :
    gp.lcsInitAddress.mem (gp.addrTable i + k) = 0 := by
  rw [lcsInitAddress, mem_setMem]
  exact Image.foldl_range_last hi (fun _ => Image.fill_add hk) fun _ j hj =>
    Image.fill_of_not_mem (.inl (by rw [addrTable_eq, addrTable_eq]; omega))

theorem ofImage_lcsInitAddress {i : Nat} (hi : i < NUM_ADDR_TBL_ENTRIES) :
    IzotAddress.ofImage gp.lcsInitAddress.mem (gp.addrTable i) = default := by
  have h : ∀ k, k < 5 → gp.lcsInitAddress.mem (gp.addrTable i + k) = 0 :=
    fun k hk => lcsInitAddress_mem hi hk
  have h0 : gp.lcsInitAddress.mem (gp.addrTable i) = 0 := h 0 (by omega)
  simp only [IzotAddress.ofImage, h0, h 1 (by omega), h 2 (by omega), h 3 (by omega),
    h 4 (by omega)]
  rfl

theorem configTables_lcsInitAddress :
    gp.lcsInitAddress.configTables = { gp.configTables with addrTable := fun _ => default } := by
  have h := gp.differs_lcsInitAddress
  simp only [configTables, ConfigTables.mk.injEq]
  refine ⟨?_, ?_, ?_, ?_, h.nodeState_eq (by rw [addrTable_eq]; omega)⟩
  · funext j
    have hj : (j : Nat) < 2 := j.isLt
    exact h.domain_eq j (by rw [domainTable_eq, addrTable_eq]; omega)
  · funext j
    exact ofImage_lcsInitAddress j.isLt
  · funext j
    have hj : (j : Nat) < 254 := j.isLt
    exact h.nv_eq j (by rw [nvConfigTable_eq, addrTable_eq]; omega)
  · funext j
    have hj : (j : Nat) < 254 := j.isLt
    exact h.alias_eq j (by rw [nvAliasTable_eq, addrTable_eq]; omega)

theorem differs_lcsInitAlias (gp : AppData) :
    Differs gp gp.lcsInitAlias (gp.nvAliasTable 0) 1271 := by
  have hlt : ∀ i ∈ List.range NV_ALIAS_TABLE_SIZE,
      gp.nvAliasTable i + 6 ≤ gp.nvAliasTable 0 + 1271 := by
    intro i hi
    have hlt : i < 254 := List.mem_range.mp hi
    rw [nvAliasTable_eq, nvAliasTable_eq]
    omega
  have hle : ∀ i, gp.nvAliasTable 0 ≤ gp.nvAliasTable i := by
    intro i
    rw [nvAliasTable_eq, nvAliasTable_eq]
    omega
  have hfill := Image.OnlyIn.foldl (l := List.range NV_ALIAS_TABLE_SIZE)
    (f := fun m i => m.fill (gp.nvAliasTable i) 6 0)
    (fun m i hi => (Image.OnlyIn.fill m _ _ _).mono (hle i) (hlt i hi)) gp.mem
  exact gp.differs_mem (hfill.trans (.foldl (fun m i hi =>
    (Image.OnlyIn.write m _ unusedAlias).mono (hle i) (hlt i hi)) _))

theorem lcsInitAlias_mem {i k : Nat} (hi : i < NV_ALIAS_TABLE_SIZE) (hk : k < 5) :
    gp.lcsInitAlias.mem (gp.nvAliasTable i + k) = unusedAlias.getD k 0 := by
  have hlen : k < unusedAlias.length := Nat.lt_succ_of_lt hk
  rw [lcsInitAlias, mem_setMem, List.getD_eq_getElem?_getD, List.getElem?_eq_getElem hlen,
    Option.getD_some]
  exact Image.foldl_range_last hi (fun m => Image.write_of_mem m _ hlen) fun m j hj =>
    m.write_of_lt _ (by rw [nvAliasTable_eq, nvAliasTable_eq]; omega)

theorem ofImage_lcsInitAlias {i : Nat} (hi : i < NV_ALIAS_TABLE_SIZE) :
    IzotAliasConfig.ofImage gp.lcsInitAlias.mem (gp.nvAliasTable i) = .unused := by
  have h : ∀ k, k < 5 → gp.lcsInitAlias.mem (gp.nvAliasTable i + k) = unusedAlias.getD k 0 :=
    fun k hk => lcsInitAlias_mem hi hk
  have h0 : gp.lcsInitAlias.mem (gp.nvAliasTable i) = 0x7F := h 0 (by omega)
  simp only [IzotAliasConfig.ofImage, IzotDatapointConfig.ofImage, h0, h 1 (by omega),
    h 2 (by omega), h 3 (by omega), h 4 (by omega)]
  rfl

theorem configTables_lcsInitAlias :
    gp.lcsInitAlias.configTables = { gp.configTables with nvAliasTable := fun _ => .unused } := by
  have h := gp.differs_lcsInitAlias
  simp only [configTables, ConfigTables.mk.injEq]
  refine ⟨?_, ?_, ?_, ?_, h.nodeState_eq (by rw [nvAliasTable_eq]; omega)⟩
  · funext j
    have hj : (j : Nat) < 2 := j.isLt
    exact h.domain_eq j (by rw [domainTable_eq, nvAliasTable_eq]; omega)
  · funext j
    have hj : (j : Nat) < 254 := j.isLt
    exact h.address_eq j (by rw [addrTable_eq, nvAliasTable_eq]; omega)
  · funext j
    have hj : (j : Nat) < 254 := j.isLt
    exact h.nv_eq j (by rw [nvConfigTable_eq, nvAliasTable_eq]; omega)
  · funext j
    exact ofImage_lcsInitAlias j.isLt

theorem initNv_snd (gp : AppData) (r : Image × Bool) (i : Nat) (h : r.2 = initAuth apdu i) :
    (gp.initNv apdu r i).2 = initAuth apdu (i + 1) := by
  rw [initAuth, ← h]
  rfl

theorem onlyIn_initNv (r : Image × Bool) (i : Nat) :
    r.1.OnlyIn (gp.initNv apdu r i).1 (gp.nvConfigTable i) 4 := by
  have hset : ∀ (m : Image) (x : UInt8) (k : Nat), k < 4 →
      m.OnlyIn (m.set (gp.nvConfigTable i + k) x) (gp.nvConfigTable i) 4 :=
    fun m x k hk => (Image.OnlyIn.set m _ x).mono (Nat.le_add_right _ _) (by omega)
  exact ((hset _ _ 0 (by omega)).trans (hset _ _ 1 (by omega))).trans (hset _ _ 2 (by omega))

theorem ofImage_initNv (r : Image × Bool) (i : Nat) (h : r.2 = initAuth apdu i) :
    IzotDatapointConfig.ofImage (gp.initNv apdu r i).1 (gp.nvConfigTable i) =
      (IzotDatapointConfig.ofImage r.1 (gp.nvConfigTable i)).unbind i (initAuth apdu (i + 1)) := by
  have hauth := gp.initNv_snd r i h
  generalize hm : (r.1.setAttribute (gp.nvConfigTable i) IZOT_DATAPOINT_SELHIGH
    (UInt8.ofNat ((0x3FFF - i) / 256))).set (gp.nvConfigTable i + 1) (UInt8.ofNat (0x3FFF - i)) = m
  have hinit : (gp.initNv apdu r i).1 = m.setAttribute (gp.nvConfigTable i)
      IZOT_DATAPOINT_AUTHENTICATION (if initAuth apdu (i + 1) then 1 else 0) := by
    rw [← hauth, ← hm]
    rfl
  have h0 : m (gp.nvConfigTable i) = IZOT_DATAPOINT_SELHIGH.put (r.1 (gp.nvConfigTable i))
      (UInt8.ofNat ((0x3FFF - i) / 256)) := by
    rw [← hm, Image.set_of_ne (by omega)]
    exact Image.set_self _
  have h1 : m (gp.nvConfigTable i + 1) = UInt8.ofNat (0x3FFF - i) := by rw [← hm, Image.set_self]
  have hsame : ∀ k, 2 ≤ k → m (gp.nvConfigTable i + k) = r.1 (gp.nvConfigTable i + k) := by
    intro k hk
    rw [← hm, Image.set_of_ne (by omega)]
    exact Image.set_of_ne (by simp only []; omega)
  simp only [IzotDatapointConfig.ofImage, IzotDatapointConfig.unbind, IzotDatapointConfig.mk.injEq]
  rw [hinit]
  refine ⟨?_, ?_, ?_, ?_⟩
  · rw [← h0]
    exact Image.set_of_ne (by simp only []; omega)
  · rw [← h1]
    exact Image.set_of_ne (by simp only []; omega)
  · rw [Image.setAttribute, Image.set_self, hsame 2 (by omega)]
  · rw [← hsame 3 (by omega)]
    exact Image.set_of_ne (by simp only []; omega)

structure NvsDone (gp : AppData) (apdu : Apdu) (n : Nat) (r : Image × Bool) : Prop where
  auth : r.2 = initAuth apdu n
  differs : gp.mem.OnlyIn r.1 (gp.nvConfigTable 0) (4 * n)
  done : ∀ i < n, IzotDatapointConfig.ofImage r.1 (gp.nvConfigTable i) =
    (IzotDatapointConfig.ofImage gp.mem (gp.nvConfigTable i)).unbind i (initAuth apdu (i + 1))

theorem nvsDone (gp : AppData) (apdu : Apdu) (n : Nat) :
    NvsDone gp apdu n ((List.range n).foldl (gp.initNv apdu) (gp.mem, false)) := by
  refine Image.foldl_range_invariant
    ⟨rfl, .refl _ _ _, fun i hi => absurd hi (Nat.not_lt_zero i)⟩ n ?_
  intro i r _ h
  refine ⟨gp.initNv_snd r i h.auth, ?_, ?_⟩
  · refine (h.differs.mono (Nat.le_refl _) (by omega)).trans ((onlyIn_initNv r i).mono ?_ ?_)
    all_goals rw [nvConfigTable_eq, nvConfigTable_eq]; omega
  · intro j hj
    cases Decidable.em (j = i) with
    | inl heq =>
      rw [heq, ofImage_initNv r i h.auth]
      congr 1
      exact IzotDatapointConfig.ofImage_congr fun k hk =>
        h.differs _ (.inr (by rw [nvConfigTable_eq, nvConfigTable_eq]; omega))
    | inr hne =>
      rw [← h.done j (by omega)]
      exact IzotDatapointConfig.ofImage_congr fun k hk =>
        onlyIn_initNv r i _ (.inl (by rw [nvConfigTable_eq, nvConfigTable_eq]; omega))

theorem configTables_initNvs :
    (gp.initNvs apdu).configTables =
      { gp.configTables with
        nvConfigTable := fun i =>
          if (i : Nat) < gp.nvTableSize then
            (gp.configTables.nvConfigTable i).unbind i (initAuth apdu (i + 1))
          else gp.configTables.nvConfigTable i } := by
  have hdone := gp.nvsDone apdu gp.nvTableSize
  have h : Differs gp (gp.initNvs apdu) (gp.nvConfigTable 0) (4 * gp.nvTableSize) :=
    ⟨rfl, hdone.differs⟩
  have hsize : gp.nvTableSize ≤ 254 := gp.nvTableSize_le
  simp only [configTables, ConfigTables.mk.injEq]
  refine ⟨?_, ?_, ?_, ?_, h.nodeState_eq (by rw [nvConfigTable_eq]; omega)⟩
  · funext j
    have hj : (j : Nat) < 2 := j.isLt
    exact h.domain_eq j (by rw [domainTable_eq, nvConfigTable_eq]; omega)
  · funext j
    have hj : (j : Nat) < 254 := j.isLt
    exact h.address_eq j (by rw [addrTable_eq, nvConfigTable_eq]; omega)
  · funext j
    cases Decidable.em ((j : Nat) < gp.nvTableSize) with
    | inl hj =>
      rw [if_pos hj]
      exact hdone.done j hj
    | inr hj =>
      rw [if_neg hj]
      exact h.nv_eq j (by rw [nvConfigTable_eq, nvConfigTable_eq]; omega)
  · funext j
    exact h.alias_eq j (by rw [nvAliasTable_eq, nvConfigTable_eq]; omega)

theorem handled_nmeInitConfig :
    Handled gp p apdu (nmeInitConfigRequest p apdu) (gp.handleNmeInitConfig p apdu) := by
  unfold nmeInitConfigRequest handleNmeInitConfig
  by_cases hsize : p.pduSize ≤ 2
  case pos =>
    rw [if_pos hsize, if_neg (by omega)]
    exact handled_rejected (by decide)
  case neg =>
    rw [if_neg hsize, if_pos (by omega)]
    refine handled_applied ?_ rfl rfl
    rw [configTables_initNvs, configTables_lcsInitAlias, configTables_lcsInitAddress]
    rfl

end AppData

end LonStack
