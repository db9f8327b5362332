import LonStack.NetMgmt.ReadBack

namespace LonStack

open Lib

namespace AppData

variable {gp : AppData} {p : APPReceiveParam} {apdu : Apdu} {q : Queue TSASendParam}

@[simp] theorem mem_withQueue : (gp.withQueue q).mem = gp.mem := rfl

@[simp] theorem tsaRespQ_withQueue : (gp.withQueue q).tsaRespQ = q := rfl

theorem tsaRespQ_sendResponse {code : UInt8} {pData : List UInt8}
    (h : pData.length + 1 ≤ gp.tsaRespBufSize) :
    (gp.sendResponse p.reqId code pData).2.tsaRespQ =
      gp.tsaRespQ.push fun slot => slot.asResponse p.reqId false false (code :: pData) := by
  unfold sendResponse allocSendResponse
  by_cases hfull : gp.tsaRespQ.full = true
  case pos =>
    rw [if_pos hfull, Queue.push, gp.tsaRespQ.tail_eq_none_iff.mpr hfull]
  case neg => rw [if_neg hfull, if_pos h]

end AppData

namespace EntryPair

open AppData

variable {c : EntryPair} {gp : AppData} {p : APPReceiveParam} {apdu : Apdu}

def stored (c : EntryPair) (gp : AppData) (apdu : Apdu) : Image :=
  match c with
  | .nvConfig =>
    if legacyIndex apdu < gp.nvTableSize then
      (gp.updateLegacy apdu (gp.nvConfigTable (legacyIndex apdu)) (legacyEntry apdu)).mem
    else
      (gp.updateAliasLegacy apdu (gp.nvAliasTable (legacyIndex apdu - gp.nvTableSize))
        (legacyEntry apdu)).mem
  | .nmeNvCnfg => gp.mem.copy (gp.nvConfigTable (expandedIndex apdu)) apdu 4 4
  | .nmeNvAliasCnfg => gp.mem.copy (gp.nvAliasTable (expandedIndex apdu)) apdu 4 5
  | .addr => gp.mem.copy (gp.addrTable (apdu.data 0).toNat) apdu 2 5

theorem update_eq (hi : c.index apdu < c.tableSize gp) (h : c.SizeAccepted gp p apdu) :
    c.update gp p apdu =
      (gp.setMem (c.stored gp apdu)).recomputeChecksum.nmndRespond .nm .noError p apdu := by
  cases c with
  | nvConfig =>
    unfold SizeAccepted at h
    unfold update handleNMUpdateNvConfig stored
    by_cases hn : legacyIndex apdu < gp.nvTableSize
    case pos =>
      simp only [if_pos hn] at h ⊢
      have hmin : ¬p.pduSize < 5 := by
        unfold legacyEntry at h
        omega
      rw [if_neg hmin, if_pos (sizeofNVStruct_le_iff.mpr h)]
      rfl
    case neg =>
      simp only [if_neg hn] at h ⊢
      have hmin : ¬p.pduSize < 5 := by
        have := le_legacyAliasSize p apdu
        omega
      have ha : legacyIndex apdu < gp.nvTableSize + NV_ALIAS_TABLE_SIZE := hi
      rw [if_neg hmin, if_pos ha]
      simp only [aliasSize_eq]
      exact if_pos h
  | nmeNvCnfg =>
    have hmin : ¬p.pduSize < 6 := Nat.not_lt.mpr h
    have hfit : sizeofIzotDatapointConfig + 2 ≤ p.pduSize := h
    have hn : expandedIndex apdu < gp.nvTableSize := hi
    unfold update handleNmeUpdateNvCnfg
    simp only [if_neg hmin, if_pos hn, if_pos hfit]
    rfl
  | nmeNvAliasCnfg =>
    have hmin : ¬p.pduSize < 10 := Nat.not_lt.mpr h
    have hfit : sizeofIzotAliasConfig + 4 ≤ p.pduSize := Nat.le_trans (by decide) h
    have hn : expandedIndex apdu < gp.nvTableSize + NV_ALIAS_TABLE_SIZE :=
      Nat.lt_of_lt_of_le hi (Nat.le_add_left _ _)
    unfold update handleNmeUpdateNvAliasCnfg
    simp only [if_neg hmin, if_pos hn, if_pos hfit]
    rfl
  | addr =>
    have hn : (apdu.data 0).toNat < gp.extended := (Nat.lt_min.mp hi).1
    have hsize : (if apdu.data 1 = 0 then 6 else 7) ≤ p.pduSize := h
    unfold update handleNMUpdateAddr
    rw [if_pos hsize, updateAddress_of_lt hn]
    rfl

theorem onlyIn_stored (gp : AppData) (apdu : Apdu) :
    gp.mem.OnlyIn (c.stored gp apdu) (c.entry gp (c.index apdu)) (c.entrySize gp (c.index apdu)) := by
  cases c with
  | nvConfig =>
    unfold stored entry entrySize index
    by_cases hn : legacyIndex apdu < gp.nvTableSize
    case pos =>
      simp only [if_pos hn]
      exact onlyIn_updateLegacy _ _
    case neg =>
      simp only [if_neg hn]
      exact ((onlyIn_updateLegacy _ _).mono (Nat.le_refl _) (Nat.add_le_add_left (by decide) _)).trans
        ((Image.OnlyIn.set _ _ _).mono (Nat.le_add_right _ _) (Nat.le_refl _))
  | nmeNvCnfg => exact .copy _ _ _ _ _
  | nmeNvAliasCnfg => exact .copy _ _ _ _ _
  | addr => exact .copy _ _ _ _ _

def returned (c : EntryPair) (gp : AppData) (apdu : Apdu) : List UInt8 :=
  match c with
  | .nvConfig =>
    if legacyIndex apdu < gp.nvTableSize then gp.mem.slice (gp.nvConfigTable (legacyIndex apdu)) 3
    else
      gp.mem.slice (gp.nvAliasTable (legacyIndex apdu - gp.nvTableSize)) 3 ++
        [gp.mem (gp.nvAliasTable (legacyIndex apdu - gp.nvTableSize) + 4), 0xFF, 0xFF]
  | .nmeNvCnfg => apdu.data 0 :: gp.mem.slice (gp.nvConfigTable (expandedIndex apdu)) 4
  | .nmeNvAliasCnfg => apdu.data 0 :: gp.mem.slice (gp.nvAliasTable (expandedIndex apdu)) 5
  | .addr => gp.mem.slice (gp.addrTable (apdu.data 0).toNat) 5

def queryCode (c : EntryPair) : UInt8 :=
  match c with
  | .nvConfig => NM_resp_success ||| NM_QUERY_NV_CNFG
  | .nmeNvCnfg => NM_resp_success ||| NM_EXPANDED
  | .nmeNvAliasCnfg => NM_resp_success ||| NM_EXPANDED
  | .addr => NM_resp_success ||| NM_QUERY_ADDR

theorem query_eq (hbuf : 7 ≤ gp.tsaRespBufSize) (hi : c.index apdu < c.tableSize gp)
    (h : c.IsQuery p apdu) :
    (c.query gp p apdu).tsaRespQ =
      gp.tsaRespQ.push fun slot =>
        slot.asResponse p.reqId false false (c.queryCode :: c.returned gp apdu) := by
  cases c with
  | nvConfig =>
    have hsize : ¬(p.pduSize ≠ 2 ∧ p.pduSize ≠ 4) := by
      rintro ⟨h2, h4⟩
      exact h.elim h4 fun h => h2 h.1
    have hescape : ¬(apdu.data 0 = 255 ∧ p.pduSize ≠ 4) := by
      rintro ⟨h255, h4⟩
      exact h.elim h4 fun h => h.2 h255
    have ha : legacyIndex apdu < gp.nvTableSize + NV_ALIAS_TABLE_SIZE := hi
    have hfit : ¬((legacyIndex apdu < gp.nvTableSize ∧ gp.tsaRespBufSize < 1 + sizeofNVStruct) ∨
        (gp.nvTableSize ≤ legacyIndex apdu ∧
          legacyIndex apdu < gp.nvTableSize + NV_ALIAS_TABLE_SIZE ∧
            gp.tsaRespBufSize < 1 + sizeofAliasStruct)) := by
      change ¬((_ ∧ _ < 1 + 3) ∨ (_ ∧ _ ∧ _ < 1 + 6))
      omega
    unfold query handleNMQueryNvCnfg
    simp only [if_neg hsize, if_neg hescape, if_neg hfit]
    unfold writeResponse nvCnfgResponse returned
    by_cases hn : legacyIndex apdu < gp.nvTableSize
    case pos => simp only [if_pos hn]; rfl
    case neg => simp only [if_neg hn, if_pos ha]; rfl
  | nmeNvCnfg =>
    have hsize : ¬p.pduSize ≠ 4 := not_not.mpr h
    have hn : expandedIndex apdu < gp.nvTableSize := hi
    have hfit : ¬(expandedIndex apdu < gp.nvTableSize ∧
        gp.tsaRespBufSize < 1 + sizeofIzotDatapointConfig) := by
      change ¬(_ ∧ _ < 1 + 4)
      omega
    unfold query handleNmeQueryNvCnfg
    rw [if_neg hsize, if_neg hfit, if_pos hn]
    exact tsaRespQ_sendResponse (by rw [List.length_cons, Image.length_slice]; exact Nat.le_trans (by decide) hbuf)
  | nmeNvAliasCnfg =>
    have hsize : ¬p.pduSize ≠ 4 := not_not.mpr h
    have hn : expandedIndex apdu < gp.nvTableSize + NV_ALIAS_TABLE_SIZE :=
      Nat.lt_of_lt_of_le hi (Nat.le_add_left _ _)
    have hfit : ¬(gp.nvTableSize ≤ expandedIndex apdu ∧
        expandedIndex apdu < gp.nvTableSize + NV_ALIAS_TABLE_SIZE ∧
          gp.tsaRespBufSize < 1 + sizeofIzotAliasConfig) := by
      change ¬(_ ∧ _ ∧ _ < 1 + 5)
      omega
    unfold query handleNmeQueryNvAliasCnfg
    rw [if_neg hsize, if_neg hfit, if_pos hn]
    exact tsaRespQ_sendResponse (by rw [List.length_cons, Image.length_slice]; exact hbuf)
  | addr =>
    have hsize : ¬p.pduSize < 2 := Nat.not_lt.mpr h
    have hn : ¬gp.extended ≤ (apdu.data 0).toNat := Nat.not_le.mpr (Nat.lt_min.mp hi).1
    unfold query handleNMQueryAddr
    rw [if_neg hsize, if_neg hn]
    exact tsaRespQ_sendResponse (by rw [Image.length_slice]; exact Nat.le_trans (by decide) hbuf)

structure Stored (c : EntryPair) (gp gp' : AppData) (apdu : Apdu) : Prop where
  eep : gp'.eep = gp.eep
  nvTableSize : gp'.nvTableSize = gp.nvTableSize
  tsaRespBufSize : gp'.tsaRespBufSize = gp.tsaRespBufSize
  mem (k : Nat) : k ≠ gp.configCheckSum → gp'.mem k = c.stored gp apdu k

theorem stored_update (hi : c.index apdu < c.tableSize gp) (h : c.SizeAccepted gp p apdu)
    (q : Queue TSASendParam) : Stored c gp ((c.update gp p apdu).withQueue q) apdu := by
  rw [update_eq hi h, nmndRespond_eq]
  exact ⟨rfl, rfl, rfl, fun k hk => Image.set_of_ne hk⟩

theorem entry_le (hi : c.index apdu < c.tableSize gp) :
    c.entry gp (c.index apdu) + c.entrySize gp (c.index apdu) ≤ gp.configCheckSum ∧
      gp.eep + 102 ≤ c.entry gp (c.index apdu) := by
  have hnv : gp.nvTableSize ≤ 254 := gp.nvTableSize_le
  cases c with
  | nvConfig =>
    have hi' : legacyIndex apdu < gp.nvTableSize + 254 := hi
    unfold entry entrySize index
    by_cases hn : legacyIndex apdu < gp.nvTableSize
    case pos =>
      simp only [if_pos hn]
      rw [nvConfigTable_eq, configCheckSum_eq]
      change _ + 4 ≤ _ ∧ _
      omega
    case neg =>
      simp only [if_neg hn]
      rw [nvAliasTable_eq, configCheckSum_eq]
      change _ + 5 ≤ _ ∧ _
      omega
  | nmeNvCnfg =>
    have hi' : expandedIndex apdu < gp.nvTableSize := hi
    change gp.nvConfigTable (expandedIndex apdu) + 4 ≤ _ ∧ _ ≤ gp.nvConfigTable (expandedIndex apdu)
    rw [nvConfigTable_eq, configCheckSum_eq]
    omega
  | nmeNvAliasCnfg =>
    have hi' : expandedIndex apdu < 254 := hi
    change gp.nvAliasTable (expandedIndex apdu) + 5 ≤ _ ∧ _ ≤ gp.nvAliasTable (expandedIndex apdu)
    rw [nvAliasTable_eq, configCheckSum_eq]
    omega
  | addr =>
    have hi' : (apdu.data 0).toNat < 254 := (Nat.lt_min.mp hi).2
    change gp.addrTable (apdu.data 0).toNat + 5 ≤ _ ∧ _ ≤ gp.addrTable (apdu.data 0).toNat
    rw [addrTable_eq, configCheckSum_eq]
    omega

theorem entry_disjoint {apdu' : Apdu} (hi : c.index apdu < c.tableSize gp)
    (hi' : c.index apdu' < c.tableSize gp) (hne : c.index apdu' ≠ c.index apdu) :
    c.entry gp (c.index apdu') + c.entrySize gp (c.index apdu') ≤ c.entry gp (c.index apdu) ∨
      c.entry gp (c.index apdu) + c.entrySize gp (c.index apdu) ≤ c.entry gp (c.index apdu') := by
  have hnv : gp.nvTableSize ≤ 254 := gp.nvTableSize_le
  generalize c.index apdu = i at *
  generalize c.index apdu' = j at *
  cases c with
  | nvConfig =>
    have hi₁ : i < gp.nvTableSize + 254 := hi
    have hi₂ : j < gp.nvTableSize + 254 := hi'
    unfold entry entrySize
    simp only [nvConfigTable_eq, nvAliasTable_eq]
    change _ + (if _ then 4 else 5) ≤ _ ∨ _ + (if _ then 4 else 5) ≤ _
    split <;> split <;> omega
  | nmeNvCnfg =>
    change gp.nvConfigTable j + 4 ≤ gp.nvConfigTable i ∨ gp.nvConfigTable i + 4 ≤ gp.nvConfigTable j
    rw [nvConfigTable_eq, nvConfigTable_eq]
    omega
  | nmeNvAliasCnfg =>
    change gp.nvAliasTable j + 5 ≤ gp.nvAliasTable i ∨ gp.nvAliasTable i + 5 ≤ gp.nvAliasTable j
    rw [nvAliasTable_eq, nvAliasTable_eq]
    omega
  | addr =>
    change gp.addrTable j + 5 ≤ gp.addrTable i ∨ gp.addrTable i + 5 ≤ gp.addrTable j
    rw [addrTable_eq, addrTable_eq]
    omega

theorem returned_congr {gp' : AppData} (heep : gp'.eep = gp.eep)
    (hsize : gp'.nvTableSize = gp.nvTableSize)
    (hmem : ∀ k < c.entrySize gp (c.index apdu),
      gp'.mem (c.entry gp (c.index apdu) + k) = gp.mem (c.entry gp (c.index apdu) + k)) :
    c.returned gp' apdu = c.returned gp apdu := by
  have hnv : ∀ i, gp'.nvConfigTable i = gp.nvConfigTable i := fun i => by
    rw [nvConfigTable_eq, nvConfigTable_eq, heep]
  have halias : ∀ i, gp'.nvAliasTable i = gp.nvAliasTable i := fun i => by
    rw [nvAliasTable_eq, nvAliasTable_eq, heep]
  have haddr : ∀ i, gp'.addrTable i = gp.addrTable i := fun i => by
    rw [addrTable_eq, addrTable_eq, heep]
  unfold returned
  cases c with
  | nvConfig =>
    unfold entry entrySize index at hmem
    simp only [hsize, hnv, halias]
    by_cases hn : legacyIndex apdu < gp.nvTableSize
    case pos =>
      simp only [if_pos hn] at hmem ⊢
      exact Image.slice_congr fun k hk => hmem k (Nat.lt_succ_of_lt hk)
    case neg =>
      simp only [if_neg hn] at hmem ⊢
      have hlast := hmem 4 (by decide)
      have hfirst : gp'.mem.slice (gp.nvAliasTable (legacyIndex apdu - gp.nvTableSize)) 3 =
          gp.mem.slice (gp.nvAliasTable (legacyIndex apdu - gp.nvTableSize)) 3 :=
        Image.slice_congr fun k hk => hmem k (Nat.lt_trans hk (by decide))
      rw [hfirst, hlast]
  | nmeNvCnfg =>
    simp only [hnv]
    exact congrArg _ (Image.slice_congr hmem)
  | nmeNvAliasCnfg =>
    simp only [halias]
    exact congrArg _ (Image.slice_congr hmem)
  | addr =>
    simp only [haddr]
    exact Image.slice_congr hmem

theorem tableSize_eq {gp' : AppData} (heep : gp'.eep = gp.eep)
    (hsize : gp'.nvTableSize = gp.nvTableSize) (hext : gp'.mem (gp.eep + 46) = gp.mem (gp.eep + 46)) :
    c.tableSize gp' = c.tableSize gp := by
  have hextended : gp'.extended = gp.extended := by
    change (gp'.mem (gp'.eep + 46)).toNat = (gp.mem (gp.eep + 46)).toNat
    rw [heep, hext]
  unfold tableSize
  simp only [hsize, hextended]

section

variable {p' : APPReceiveParam} {apdu' : Apdu}

theorem tableSize_of_stored {gp' : AppData} (hi : c.index apdu < c.tableSize gp)
    (h : Stored c gp gp' apdu) : c.tableSize gp' = c.tableSize gp := by
  obtain ⟨hend, hstart⟩ := entry_le hi
  refine tableSize_eq h.eep h.nvTableSize ?_
  rw [h.mem _ (by rw [configCheckSum_eq]; omega)]
  exact onlyIn_stored gp apdu _ (.inl (by omega))

theorem query_others (gp : AppData) {gp' : AppData} (hbuf : 7 ≤ gp.tsaRespBufSize)
    (hi : c.index apdu < c.tableSize gp) (h : Stored c gp gp' apdu)
    (hq : gp'.tsaRespQ = gp.tsaRespQ) (hquery : c.IsQuery p' apdu')
    (hi' : c.index apdu' < c.tableSize gp) (hne : c.index apdu' ≠ c.index apdu) :
    (c.query gp' p' apdu').tsaRespQ = (c.query gp p' apdu').tsaRespQ := by
  have hsame : c.returned gp' apdu' = c.returned gp apdu' := by
    refine returned_congr h.eep h.nvTableSize fun k hk => ?_
    have hend := (entry_le hi').1
    rw [h.mem _ (by omega)]
    exact onlyIn_stored gp apdu _ ((entry_disjoint hi hi' hne).imp (by omega) (by omega))
  rw [query_eq hbuf hi' hquery,
    query_eq (h.tsaRespBufSize ▸ hbuf) ((tableSize_of_stored hi h).symm ▸ hi') hquery, hsame, hq]

theorem returned_of_stored {gp' : AppData} (hi : c.index apdu < c.tableSize gp)
    (h : Stored c gp gp' apdu) (hindex : c.index apdu' = c.index apdu)
    (hsound : c = .nvConfig → gp.nvTableSize ≤ legacyIndex apdu →
      hostPrimary p apdu = [0xFF, 0xFF]) :
    c.returned gp' apdu' = c.answer gp p apdu apdu' := by
  have hmem : ∀ k < c.entrySize gp (c.index apdu),
      gp'.mem (c.entry gp (c.index apdu) + k) =
        c.stored gp apdu (c.entry gp (c.index apdu) + k) := by
    intro k hk
    have hend := (entry_le hi).1
    exact h.mem _ (by omega)
  have hnv : ∀ i, gp'.nvConfigTable i = gp.nvConfigTable i := fun i => by
    rw [nvConfigTable_eq, nvConfigTable_eq, h.eep]
  have halias : ∀ i, gp'.nvAliasTable i = gp.nvAliasTable i := fun i => by
    rw [nvAliasTable_eq, nvAliasTable_eq, h.eep]
  have haddr : ∀ i, gp'.addrTable i = gp.addrTable i := fun i => by
    rw [addrTable_eq, addrTable_eq, h.eep]
  unfold returned answer
  cases c with
  | nvConfig =>
    have hindex' : legacyIndex apdu' = legacyIndex apdu := hindex
    unfold entry entrySize index stored at hmem
    simp only [hindex', h.nvTableSize, hnv, halias]
    by_cases hn : legacyIndex apdu < gp.nvTableSize
    case pos =>
      simp only [if_pos hn] at hmem ⊢
      refine Image.slice_congr fun k hk => ?_
      rw [hmem k (Nat.lt_succ_of_lt hk), updateLegacy_mem, if_neg (Nat.ne_of_lt hk), if_pos hk]
    case neg =>
      simp only [if_neg hn] at hmem ⊢
      rw [hsound rfl (Nat.le_of_not_lt hn), Image.slice_succ apdu, List.append_assoc]
      refine congrArg₂ (· ++ ·) (Image.slice_congr fun k hk => ?_) ?_
      · rw [hmem k (Nat.lt_trans hk (by decide)), updateAliasLegacy, mem_setMem,
          Image.set_of_ne (fun h => by
            have h4 : gp.nvAliasTable (legacyIndex apdu - gp.nvTableSize) + k =
              gp.nvAliasTable (legacyIndex apdu - gp.nvTableSize) + 4 := h
            omega),
          updateLegacy_mem, if_neg (Nat.ne_of_lt hk), if_pos hk]
      · have hlast := (hmem 4 (by decide)).trans (Image.set_self _)
        rw [hlast]
        rfl
  | nmeNvCnfg =>
    have hindex' : expandedIndex apdu' = expandedIndex apdu := hindex
    simp only [hindex', hnv]
    exact congrArg _ (Image.slice_congr fun k hk => (hmem k hk).trans (Image.copy_add hk))
  | nmeNvAliasCnfg =>
    have hindex' : expandedIndex apdu' = expandedIndex apdu := hindex
    simp only [hindex', halias]
    exact congrArg _ (Image.slice_congr fun k hk => (hmem k hk).trans (Image.copy_add hk))
  | addr =>
    have hindex' : (apdu'.data 0).toNat = (apdu.data 0).toNat := hindex
    simp only [hindex', haddr]
    exact Image.slice_congr fun k hk => (hmem k hk).trans (Image.copy_add hk)

theorem nmndRespond_congr {sts : LonStatusCode} (h0 : apdu' 0 = apdu 0)
    (h1 : apdu' 1 = apdu 1) : gp.nmndRespond .nm sts p apdu' = gp.nmndRespond .nm sts p apdu := by
  have hcode : apdu'.nmCode = apdu.nmCode := congrArg (· &&& NM_opcode_mask) h0
  have hdata : apdu'.data 0 = apdu.data 0 := h1
  have hsub : NtwkMgmtMsgType.subCode .nm apdu' = NtwkMgmtMsgType.subCode .nm apdu := hcode
  unfold nmndRespond nmndData
  rw [hsub, hdata]

def bytesRead (c : EntryPair) (gp : AppData) (apdu : Apdu) : Nat :=
  match c with
  | .nvConfig =>
    if legacyIndex apdu < gp.nvTableSize then legacyEntry apdu + 3 else legacyEntry apdu + 4
  | .nmeNvCnfg => 8
  | .nmeNvAliasCnfg => 9
  | .addr => 7

theorem legacyIndex_congr (h : ∀ k < 4, apdu' k = apdu k) :
    legacyIndex apdu' = legacyIndex apdu ∧ legacyEntry apdu' = legacyEntry apdu := by
  have h0 : apdu'.data 0 = apdu.data 0 := h 1 (by omega)
  have h1 : apdu'.data 1 = apdu.data 1 := h 2 (by omega)
  have h2 : apdu'.data 2 = apdu.data 2 := h 3 (by omega)
  unfold legacyIndex legacyEntry legacyEscape Apdu.word
  rw [h0, h1, h2]
  exact ⟨rfl, rfl⟩

theorem expandedIndex_congr (h : ∀ k < 4, apdu' k = apdu k) :
    expandedIndex apdu' = expandedIndex apdu := by
  have h1 : apdu'.data 1 = apdu.data 1 := h 2 (by omega)
  have h2 : apdu'.data 2 = apdu.data 2 := h 3 (by omega)
  unfold expandedIndex Apdu.word
  rw [h1, h2]

theorem copy_congr {m src src' : Image} {a j n : Nat} (h : ∀ k < n, src' (j + k) = src (j + k)) :
    m.copy a src' j n = m.copy a src j n := by
  funext k
  by_cases hk : a ≤ k ∧ k < a + n
  case pos =>
    rw [Image.copy_of_mem hk.1 hk.2, Image.copy_of_mem hk.1 hk.2, Nat.add_comm, h _ (by omega)]
  case neg => rw [Image.copy_of_not_mem (by omega), Image.copy_of_not_mem (by omega)]

theorem updateLegacy_congr {addr np : Nat} (h : ∀ k < 3, apdu' (np + k) = apdu (np + k)) :
    gp.updateLegacy apdu' addr np = gp.updateLegacy apdu addr np := by
  unfold updateLegacy
  rw [copy_congr h]

theorem five_le_bytesRead (c : EntryPair) (gp : AppData) (apdu : Apdu) : 5 ≤ c.bytesRead gp apdu := by
  cases c with
  | nvConfig =>
    have hentry : 2 ≤ legacyEntry apdu := Nat.le_add_right 2 _
    unfold bytesRead
    by_cases hn : legacyIndex apdu < gp.nvTableSize
    case pos => simp only [if_pos hn]; omega
    case neg => simp only [if_neg hn]; omega
  | nmeNvCnfg => exact Nat.le_add_left 5 3
  | nmeNvAliasCnfg => exact Nat.le_add_left 5 4
  | addr => exact Nat.le_add_left 5 2

theorem stored_congr (h : ∀ k < c.bytesRead gp apdu, apdu' k = apdu k) :
    c.index apdu' = c.index apdu ∧ (c.SizeAccepted gp p apdu' ↔ c.SizeAccepted gp p apdu) ∧
      c.stored gp apdu' = c.stored gp apdu := by
  cases c with
  | nvConfig =>
    have hread := five_le_bytesRead .nvConfig gp apdu
    obtain ⟨hindex, hentry⟩ := legacyIndex_congr fun k hk => h k (by omega)
    unfold bytesRead at h
    unfold index SizeAccepted stored
    simp only [hindex, hentry]
    by_cases hn : legacyIndex apdu < gp.nvTableSize
    case pos =>
      simp only [if_pos hn] at h ⊢
      rw [updateLegacy_congr fun k hk => h _ (by omega)]
      exact ⟨trivial, trivial, rfl⟩
    case neg =>
      simp only [if_neg hn] at h ⊢
      have hprimary := h (legacyEntry apdu + 3) (by omega)
      unfold legacyAliasSize updateAliasLegacy
      rw [hentry, hprimary, updateLegacy_congr fun k hk => h _ (by omega)]
      exact ⟨trivial, Iff.rfl, rfl⟩
  | nmeNvCnfg =>
    have hindex := expandedIndex_congr fun k hk => h k (Nat.lt_of_lt_of_le hk (Nat.le_add_left 4 _))
    refine ⟨hindex, Iff.rfl, ?_⟩
    unfold stored
    simp only [hindex]
    exact copy_congr fun k hk => h _ (Nat.add_lt_add_left hk 4)
  | nmeNvAliasCnfg =>
    have hindex := expandedIndex_congr fun k hk => h k (Nat.lt_of_lt_of_le hk (Nat.le_add_left 4 _))
    refine ⟨hindex, Iff.rfl, ?_⟩
    unfold stored
    simp only [hindex]
    exact copy_congr fun k hk => h _ (Nat.add_lt_add_left hk 4)
  | addr =>
    have h0 : apdu'.data 0 = apdu.data 0 := h 1 (Nat.le_add_left 2 5)
    have h1 : apdu'.data 1 = apdu.data 1 := h 2 (Nat.le_add_left 3 4)
    unfold index SizeAccepted stored
    simp only [h0, h1, true_and]
    exact copy_congr fun k hk => h _ (Nat.add_lt_add_left hk 2)

theorem update_inside (hi : c.index apdu < c.tableSize gp) (hsize : c.SizeAccepted gp p apdu)
    (h : ∀ k < c.bytesRead gp apdu, apdu' k = apdu k) :
    c.update gp p apdu' = c.update gp p apdu := by
  obtain ⟨hindex, haccepted, hstored⟩ := stored_congr h
  have hfive := five_le_bytesRead c gp apdu
  rw [update_eq hi hsize, update_eq (hindex.symm ▸ hi) (haccepted.mpr hsize), hstored]
  exact nmndRespond_congr (h 0 (by omega)) (h 1 (by omega))

theorem respStatus_query (c : EntryPair) (slot : TSASendParam) (bytes : List UInt8) :
    respStatus (slot.asResponse p.reqId false false (c.queryCode :: bytes)) = NM_resp_success := by
  change c.queryCode &&& ~~~NM_opcode_mask = NM_resp_success
  cases c with
  | nvConfig => decide
  | nmeNvCnfg => decide
  | nmeNvAliasCnfg => decide
  | addr => decide

theorem cleared_stored (gp : AppData) (apdu : Apdu) :
    (stored .nvConfig gp apdu).getAttribute (entry .nvConfig gp (legacyIndex apdu))
        IZOT_DATAPOINT_ADDRESS_HIGH = 0 ∧
      (stored .nvConfig gp apdu).getAttribute (entry .nvConfig gp (legacyIndex apdu))
        IZOT_DATAPOINT_AES = 0 := by
  have hbits : ∀ b : UInt8,
      IZOT_DATAPOINT_ADDRESS_HIGH.get
          (IZOT_DATAPOINT_AES.put (IZOT_DATAPOINT_ADDRESS_HIGH.put b 0) 0) = 0 ∧
        IZOT_DATAPOINT_AES.get
          (IZOT_DATAPOINT_AES.put (IZOT_DATAPOINT_ADDRESS_HIGH.put b 0) 0) = 0 :=
    forall_byte (P := fun b =>
      IZOT_DATAPOINT_ADDRESS_HIGH.get
          (IZOT_DATAPOINT_AES.put (IZOT_DATAPOINT_ADDRESS_HIGH.put b 0) 0) = 0 ∧
        IZOT_DATAPOINT_AES.get
          (IZOT_DATAPOINT_AES.put (IZOT_DATAPOINT_ADDRESS_HIGH.put b 0) 0) = 0) (by decide +kernel)
  have hlegacy : ∀ addr, (gp.updateLegacy apdu addr (legacyEntry apdu)).mem (addr + 3) =
      IZOT_DATAPOINT_AES.put (IZOT_DATAPOINT_ADDRESS_HIGH.put (gp.mem (addr + 3)) 0) 0 :=
    fun addr => (updateLegacy_mem addr _ 3).trans (if_pos rfl)
  unfold stored entry Image.getAttribute
  by_cases hn : legacyIndex apdu < gp.nvTableSize
  case pos =>
    simp only [if_pos hn]
    rw [hlegacy]
    exact hbits _
  case neg =>
    simp only [if_neg hn]
    have hentry : (gp.updateAliasLegacy apdu (gp.nvAliasTable (legacyIndex apdu - gp.nvTableSize))
        (legacyEntry apdu)).mem (gp.nvAliasTable (legacyIndex apdu - gp.nvTableSize) + 3) =
          (gp.updateLegacy apdu (gp.nvAliasTable (legacyIndex apdu - gp.nvTableSize))
            (legacyEntry apdu)).mem (gp.nvAliasTable (legacyIndex apdu - gp.nvTableSize) + 3) :=
      Image.set_of_ne (Nat.ne_of_lt (Nat.lt_succ_self _))
    rw [hentry, hlegacy]
    exact hbits _

theorem readsBack (hbuf : 7 ≤ gp.tsaRespBufSize) (hi : c.index apdu < c.tableSize gp)
    (hsize : c.SizeAccepted gp p apdu) (hread : c.bytesRead gp apdu ≤ p.pduSize)
    (hhost : c = .nvConfig → gp.nvTableSize ≤ legacyIndex apdu →
      hostPrimary p apdu = [0xFF, 0xFF]) : c.ReadsBack gp p apdu where
  inside apdu' h := update_inside hi hsize fun k hk => h k (Nat.lt_of_lt_of_le hk hread)
  entryOnly := by
    refine ⟨((gp.setMem (c.stored gp apdu)).recomputeChecksum).mem,
      (c.update gp p apdu).tsaRespQ, ?_, ?_⟩
    · rw [update_eq hi hsize, nmndRespond_eq]
      rfl
    · intro k hk hne
      exact (Image.set_of_ne hne).trans (onlyIn_stored gp apdu k hk)
  cleared hc := by
    subst hc
    have hmem : ∀ k, k ≠ gp.configCheckSum →
        (update .nvConfig gp p apdu).mem k = stored .nvConfig gp apdu k :=
      (stored_update hi hsize (update .nvConfig gp p apdu).tsaRespQ).mem
    have hend := (entry_le hi).1
    have hfour : 4 ≤ entrySize .nvConfig gp (index .nvConfig apdu) := by
      unfold entrySize
      by_cases hn : index .nvConfig apdu < gp.nvTableSize
      case pos => simp only [if_pos hn]; exact Nat.le_refl 4
      case neg => simp only [if_neg hn]; exact Nat.le_succ 4
    have hthree := hmem (entry .nvConfig gp (index .nvConfig apdu) + 3) (by omega)
    unfold Image.getAttribute
    rw [hthree]
    exact cleared_stored gp apdu
  same q p' apdu' hroom hquery hindex := by
    have hstored := stored_update hi hsize q
    have hi' : c.index apdu' < c.tableSize ((c.update gp p apdu).withQueue q) := by
      rw [tableSize_of_stored hi hstored, hindex]
      exact hi
    refine ⟨q.tailSlot.asResponse p'.reqId false false
      (c.queryCode :: c.returned ((c.update gp p apdu).withQueue q) apdu'), ?_,
        respStatus_query (p := p') c q.tailSlot _, returned_of_stored hi hstored hindex hhost⟩
    rw [query_eq (hstored.tsaRespBufSize.symm ▸ hbuf) hi' hquery, tsaRespQ_withQueue,
      Queue.toList_push, if_pos hroom]
  others q p' apdu' hquery hi' hne := by
    have hstored := stored_update hi hsize q
    exact query_others (gp.withQueue q) hbuf hi
      ⟨hstored.eep, hstored.nvTableSize, hstored.tsaRespBufSize, hstored.mem⟩ rfl hquery hi' hne

theorem refuses_of_handled (gp : AppData) {request : Option ConfigChange} {gp' : AppData}
    (h : Handled gp p apdu request gp') (hnone : request = none) :
    ∃ sts, sts ≠ .noError ∧ gp'.tsaRespQ = (gp.nmndRespond .nm sts p apdu).tsaRespQ ∧
      gp'.configTables = gp.configTables := by
  cases h with
  | rejected sts hsts htables hq => exact ⟨sts, hsts, hq, htables⟩
  | applied change htables hq => cases hnone

theorem refuses (hi : ¬c.index apdu < c.tableSize gp)
    (halias : c = .nmeNvAliasCnfg → gp.nvTableSize + NV_ALIAS_TABLE_SIZE ≤ c.index apdu)
    (haddr : c = .addr → gp.extended ≤ c.index apdu) : c.Refuses gp apdu where
  update q p := by
    cases c with
    | nvConfig =>
      have hi' : ¬legacyIndex apdu < gp.nvTableSize + NV_ALIAS_TABLE_SIZE := hi
      have hn : ¬legacyIndex apdu < (gp.withQueue q).nvTableSize :=
        fun h => hi' (Nat.lt_of_lt_of_le h (Nat.le_add_right _ _))
      have ha : ¬legacyIndex apdu - (gp.withQueue q).nvTableSize < NV_ALIAS_TABLE_SIZE := by
        change ¬legacyIndex apdu - gp.nvTableSize < _
        omega
      refine refuses_of_handled (gp.withQueue q) handled_updateNvConfig ?_
      rw [updateNvConfigRequest, dif_neg hn, dif_neg ha]
    | nmeNvCnfg =>
      exact refuses_of_handled (gp.withQueue q) handled_nmeUpdateNvCnfg
        (dif_neg fun h => hi h.2)
    | nmeNvAliasCnfg =>
      exact refuses_of_handled (gp.withQueue q)
        (handled_nmeUpdateNvAliasCnfg fun h => Nat.not_le.mpr h.2.2 (halias rfl))
        (dif_neg fun h => hi h.2)
    | addr =>
      exact refuses_of_handled (gp.withQueue q)
        (handled_updateAddr fun h => Nat.not_le.mpr h.2.1 (haddr rfl))
        (dif_neg fun h => Nat.not_le.mpr h.2.1 (haddr rfl))
  query q p' apdu' hquery hindex := by
    cases c with
    | nvConfig =>
      right
      have hi' : ¬legacyIndex apdu' < gp.nvTableSize + NV_ALIAS_TABLE_SIZE := by
        change ¬index .nvConfig apdu' < _
        rw [hindex]
        exact hi
      have hsize : ¬(p'.pduSize ≠ 2 ∧ p'.pduSize ≠ 4) := by
        rintro ⟨h2, h4⟩
        exact hquery.elim h4 fun h => h2 h.1
      have hescape : ¬(apdu'.data 0 = 255 ∧ p'.pduSize ≠ 4) := by
        rintro ⟨h255, h4⟩
        exact hquery.elim h4 fun h => h.2 h255
      have hn : ¬legacyIndex apdu' < (gp.withQueue q).nvTableSize :=
        fun h => hi' (Nat.lt_of_lt_of_le h (Nat.le_add_right _ _))
      have ha : ¬legacyIndex apdu' < (gp.withQueue q).nvTableSize + NV_ALIAS_TABLE_SIZE := hi'
      unfold query handleNMQueryNvCnfg nvCnfgResponse
      simp only [if_neg hsize, if_neg hescape, hn, ha, false_and, and_false,
        false_or, if_false]
    | nmeNvCnfg =>
      left
      have hsize : ¬p'.pduSize ≠ 4 := not_not.mpr hquery
      have hn : ¬expandedIndex apdu' < (gp.withQueue q).nvTableSize := by
        change ¬index .nmeNvCnfg apdu' < gp.nvTableSize
        rw [hindex]
        exact hi
      refine ⟨.invalidDatapointIndex, by decide, ?_⟩
      unfold query handleNmeQueryNvCnfg
      simp only [if_neg hsize, hn, false_and, if_false]
    | nmeNvAliasCnfg =>
      left
      have hsize : ¬p'.pduSize ≠ 4 := not_not.mpr hquery
      have hn : ¬expandedIndex apdu' < (gp.withQueue q).nvTableSize + NV_ALIAS_TABLE_SIZE := by
        change ¬index .nmeNvAliasCnfg apdu' < gp.nvTableSize + NV_ALIAS_TABLE_SIZE
        rw [hindex]
        exact Nat.not_lt.mpr (halias rfl)
      refine ⟨.invalidDatapointIndex, by decide, ?_⟩
      unfold query handleNmeQueryNvAliasCnfg
      simp only [if_neg hsize, hn, false_and, and_false, if_false]
    | addr =>
      left
      have hsize : ¬p'.pduSize < 2 := Nat.not_lt.mpr hquery
      have hn : (gp.withQueue q).extended ≤ (apdu'.data 0).toNat := by
        change gp.extended ≤ index .addr apdu'
        rw [hindex]
        exact haddr rfl
      refine ⟨.invalidAddrTableIndex, by decide, ?_⟩
      unfold query handleNMQueryAddr
      rw [if_neg hsize, if_pos hn]

end

end EntryPair

end LonStack
