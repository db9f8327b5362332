import LonStack.NetMgmt.ReadBackLaws

namespace LonStack

open Lib

namespace EntryPair

open AppData

variable {c : EntryPair} {gp : AppData} {p : APPReceiveParam} {apdu : Apdu}

def emptyQueue : Queue TSASendParam := .init (fun _ => default) 2

theorem hostPrimary_of_readsBack (hbuf : 7 ≤ gp.tsaRespBufSize)
    (hi : index .nvConfig apdu < tableSize .nvConfig gp)
    (hsize : SizeAccepted .nvConfig gp p apdu) (h : ReadsBack .nvConfig gp p apdu)
    (hn : gp.nvTableSize ≤ legacyIndex apdu) : hostPrimary p apdu = [0xFF, 0xFF] := by
  let p' : APPReceiveParam := { (default : APPReceiveParam) with pduSize := 4 }
  have hstored := stored_update (c := .nvConfig) hi hsize emptyQueue
  have hquery : IsQuery .nvConfig p' apdu := .inl rfl
  have hi' : index .nvConfig apdu <
      tableSize .nvConfig ((update .nvConfig gp p apdu).withQueue emptyQueue) :=
    (tableSize_of_stored hi hstored).symm ▸ hi
  obtain ⟨r, hr, -, htail⟩ := h.same emptyQueue p' apdu (by decide) hquery rfl
  rw [query_eq (hstored.tsaRespBufSize.symm ▸ hbuf) hi' hquery, tsaRespQ_withQueue,
    Queue.toList_push, if_pos (by decide)] at hr
  have hsame := (List.cons.inj (List.append_cancel_left hr)).1
  have hlt : ¬legacyIndex apdu < gp.nvTableSize := Nat.not_lt.mpr hn
  have hlt' : ¬legacyIndex apdu <
      ((update .nvConfig gp p apdu).withQueue emptyQueue).nvTableSize :=
    hstored.nvTableSize.symm ▸ hlt
  rw [← hsame] at htail
  change returned .nvConfig _ apdu = _ at htail
  unfold returned answer at htail
  simp only [if_neg hlt, if_neg hlt'] at htail
  rw [← List.singleton_append, ← List.append_assoc] at htail
  refine ((List.append_inj htail ?_).2).symm
  rw [List.length_append, Image.length_slice, Image.length_slice]
  rfl

theorem not_inside {k : Nat} (hi : c.index apdu < c.tableSize gp)
    (hsize : c.SizeAccepted gp p apdu) (hk : p.pduSize ≤ k) (x : UInt8)
    (hindex : c.index (Image.set apdu k x) = c.index apdu)
    (haccepted : c.SizeAccepted gp p (Image.set apdu k x))
    (hne : ∃ a < gp.configCheckSum,
      c.stored gp (Image.set apdu k x) a ≠ c.stored gp apdu a) : ¬c.ReadsBack gp p apdu := by
  intro h
  have hsame := h.inside (Image.set apdu k x) fun j hj => Image.set_of_ne (by omega)
  obtain ⟨a, ha, hne⟩ := hne
  have hold := (stored_update hi hsize emptyQueue).mem a (Nat.ne_of_lt ha)
  have hnew := (stored_update (hindex.symm ▸ hi) haccepted emptyQueue).mem a (Nat.ne_of_lt ha)
  rw [hsame, hold] at hnew
  exact hne hnew.symm

theorem add_one_ne (b : UInt8) : b + 1 ≠ b :=
  forall_byte (P := fun b => b + 1 ≠ b) (by decide +kernel) b

theorem eight_le_of_readsBack (hi : index .nmeNvCnfg apdu < tableSize .nmeNvCnfg gp)
    (hsize : SizeAccepted .nmeNvCnfg gp p apdu) (h : ReadsBack .nmeNvCnfg gp p apdu) :
    8 ≤ p.pduSize := by
  refine Nat.le_of_not_lt fun hlt => ?_
  have hindex : expandedIndex (Image.set apdu 7 (apdu 7 + 1)) = expandedIndex apdu :=
    expandedIndex_congr fun k hk => Image.set_of_ne (by omega)
  refine not_inside (k := 7) hi hsize (by omega) (apdu 7 + 1) hindex hsize
    ⟨gp.nvConfigTable (expandedIndex apdu) + 3, ?_, ?_⟩ h
  · have hend : gp.nvConfigTable (expandedIndex apdu) + 4 ≤ gp.configCheckSum := (entry_le hi).1
    omega
  · unfold stored
    simp only [hindex]
    rw [Image.copy_add (by decide), Image.copy_add (by decide)]
    exact fun heq => add_one_ne (apdu 7) ((Image.set_self _).symm.trans heq)

theorem seven_le_of_readsBack (hi : index .addr apdu < tableSize .addr gp)
    (hsize : SizeAccepted .addr gp p apdu) (h : ReadsBack .addr gp p apdu) :
    7 ≤ p.pduSize := by
  refine Nat.le_of_not_lt fun hlt => ?_
  have h0 : Apdu.data (Image.set apdu 6 (apdu 6 + 1)) 0 = apdu.data 0 := Image.set_of_ne (by decide)
  have h1 : Apdu.data (Image.set apdu 6 (apdu 6 + 1)) 1 = apdu.data 1 := Image.set_of_ne (by decide)
  have hindex : index .addr (Image.set apdu 6 (apdu 6 + 1)) = index .addr apdu :=
    congrArg UInt8.toNat h0
  refine not_inside (k := 6) hi hsize (by omega) (apdu 6 + 1) hindex ?_
    ⟨gp.addrTable (apdu.data 0).toNat + 4, ?_, ?_⟩ h
  · unfold SizeAccepted
    simp only [h1]
    exact hsize
  · have hend : gp.addrTable (apdu.data 0).toNat + 5 ≤ gp.configCheckSum := (entry_le hi).1
    omega
  · unfold stored
    simp only [h0]
    rw [Image.copy_add (by decide), Image.copy_add (by decide)]
    exact fun heq => add_one_ne (apdu 6) ((Image.set_self _).symm.trans heq)

theorem nmndRespond_noError_ne (gp : AppData) {sts : LonStatusCode} (hservice : p.service = .request)
    (hroom : gp.Room apdu) (hsts : sts ≠ .noError) :
    (gp.nmndRespond .nm .noError p apdu).tsaRespQ ≠ (gp.nmndRespond .nm sts p apdu).tsaRespQ := by
  intro h
  obtain ⟨r, hr, hcode⟩ := toList_nmndRespond_of_room .noError hservice hroom
  obtain ⟨r', hr', hcode'⟩ := toList_nmndRespond_of_room sts hservice hroom
  rw [h, hr'] at hr
  have hsame := (List.cons.inj (List.append_cancel_left hr)).1
  have hstatus := respStatus_nmndRespond hcode
  have hstatus' := respStatus_nmndRespond hcode'
  rw [if_pos rfl] at hstatus
  rw [if_neg hsts, hsame, hstatus] at hstatus'
  exact absurd hstatus' (by decide)

theorem not_refuses {p : APPReceiveParam} {m : Image} (hbuf : 7 ≤ gp.tsaRespBufSize)
    (hservice : p.service = .request)
    (h : c.update (gp.withQueue emptyQueue) p apdu =
      ((gp.withQueue emptyQueue).setMem m).recomputeChecksum.nmndRespond .nm .noError p apdu) :
    ¬c.Refuses gp apdu := by
  intro hrefuses
  obtain ⟨sts, hsts, hq, -⟩ := hrefuses.update emptyQueue p
  have hroom : (gp.withQueue emptyQueue).Room apdu := by
    refine ⟨?_, Nat.le_refl 2⟩
    have hlen : (nmndData .nm apdu).length ≤ 1 := by
      unfold nmndData
      split
      case isTrue => exact Nat.le_refl 1
      case isFalse => exact Nat.zero_le 1
    exact Nat.le_trans (Nat.succ_le_succ hlen) (Nat.le_trans (by decide) hbuf)
  refine nmndRespond_noError_ne _ hservice hroom hsts ?_
  rw [← hq, h]
  refine Eq.symm ?_
  exact tsaRespQ_nmndRespond rfl rfl

theorem behind_of_refuses_alias (hbuf : 7 ≤ gp.tsaRespBufSize)
    (h : Refuses .nmeNvAliasCnfg gp apdu) (hi : NV_ALIAS_TABLE_SIZE ≤ expandedIndex apdu) :
    gp.nvTableSize + NV_ALIAS_TABLE_SIZE ≤ expandedIndex apdu := by
  refine Nat.le_of_not_lt fun hlt => ?_
  let p : APPReceiveParam := { (default : APPReceiveParam) with service := .request, pduSize := 10 }
  have hmissed : (gp.withQueue emptyQueue).AliasMissed p apdu := ⟨Nat.le_refl 10, hi, hlt⟩
  exact not_refuses (c := .nmeNvAliasCnfg) (p := p) hbuf rfl
    (ConfigCommand.aliasCnfg_of_missed hmissed) h

theorem behind_of_refuses_addr (hbuf : 7 ≤ gp.tsaRespBufSize) (h : Refuses .addr gp apdu)
    (hi : NUM_ADDR_TBL_ENTRIES ≤ (apdu.data 0).toNat) : gp.extended ≤ (apdu.data 0).toNat := by
  refine Nat.le_of_not_lt fun hlt => ?_
  let p : APPReceiveParam := { (default : APPReceiveParam) with service := .request, pduSize := 7 }
  have hsize : (if apdu.data 1 = 0 then 6 else 7) ≤ p.pduSize := by
    change (if apdu.data 1 = 0 then 6 else 7) ≤ 7
    split <;> decide
  have hmissed : (gp.withQueue emptyQueue).UpdateAddrMissed p apdu := ⟨hsize, hlt, hi⟩
  exact not_refuses (c := .addr) (p := p) hbuf rfl
    (ConfigCommand.updateAddr_of_missed hmissed) h

theorem bytesRead_le (hi : c.index apdu < c.tableSize gp) (hsize : c.SizeAccepted gp p apdu)
    (hsound : c.Sound gp p apdu) : c.bytesRead gp apdu ≤ p.pduSize := by
  cases c with
  | nvConfig =>
    unfold SizeAccepted at hsize
    unfold bytesRead
    by_cases hn : legacyIndex apdu < gp.nvTableSize
    case pos =>
      simp only [if_pos hn] at hsize ⊢
      exact hsize
    case neg =>
      simp only [if_neg hn] at hsize ⊢
      refine Nat.le_trans ?_ hsize
      unfold legacyAliasSize
      split
      case isTrue => omega
      case isFalse => omega
  | nmeNvCnfg => exact hsound hi hsize
  | nmeNvAliasCnfg => exact Nat.le_trans (Nat.le_succ 9) hsize
  | addr => exact hsound.1 hi hsize

def oneVariable : AppData :=
  { ConfigCommand.zeroNode with
    nvTableSize := 1
    nvTableSize_le := by decide }

def shortUpdate : APPReceiveParam := { (default : APPReceiveParam) with
  service := .request
  pduSize := 6 }

end EntryPair

end LonStack
