import LonStack.NetMgmt.EntryLaws

namespace LonStack

open Lib

def respStatus (r : TSASendParam) : UInt8 := r.apdu.headD 0 &&& ~~~NM_opcode_mask

namespace ConfigCommand

variable (c : ConfigCommand) (gp : AppData) (p : APPReceiveParam) (apdu : Apdu)

def Applied : Prop :=
  ∃ change, c.request gp p apdu = some change ∧
    (c.handle gp p apdu).configTables = change.apply gp.twoDomains gp.nvTableSize gp.configTables

/-- A response reports success if and only if the change has been made, and failure only when
nothing has changed. -/
def Truthful : Prop :=
  ∀ r, (c.handle gp p apdu).tsaRespQ.toList = gp.tsaRespQ.toList ++ [r] →
    (respStatus r = NM_resp_success ↔ c.Applied gp p apdu) ∧
      (respStatus r = NM_resp_failure → (c.handle gp p apdu).configTables = gp.configTables)

end ConfigCommand

namespace AppData

variable {gp gp' : AppData} {p : APPReceiveParam} {apdu : Apdu} {sts : LonStatusCode}

def Room (gp : AppData) (apdu : Apdu) : Prop :=
  (nmndData .nm apdu).length + 1 ≤ gp.tsaRespBufSize ∧
    gp.tsaRespQ.queueEntries + 1 < gp.tsaRespQ.queueCapacity

theorem toList_nmndRespond_of_room (sts : LonStatusCode) (hservice : p.service = .request) (h : gp.Room apdu) :
    ∃ r, (gp.nmndRespond .nm sts p apdu).tsaRespQ.toList = gp.tsaRespQ.toList ++ [r] ∧
      r.apdu = (nmndCode .nm sts ||| apdu.nmCode) :: nmndData .nm apdu := by
  refine ⟨gp.tsaRespQ.tailSlot.asResponse p.reqId false false
    ((nmndCode .nm sts ||| apdu.nmCode) :: nmndData .nm apdu), ?_, rfl⟩
  rw [nmndRespond_eq, if_pos ⟨hservice, h.1⟩, Queue.toList_push, if_pos h.2]
  rfl

theorem toList_nmndRespond_of_not_room (h : ¬gp.Room apdu) :
    (gp.nmndRespond .nm sts p apdu).tsaRespQ.toList = gp.tsaRespQ.toList := by
  rw [nmndRespond_eq]
  by_cases hfit : p.service = .request ∧ (nmndData .nm apdu).length + 1 ≤ gp.tsaRespBufSize
  case pos =>
    rw [if_pos hfit, Queue.toList_push, if_neg fun hroom => h ⟨hfit.2, hroom⟩]
  case neg => rw [if_neg hfit]

/-- The code of a response is the wrong way round. -/
theorem respStatus_nmndRespond {r : TSASendParam}
    (h : r.apdu = (nmndCode .nm sts ||| apdu.nmCode) :: nmndData .nm apdu) :
    respStatus r = if sts = .noError then NM_resp_failure else NM_resp_success := by
  have hsuccess : ∀ b : UInt8, (NM_resp_success ||| (b &&& NM_opcode_mask)) &&& ~~~NM_opcode_mask =
      NM_resp_success :=
    forall_byte (P := fun b => (NM_resp_success ||| (b &&& NM_opcode_mask)) &&& ~~~NM_opcode_mask =
      NM_resp_success) (by decide +kernel)
  have hfailure : ∀ b : UInt8, (NM_resp_failure ||| (b &&& NM_opcode_mask)) &&& ~~~NM_opcode_mask =
      NM_resp_failure :=
    forall_byte (P := fun b => (NM_resp_failure ||| (b &&& NM_opcode_mask)) &&& ~~~NM_opcode_mask =
      NM_resp_failure) (by decide +kernel)
  rw [respStatus, h, List.headD_cons, nmndCode, Apdu.nmCode]
  by_cases hsts : sts = .noError
  case pos => rw [if_neg (not_not.mpr hsts), if_pos hsts, hfailure]
  case neg => rw [if_pos hsts, if_neg hsts, hsuccess]

end AppData

theorem Handled.tsaRespQ_eq {gp gp' : AppData} {p : APPReceiveParam} {apdu : Apdu}
    {request : Option ConfigChange} (h : Handled gp p apdu request gp') :
    ∃ sts, gp'.tsaRespQ = (gp.nmndRespond .nm sts p apdu).tsaRespQ := by
  cases h with
  | rejected sts _ _ hq => exact ⟨sts, hq⟩
  | applied change _ hq => exact ⟨.noError, hq⟩

namespace ConfigCommand

open AppData (expandedIndex)

variable {c : ConfigCommand} {gp : AppData} {p : APPReceiveParam} {apdu : Apdu}

theorem handled (hsilent : ¬c.Silent gp p apdu) (hmissed : ¬c.Missed gp p apdu) :
    Handled gp p apdu (c.request gp p apdu) (c.handle gp p apdu) := by
  cases c with
  | updateDomain => exact AppData.handled_updateDomain
  | leaveDomain => exact AppData.handled_leaveDomain hsilent
  | updateKey => exact AppData.handled_updateKey
  | updateAddr => exact AppData.handled_updateAddr hmissed
  | updateGroupAddr => exact AppData.handled_updateGroupAddr hsilent
  | updateNvConfig => exact AppData.handled_updateNvConfig
  | nmeUpdateDomain => exact AppData.handled_nmeUpdateDomain
  | nmeUpdateKey => exact AppData.handled_nmeUpdateKey
  | nmeInitConfig => exact AppData.handled_nmeInitConfig
  | nmeUpdateNvCnfg => exact AppData.handled_nmeUpdateNvCnfg
  | nmeUpdateNvAliasCnfg => exact AppData.handled_nmeUpdateNvAliasCnfg hmissed

theorem tsaRespQ_of_silent (h : c.Silent gp p apdu) :
    (c.handle gp p apdu).tsaRespQ = gp.tsaRespQ := by
  cases c with
  | leaveDomain => exact AppData.tsaRespQ_leaveDomain_of_silent h
  | updateGroupAddr => exact AppData.tsaRespQ_updateGroupAddr_of_lost h
  | _ => exact absurd h not_false

def Harmless (c : ConfigCommand) (gp : AppData) (p : APPReceiveParam) (apdu : Apdu) : Prop :=
  match c with
  | .updateAddr =>
    gp.UpdateAddrMissed p apdu ∧
      ∀ k < 5, apdu (2 + k) = gp.mem (gp.addrTable (apdu.data 0).toNat + k)
  | .nmeUpdateNvAliasCnfg => gp.AliasMissed p apdu
  | _ => False

theorem updateAddr_of_missed (h : gp.UpdateAddrMissed p apdu) :
    gp.handleNMUpdateAddr p apdu =
      (gp.setMem (gp.mem.copy (gp.addrTable (apdu.data 0).toNat) apdu 2
        5)).recomputeChecksum.nmndRespond .nm .noError p apdu := by
  obtain ⟨hsize, hlt, -⟩ := h
  rw [AppData.handleNMUpdateAddr, if_pos hsize, AppData.updateAddress_of_lt hlt]

theorem configTables_missed (hindex : (apdu.data 0).toNat = NUM_ADDR_TBL_ENTRIES) :
    (gp.setMem (gp.mem.copy (gp.addrTable (apdu.data 0).toNat) apdu 2 5)).configTables =
        gp.configTables ↔
      ∀ k < 5, apdu (2 + k) = gp.mem (gp.addrTable (apdu.data 0).toNat + k) := by
  generalize ha : gp.addrTable (apdu.data 0).toNat = a
  have hnv : gp.nvConfigTable 0 = a := by
    rw [← ha, hindex, AppData.nvConfigTable_eq, AppData.addrTable_eq]
    change gp.eep + 1372 + 0 = gp.eep + 102 + 1270
    omega
  have hnv' : gp.nvConfigTable 1 = a + 4 := by
    rw [← hnv, AppData.nvConfigTable_eq, AppData.nvConfigTable_eq]
  constructor
  · intro h
    have hentry : ∀ i < NV_TABLE_SIZE,
        IzotDatapointConfig.ofImage (gp.mem.copy a apdu 2 5) (gp.nvConfigTable i) =
          IzotDatapointConfig.ofImage gp.mem (gp.nvConfigTable i) :=
      fun i hi => congrFun (congrArg ConfigTables.nvConfigTable h) ⟨i, hi⟩
    have hfirst := hentry 0 (by decide)
    have hsecond := hentry 1 (by decide)
    rw [hnv] at hfirst
    rw [hnv'] at hsecond
    simp only [IzotDatapointConfig.ofImage, IzotDatapointConfig.mk.injEq] at hfirst hsecond
    intro k hk
    rw [← (Image.copy_add hk : gp.mem.copy a apdu 2 5 (a + k) = apdu (2 + k))]
    obtain rfl | rfl | rfl | rfl | rfl : k = 0 ∨ k = 1 ∨ k = 2 ∨ k = 3 ∨ k = 4 := by omega
    · exact hfirst.1
    · exact hfirst.2.1
    · exact hfirst.2.2.1
    · exact hfirst.2.2.2
    · exact hsecond.1
  · intro h
    have hsame : gp.mem.copy a apdu 2 5 = gp.mem := by
      funext k
      by_cases hk : a ≤ k ∧ k < a + 5
      case pos =>
        rw [Image.copy_of_mem hk.1 hk.2, Nat.add_comm, h _ (by omega), Nat.add_sub_cancel' hk.1]
      case neg => exact Image.copy_of_not_mem (by omega)
    rw [hsame]
    rfl

theorem aliasCnfg_of_missed (h : gp.AliasMissed p apdu) :
    gp.handleNmeUpdateNvAliasCnfg p apdu =
      (gp.setMem (gp.mem.copy (gp.nvAliasTable (expandedIndex apdu)) apdu 4
        5)).recomputeChecksum.nmndRespond .nm .noError p apdu := by
  obtain ⟨hsize, -, hlt⟩ := h
  have hfit : sizeofIzotAliasConfig + 4 ≤ p.pduSize := Nat.le_trans (by decide) hsize
  rw [AppData.handleNmeUpdateNvAliasCnfg, if_neg (Nat.not_lt.mpr hsize), if_pos hlt, if_pos hfit]

theorem missed (h : c.Missed gp p apdu) :
    c.request gp p apdu = none ∧
      (c.handle gp p apdu).tsaRespQ = (gp.nmndRespond .nm .noError p apdu).tsaRespQ ∧
        ((c.handle gp p apdu).configTables = gp.configTables ↔ c.Harmless gp p apdu) := by
  cases c with
  | updateAddr =>
    obtain ⟨hsize, hlt, hge⟩ := h
    have hindex : (apdu.data 0).toNat = NUM_ADDR_TBL_ENTRIES := by
      have hle : 254 ≤ (apdu.data 0).toNat := hge
      have hmax : gp.extended < 256 := UInt8.toNat_lt _
      change _ = 254
      omega
    refine ⟨dif_neg fun h => Nat.not_le.mpr h.2.2 hge, ?_, ?_⟩
    · rw [handle, updateAddr_of_missed ⟨hsize, hlt, hge⟩]
      exact AppData.tsaRespQ_nmndRespond rfl rfl
    · rw [handle, updateAddr_of_missed ⟨hsize, hlt, hge⟩, AppData.configTables_nmndRespond,
        AppData.configTables_recomputeChecksum, configTables_missed hindex]
      exact ⟨fun h => ⟨⟨hsize, hlt, hge⟩, h⟩, fun h => h.2⟩
  | nmeUpdateNvAliasCnfg =>
    refine ⟨dif_neg fun h' => Nat.not_le.mpr h'.2 h.2.1, ?_, ?_⟩
    · rw [handle, aliasCnfg_of_missed h]
      exact AppData.tsaRespQ_nmndRespond rfl rfl
    · rw [handle, aliasCnfg_of_missed h, AppData.configTables_nmndRespond,
        AppData.configTables_recomputeChecksum]
      refine iff_of_true ?_ h
      have hge : 254 ≤ expandedIndex apdu := h.2.1
      exact (gp.differs_mem (.copy gp.mem apdu _ 4 5)).configTables_behind
        (by rw [AppData.configCheckSum_eq, AppData.nvAliasTable_eq]; omega)
  | _ => exact absurd h not_false

theorem missed_of_harmless (h : c.Harmless gp p apdu) : c.Missed gp p apdu := by
  cases c with
  | updateAddr => exact h.1
  | nmeUpdateNvAliasCnfg => exact h
  | _ => exact h

theorem response_unique {r r' : TSASendParam} {sts : LonStatusCode}
    (hq : (c.handle gp p apdu).tsaRespQ = (gp.nmndRespond .nm sts p apdu).tsaRespQ)
    (hr : (gp.nmndRespond .nm sts p apdu).tsaRespQ.toList = gp.tsaRespQ.toList ++ [r])
    (hr' : (c.handle gp p apdu).tsaRespQ.toList = gp.tsaRespQ.toList ++ [r']) : r' = r := by
  rw [hq, hr] at hr'
  exact (List.cons.inj (List.append_cancel_left hr')).1.symm

theorem truthful_of_not_room {sts : LonStatusCode} (h : ¬gp.Room apdu)
    (hq : (c.handle gp p apdu).tsaRespQ = (gp.nmndRespond .nm sts p apdu).tsaRespQ) :
    c.Truthful gp p apdu := by
  intro r hr
  rw [hq, AppData.toList_nmndRespond_of_not_room h] at hr
  exact absurd (List.self_eq_append_right.mp hr) (List.cons_ne_nil r [])

theorem not_truthful_of_handled (hservice : p.service = .request) (hroom : gp.Room apdu)
    (h : Handled gp p apdu (c.request gp p apdu) (c.handle gp p apdu)) :
    ¬c.Truthful gp p apdu := by
  intro htruthful
  generalize hreq : c.request gp p apdu = request at h
  generalize hhandle : c.handle gp p apdu = gp' at h
  cases h with
  | rejected sts hsts htables hq =>
    obtain ⟨r, hr, hcode⟩ := AppData.toList_nmndRespond_of_room sts hservice hroom
    have hstatus := AppData.respStatus_nmndRespond hcode
    rw [if_neg hsts] at hstatus
    obtain ⟨change, hchange, -⟩ :=
      (htruthful r (by rw [hhandle, hq, hr])).1.mp hstatus
    rw [hreq] at hchange
    cases hchange
  | applied change htables hq =>
    obtain ⟨r, hr, hcode⟩ := AppData.toList_nmndRespond_of_room .noError hservice hroom
    have hstatus := AppData.respStatus_nmndRespond hcode
    rw [if_pos rfl] at hstatus
    have hsuccess := (htruthful r (by rw [hhandle, hq, hr])).1.mpr
      ⟨change, hreq, by rw [hhandle, htables]⟩
    rw [hstatus] at hsuccess
    exact absurd hsuccess (by decide)

theorem truthful_iff_of_missed (hservice : p.service = .request) (hroom : gp.Room apdu)
    (h : c.Missed gp p apdu) : c.Truthful gp p apdu ↔ c.Harmless gp p apdu := by
  obtain ⟨hreq, hq, htables⟩ := missed h
  obtain ⟨r, hr, hcode⟩ := AppData.toList_nmndRespond_of_room .noError hservice hroom
  have hstatus := AppData.respStatus_nmndRespond hcode
  rw [if_pos rfl] at hstatus
  constructor
  · intro htruthful
    exact htables.mp ((htruthful r (by rw [hq, hr])).2 hstatus)
  · intro hharmless r' hr'
    rw [response_unique hq hr hr', hstatus]
    refine ⟨iff_of_false (by decide) ?_, fun _ => htables.mpr hharmless⟩
    rintro ⟨change, hchange, -⟩
    rw [hreq] at hchange
    cases hchange

theorem truthful_iff (hservice : p.service = .request) :
    c.Truthful gp p apdu ↔
      ¬gp.Room apdu ∨ c.Silent gp p apdu ∨ c.Harmless gp p apdu := by
  by_cases hsilent : c.Silent gp p apdu
  case pos =>
    refine iff_of_true (fun r hr => ?_) (.inr (.inl hsilent))
    rw [tsaRespQ_of_silent hsilent] at hr
    exact absurd (List.self_eq_append_right.mp hr) (List.cons_ne_nil r [])
  case neg =>
    by_cases hmissed : c.Missed gp p apdu
    case pos =>
      by_cases hroom : gp.Room apdu
      case pos =>
        rw [truthful_iff_of_missed hservice hroom hmissed]
        simp only [hroom, hsilent, not_true_eq_false, false_or]
      case neg => exact iff_of_true (truthful_of_not_room hroom (missed hmissed).2.1) (.inl hroom)
    case neg =>
      have hhandled := handled hsilent hmissed
      by_cases hroom : gp.Room apdu
      case pos =>
        refine iff_of_false (not_truthful_of_handled hservice hroom hhandled) ?_
        rintro (h | h | h)
        · exact h hroom
        · exact hsilent h
        · exact hmissed (missed_of_harmless h)
      case neg =>
        refine iff_of_true ?_ (.inl hroom)
        obtain ⟨sts, hq⟩ := hhandled.tsaRespQ_eq
        exact truthful_of_not_room hroom hq

def zeroNode : AppData where
  mem k := if k = IzotReadOnlyData.readOnly_2 then 0x44
    else if k = IzotReadOnlyData.extended then 15 else 0
  eep := 0
  nmp := 4096
  nvTableSize := 0
  nvTableSize_le := Nat.zero_le _
  nvFixedTable _ := default
  resetCause := 0
  appPgmMode := .onLine
  selectQueryFlag := false
  resetNode := false
  switchoverFailure := false
  tsaRespBufSize := 255
  tsaRespQ := .init (fun _ => default) 3
  crashed := false

def leaveRequest : APPReceiveParam := { (default : APPReceiveParam) with
  service := .request
  pduSize := 2 }

theorem truthful_leaveRequest : ConfigCommand.leaveDomain.Truthful zeroNode leaveRequest fun _ => 0 :=
  (truthful_iff rfl).mpr (.inr (.inl ⟨rfl, by decide, rfl⟩))

def addressRequest : APPReceiveParam := { (default : APPReceiveParam) with
  service := .request
  pduSize := 7 }

theorem not_truthful_addressRequest :
    ¬ConfigCommand.updateAddr.Truthful zeroNode addressRequest
      (Image.write (fun _ => 0) 0 [0x66, 1, 1, 5, 0x33, 0x47, 1]) := by
  have hmissed : ¬ConfigCommand.updateAddr.Missed zeroNode addressRequest
      (Image.write (fun _ => 0) 0 [0x66, 1, 1, 5, 0x33, 0x47, 1]) := fun h => absurd h.2.2 (by decide)
  exact not_truthful_of_handled rfl ⟨by decide, by decide⟩ (handled not_false hmissed)

end ConfigCommand

end LonStack
