import LonStack.App.Outputs
import LonStack.NetMgmt.EntryLaws

namespace LonStack

open Lib

abbrev LEGACY_NO_ADDRESS : UInt8 := 0xF

def legacyAddrIndex (apdu : Apdu) : UInt8 :=
  IZOT_DATAPOINT_ADDRESS_LOW.get (apdu (AppData.legacyEntry apdu + 2))

namespace AppStackData

section

variable (gp : AppStackData)

def updateNvConfig (p : APPReceiveParam) (apdu : Apdu) : AppStackData :=
  { gp with toAppData := gp.toAppData.handleNMUpdateNvConfig p apdu }

structure SameTables (s : AppStackData) : Prop where
  configTables : s.configTables = gp.configTables
  nvTableSize : s.nvTableSize = gp.nvTableSize

/-- Variable or alias `n` has no address: it counts for nothing in the test whether a variable is
bound, and nothing is sent for it with these tables. -/
structure HasNoAddress (n : Nat) : Prop where
  bound : gp.bound (gp.entryOf n) = false
  sendVar : ∀ s : AppStackData, gp.SameTables s → ∀ e, s.nvOutIndexQ.peek = some e → e.index = n →
    s.sendVar.tsaOutQ = s.tsaOutQ ∧ s.sendVar.nwOutQ = s.nwOutQ
  pollVar : ∀ s : AppStackData, gp.SameTables s → s.nvInIndexQ.peek = some (n : Int) →
    s.pollVar.tsaOutQ = s.tsaOutQ ∧ s.pollVar.nwOutQ = s.nwOutQ

end

variable {gp : AppStackData} {p : APPReceiveParam} {apdu : Apdu} {n : Nat}

theorem connect_queues (source target reported : Int) :
    (gp.connect source target reported).tsaOutQ = gp.tsaOutQ ∧
      (gp.connect source target reported).nwOutQ = gp.nwOutQ := by
  obtain ⟨a, ev, heq⟩ := gp.connect_eq source target reported
  rw [heq]
  exact ⟨rfl, rfl⟩

theorem sendVarOf_queues {c : IzotDatapointConfig} (hc : gp.assigned c = false) (e : NvOutEntry) :
    (gp.sendVarOf e c).tsaOutQ = gp.tsaOutQ ∧ (gp.sendVarOf e c).nwOutQ = gp.nwOutQ := by
  obtain ⟨a, ev, hturn⟩ := @turnAround_eq gp c (gp.getPrimaryIndex e.index)
  unfold sendVarOf
  dsimp only
  rw [hc, Bool.not_false, Bool.not_true, Bool.false_and, if_neg Bool.false_ne_true, if_pos rfl, hturn]
  exact ⟨rfl, rfl⟩

theorem sendVar_queues {e : NvOutEntry} {c : IzotDatapointConfig}
    (hpeek : gp.nvOutIndexQ.peek = some e) (hindex : e.index ≠ -1)
    (hptr : gp.getNVStructPtr e.index = some c) (hc : gp.assigned c = false) :
    gp.sendVar.tsaOutQ = gp.tsaOutQ ∧ gp.sendVar.nwOutQ = gp.nwOutQ := by
  unfold sendVar
  split
  case isTrue => exact ⟨rfl, rfl⟩
  case isFalse =>
    rw [hpeek]
    dsimp only
    unfold sendEntry
    split
    case isTrue => exact ⟨rfl, rfl⟩
    case isFalse =>
      rw [hptr]
      exact sendVarOf_queues hc e

theorem pollVarOf_queues {c : IzotDatapointConfig} (hc : gp.assigned c = false) (nvIndex : Int) :
    (gp.pollVarOf nvIndex c).tsaOutQ = gp.tsaOutQ ∧ (gp.pollVarOf nvIndex c).nwOutQ = gp.nwOutQ := by
  have hturn : ((gp.turnAroundPoll c (gp.getPrimaryIndex nvIndex)).getD gp).tsaOutQ = gp.tsaOutQ ∧
      ((gp.turnAroundPoll c (gp.getPrimaryIndex nvIndex)).getD gp).nwOutQ = gp.nwOutQ := by
    unfold turnAroundPoll
    split
    case isTrue =>
      cases gp.firstMatch c.selector IzotDatapointDirectionIsOutput with
      | none => exact ⟨rfl, rfl⟩
      | some i => exact connect_queues _ _ _
    case isFalse => exact ⟨rfl, rfl⟩
  unfold pollVarOf
  dsimp only
  rw [hc, Bool.not_false, Bool.not_true, Bool.false_and, if_neg Bool.false_ne_true, if_pos rfl]
  exact hturn

theorem pollVar_queues {nvIndex : Int} {c : IzotDatapointConfig}
    (hpeek : gp.nvInIndexQ.peek = some nvIndex) (hindex : nvIndex ≠ -1)
    (hptr : gp.getNVStructPtr nvIndex = some c) (hc : gp.assigned c = false) :
    gp.pollVar.tsaOutQ = gp.tsaOutQ ∧ gp.pollVar.nwOutQ = gp.nwOutQ := by
  unfold pollVar
  split
  case isTrue => exact ⟨rfl, rfl⟩
  case isFalse =>
    rw [hpeek]
    dsimp only
    split
    case isTrue => exact ⟨rfl, rfl⟩
    case isFalse =>
      rw [hptr]
      exact pollVarOf_queues hc nvIndex

theorem assigned_of_bound {c : IzotDatapointConfig} (h : gp.bound c = false) : gp.assigned c = false := by
  unfold bound at h
  unfold assigned
  rw [Bool.and_eq_false_iff] at h ⊢
  exact h.imp_right fun h => (Bool.or_eq_false_iff.mp h).1

theorem bound_eq_false_iff {c : IzotDatapointConfig} (hc : c.addrIndex = 15) :
    gp.bound c = false ↔
      (gp.configTables.addrTable 15).typeSize = IzotAddressUnassigned ∧
        (gp.configTables.addrTable 15).domainMember ≠ 1 := by
  have htype : gp.mem (gp.addrTable 15) = (gp.configTables.addrTable 15).typeSize := rfl
  have hmember : gp.mem (gp.addrTable 15 + 1) = (gp.configTables.addrTable 15).domainMember := rfl
  have hindex : (15 != NO_ADDRESS) = true := by decide
  unfold bound
  rw [hc, hindex, Bool.true_and, Bool.or_eq_false_iff, bne_eq_false_iff_eq, beq_eq_false_iff_ne, htype,
    hmember]

theorem addrIndex_setLegacy (old c : IzotDatapointConfig)
    (hlow : IZOT_DATAPOINT_ADDRESS_LOW.get c.attribute1 = LEGACY_NO_ADDRESS) :
    (old.setLegacy c).addrIndex = 15 := by
  have hbytes : ∀ k < 256, IZOT_DATAPOINT_ADDRESS_HIGH.get
      (IZOT_DATAPOINT_AES.put (IZOT_DATAPOINT_ADDRESS_HIGH.put (UInt8.ofNat k) 0) 0) = 0 := by
    decide +kernel
  have hhigh : ∀ b : UInt8, IZOT_DATAPOINT_ADDRESS_HIGH.get
      (IZOT_DATAPOINT_AES.put (IZOT_DATAPOINT_ADDRESS_HIGH.put b 0) 0) = 0 := fun b => by
    have hb := hbytes b.toNat b.toNat_lt
    rwa [UInt8.ofNat_toNat] at hb
  unfold IzotDatapointConfig.addrIndex IzotDatapointConfig.setLegacy
  dsimp only
  rw [hhigh, hlow]
  rfl

theorem entryOf_eq_nvConfigTable (i : Fin NV_TABLE_SIZE) (hn : (i : Nat) < gp.nvTableSize) :
    gp.entryOf i = gp.configTables.nvConfigTable i :=
  if_pos hn

theorem entryOf_eq_nvAliasTable (i : Fin NV_ALIAS_TABLE_SIZE) (hn : n = gp.nvTableSize + i) :
    gp.entryOf n = (gp.configTables.nvAliasTable i).aliasConfig := by
  rw [hn]
  unfold entryOf
  rw [if_neg (Nat.not_lt.mpr (Nat.le_add_right _ _)), Nat.add_sub_cancel_left]
  rfl

theorem nv_or_alias (hn : n < gp.indices) :
    (∃ i : Fin NV_TABLE_SIZE, (i : Nat) = n ∧ n < gp.nvTableSize) ∨
      ∃ i : Fin NV_ALIAS_TABLE_SIZE, n = gp.nvTableSize + i := by
  by_cases hlt : n < gp.nvTableSize
  · exact .inl ⟨⟨n, Nat.lt_of_lt_of_le hlt gp.nvTableSize_le⟩, rfl, hlt⟩
  · refine .inr ⟨⟨n - gp.nvTableSize, ?_⟩, ?_⟩
    · unfold indices at hn
      omega
    · dsimp only
      omega

theorem nvTableSize_nmndRespond (gp : AppData) (sts : LonStatusCode) :
    (gp.nmndRespond .nm sts p apdu).nvTableSize = gp.nvTableSize := by
  unfold AppData.nmndRespond AppData.sendResponse AppData.allocSendResponse
  split
  case isTrue => rfl
  case isFalse =>
    split
    case isTrue => rfl
    case isFalse =>
      dsimp only
      split <;> rfl

theorem nvTableSize_updateNvConfig :
    (gp.updateNvConfig p apdu).nvTableSize = gp.nvTableSize := by
  change (gp.toAppData.handleNMUpdateNvConfig p apdu).nvTableSize = gp.nvTableSize
  unfold AppData.handleNMUpdateNvConfig
  dsimp only
  repeat' split
  all_goals exact nvTableSize_nmndRespond _ _

structure Stored (gp s : AppStackData) (apdu : Apdu) : Prop where
  lt : AppData.legacyIndex apdu < s.indices
  addrIndex : (s.entryOf (AppData.legacyIndex apdu)).addrIndex = 15
  addrTable : s.configTables.addrTable = gp.configTables.addrTable

theorem stored_nv {s : AppStackData} {i : Fin NV_TABLE_SIZE} {c : IzotDatapointConfig}
    (hi : (i : Nat) = AppData.legacyIndex apdu) (hlt : (i : Nat) < s.nvTableSize)
    (htables : s.configTables = gp.configTables.modifyNv i fun old => old.setLegacy c)
    (hnone : IZOT_DATAPOINT_ADDRESS_LOW.get c.attribute1 = LEGACY_NO_ADDRESS) :
    Stored gp s apdu := by
  refine ⟨?_, ?_, by rw [htables]; rfl⟩
  · rw [← hi]
    exact Nat.lt_of_lt_of_le hlt (Nat.le_add_right _ _)
  · have hentry : s.configTables.nvConfigTable i =
        (gp.configTables.nvConfigTable i).setLegacy c := by
      rw [htables]
      exact Function.update_self ..
    rw [← hi, entryOf_eq_nvConfigTable i hlt, hentry]
    exact addrIndex_setLegacy _ _ hnone

theorem stored_alias {s : AppStackData} {i : Fin NV_ALIAS_TABLE_SIZE} {a : IzotAliasConfig}
    (hi : AppData.legacyIndex apdu = s.nvTableSize + i)
    (htables : s.configTables =
      gp.configTables.modifyAlias i fun old => ⟨old.aliasConfig.setLegacy a.aliasConfig, a.primary⟩)
    (hnone : IZOT_DATAPOINT_ADDRESS_LOW.get a.aliasConfig.attribute1 = LEGACY_NO_ADDRESS) :
    Stored gp s apdu := by
  refine ⟨?_, ?_, by rw [htables]; rfl⟩
  · rw [hi]
    exact Nat.add_lt_add_left i.isLt _
  · have hentry : s.configTables.nvAliasTable i =
        ⟨(gp.configTables.nvAliasTable i).aliasConfig.setLegacy a.aliasConfig, a.primary⟩ := by
      rw [htables]
      exact Function.update_self ..
    rw [entryOf_eq_nvAliasTable i hi, hentry]
    exact addrIndex_setLegacy _ _ hnone

theorem stored_updateNvConfig {change : ConfigChange}
    (hrequest : gp.updateNvConfigRequest p apdu = some change)
    (hnone : legacyAddrIndex apdu = LEGACY_NO_ADDRESS) :
    Stored gp (gp.updateNvConfig p apdu) apdu := by
  have hsize := @nvTableSize_updateNvConfig gp p apdu
  have hhandled := @AppData.handled_updateNvConfig gp.toAppData p apdu
  have htables : (gp.updateNvConfig p apdu).configTables =
      change.apply gp.twoDomains gp.nvTableSize gp.configTables := by
    rw [hrequest] at hhandled
    cases hhandled with
    | applied _ htables _ => exact htables
  unfold AppData.updateNvConfigRequest at hrequest
  split at hrequest
  case isTrue hn =>
    rw [Option.ite_none_right_eq_some, Option.some.injEq] at hrequest
    obtain ⟨-, rfl⟩ := hrequest
    exact stored_nv rfl (hsize.symm ▸ hn) htables hnone
  case isFalse hn =>
    rw [Option.dite_none_right_eq_some] at hrequest
    obtain ⟨ha, hrequest⟩ := hrequest
    rw [Option.ite_none_right_eq_some, Option.some.injEq] at hrequest
    obtain ⟨-, rfl⟩ := hrequest
    refine stored_alias ?_ htables hnone
    rw [hsize]
    dsimp only
    omega

theorem SameTables.entryOf {s : AppStackData} (h : gp.SameTables s) (hn : n < gp.indices) :
    s.entryOf n = gp.entryOf n := by
  obtain ⟨i, rfl, hlt⟩ | ⟨i, hi⟩ := nv_or_alias hn
  · rw [entryOf_eq_nvConfigTable i hlt,
      entryOf_eq_nvConfigTable i (Nat.lt_of_lt_of_eq hlt h.nvTableSize.symm), h.configTables]
  · rw [entryOf_eq_nvAliasTable i hi,
      entryOf_eq_nvAliasTable i (hi.trans (congrArg (· + (i : Nat)) h.nvTableSize.symm)),
      h.configTables]

theorem hasNoAddress_iff_bound (hn : n < gp.indices) (hindex : (gp.entryOf n).addrIndex = 15) :
    gp.HasNoAddress n ↔ gp.bound (gp.entryOf n) = false := by
  refine ⟨fun h => h.bound, fun hbound => ?_⟩
  have hsilent : ∀ s : AppStackData, gp.SameTables s →
      s.getNVStructPtr n = some (gp.entryOf n) ∧ s.assigned (gp.entryOf n) = false := by
    intro s hs
    have hn' : n < s.indices := by
      unfold indices
      rw [hs.nvTableSize]
      exact hn
    refine ⟨by rw [getNVStructPtr_of_lt hn', hs.entryOf hn], assigned_of_bound ?_⟩
    rw [bound_eq_false_iff hindex, hs.configTables, ← bound_eq_false_iff hindex]
    exact hbound
  refine ⟨hbound, fun s hs e hpeek he => ?_, fun s hs hpeek => ?_⟩
  · obtain ⟨hptr, hc⟩ := hsilent s hs
    exact sendVar_queues hpeek (by rw [he]; omega) (by rw [he]; exact hptr) hc
  · obtain ⟨hptr, hc⟩ := hsilent s hs
    exact pollVar_queues hpeek (by omega) hptr hc

/-- After a legacy message with the index for no address, the variable or alias has no address if and
only if entry 15 of the address table is not in use. -/
theorem hasNoAddress_iff {change : ConfigChange}
    (hrequest : gp.updateNvConfigRequest p apdu = some change)
    (hnone : legacyAddrIndex apdu = LEGACY_NO_ADDRESS) :
    (gp.updateNvConfig p apdu).HasNoAddress (AppData.legacyIndex apdu) ↔
      (gp.configTables.addrTable 15).typeSize = IzotAddressUnassigned ∧
        (gp.configTables.addrTable 15).domainMember ≠ 1 := by
  have hstored := stored_updateNvConfig hrequest hnone
  rw [hasNoAddress_iff_bound hstored.lt hstored.addrIndex, bound_eq_false_iff hstored.addrIndex,
    hstored.addrTable]

def unboundUpdate : Apdu := fun k => [0x6B, 0, 0x40, 0, 0x0F].getD k 0

theorem hasNoAddress_iff_oneOutput :
    ((oneOutput.updateNvConfigRequest { (default : APPReceiveParam) with pduSize := 5 }
        unboundUpdate).isSome ∧ legacyAddrIndex unboundUpdate = LEGACY_NO_ADDRESS) ∧
      ((oneOutput.updateNvConfig { (default : APPReceiveParam) with pduSize := 5 }
          unboundUpdate).HasNoAddress (AppData.legacyIndex unboundUpdate) ↔
        (oneOutput.configTables.addrTable 15).typeSize = IzotAddressUnassigned ∧
          (oneOutput.configTables.addrTable 15).domainMember ≠ 1) :=
  ⟨by decide +kernel, @hasNoAddress_iff oneOutput _ unboundUpdate
    (.setNvLegacy ⟨0, by decide⟩ (.ofImage unboundUpdate 2)) rfl (by decide)⟩

theorem not_hasNoAddress :
    ¬∀ (gp : AppStackData) (p : APPReceiveParam) (apdu : Apdu),
        (gp.updateNvConfigRequest p apdu).isSome → legacyAddrIndex apdu = LEGACY_NO_ADDRESS →
          (gp.updateNvConfig p apdu).HasNoAddress (AppData.legacyIndex apdu) := by
  intro hall
  have hnone := hall (oneOutput.withMem (oneOutput.mem.set (oneOutput.addrTable 15) 1))
    { (default : APPReceiveParam) with pduSize := 5 } unboundUpdate (by decide +kernel)
    (by decide +kernel)
  exact absurd hnone.bound (by decide +kernel)

end AppStackData

end LonStack
