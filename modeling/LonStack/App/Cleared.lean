import LonStack.App.Outputs
import LonStack.App.Receive
import LonStack.NetMgmt.EntryLaws

namespace LonStack

open Lib

abbrev UNBOUND_SELECTOR : Nat := 0x3FFF

namespace AppStackData

section

variable (gp : AppStackData)

def initAlias : AppStackData := { gp with toAppData := gp.toAppData.lcsInitAlias }

def initAddress : AppStackData := { gp with toAppData := gp.toAppData.lcsInitAddress }

structure UnusedAlias (i : Nat) : Prop where
  selector : (gp.entryOf (gp.nvTableSize + i)).selector = UNBOUND_SELECTOR
  primary : gp.getPrimaryIndex (gp.nvTableSize + i : Nat) = -1
  addrIndex : (gp.entryOf (gp.nvTableSize + i)).addrIndex = NO_ADDRESS

/-- Nothing that looks through the tables takes alias `i`: no test whether a variable is bound, no
propagation or turnaround of an output, and no poll or update with the selector of the message. -/
structure NeverMatched (apdu : Apdu) (i : Nat) : Prop where
  isNVBound : ∀ j < gp.nvTableSize,
    (gp.getPrimaryIndex (gp.nvTableSize + i : Nat) == (j : Int) &&
      gp.bound (gp.entryOf (gp.nvTableSize + i))) = false
  sendVar : ∀ j < gp.nvTableSize, gp.nvTableSize + i ∉ gp.indicesOf j
  turnAround : ∀ selector,
    gp.hasSelector selector IzotDatapointDirectionIsInput (gp.nvTableSize + i) = false
  processNVPoll : gp.hasSelector apdu.nvSelector apdu.nvDir (gp.nvTableSize + i) = false
  processNVUpdate :
    gp.hasSelector apdu.nvSelector IzotDatapointDirectionIsInput (gp.nvTableSize + i) = false

structure ClearsAliases (apdu : Apdu) : Prop where
  unused : ∀ i < NV_ALIAS_TABLE_SIZE, gp.initAlias.UnusedAlias i
  neverMatched : ∀ i < NV_ALIAS_TABLE_SIZE, gp.initAlias.NeverMatched apdu i
  frame : gp.mem.OnlyIn gp.initAlias.mem (gp.nvAliasTable 0)
    (sizeofIzotAliasConfig * NV_ALIAS_TABLE_SIZE)

structure ClearsAddresses : Prop where
  unassigned : ∀ i < NUM_ADDR_TBL_ENTRIES,
    IzotAddress.ofImage gp.initAddress.mem (gp.addrTable i) = default ∧
      gp.initAddress.mem (gp.addrTable i) = IzotAddressUnassigned
  frame : gp.mem.OnlyIn gp.initAddress.mem (gp.addrTable 0)
    (sizeofIzotAddress * NUM_ADDR_TBL_ENTRIES)

end

variable {gp : AppStackData} {i : Nat}

theorem entryOf_alias (gp : AppStackData) (i : Nat) :
    gp.entryOf (gp.nvTableSize + i) = .ofImage gp.mem (gp.nvAliasTable i) := by
  unfold entryOf
  rw [if_neg (Nat.not_lt.mpr (Nat.le_add_right _ _)), Nat.add_sub_cancel_left]

theorem getPrimaryIndex_alias (gp : AppStackData) {i : Nat}
    (hprimary : gp.mem (gp.nvAliasTable i + 4) = 0xFF) :
    gp.getPrimaryIndex (gp.nvTableSize + i : Nat) = -1 := by
  have hle : gp.nvTableSize ≤ (0xFF : UInt8).toNat :=
    Nat.le_trans gp.nvTableSize_le (by decide)
  unfold getPrimaryIndex
  split
  case isTrue => rfl
  case isFalse =>
    rw [if_neg (by omega)]
    dsimp only
    rw [Int.toNat_natCast, Nat.add_sub_cancel_left, hprimary, if_pos hle]

theorem mem_initAlias : gp.initAlias.mem = gp.toAppData.lcsInitAlias.mem := rfl

theorem eep_initAlias : gp.initAlias.eep = gp.eep :=
  (AppData.differs_lcsInitAlias gp.toAppData).eep

theorem nvAliasTable_initAlias (i : Nat) : gp.initAlias.nvAliasTable i = gp.nvAliasTable i := by
  rw [AppData.nvAliasTable, eep_initAlias]
  rfl

theorem entryOf_initAlias (hi : i < NV_ALIAS_TABLE_SIZE) :
    gp.initAlias.entryOf (gp.nvTableSize + i) = IzotAliasConfig.unused.aliasConfig :=
  (gp.initAlias.entryOf_alias i).trans
    (congrArg IzotAliasConfig.aliasConfig (AppData.ofImage_lcsInitAlias hi))

theorem getPrimaryIndex_initAlias (hi : i < NV_ALIAS_TABLE_SIZE) :
    gp.initAlias.getPrimaryIndex (gp.nvTableSize + i : Nat) = -1 := by
  refine gp.initAlias.getPrimaryIndex_alias ?_
  rw [mem_initAlias, nvAliasTable_initAlias, AppData.lcsInitAlias_mem hi (by decide)]
  rfl

theorem unusedAlias_initAlias (hi : i < NV_ALIAS_TABLE_SIZE) : gp.initAlias.UnusedAlias i where
  selector := (congrArg IzotDatapointConfig.selector (entryOf_initAlias hi)).trans (by decide)
  primary := getPrimaryIndex_initAlias hi
  addrIndex := (congrArg IzotDatapointConfig.addrIndex (entryOf_initAlias hi)).trans (by decide)

theorem hasSelector_initAlias (hi : i < NV_ALIAS_TABLE_SIZE) (selector : Nat) (direction : UInt8) :
    gp.initAlias.hasSelector selector direction (gp.nvTableSize + i) = true ↔
      direction = IzotDatapointDirectionIsOutput ∧ selector = UNBOUND_SELECTOR := by
  have hdirection : IzotAliasConfig.unused.aliasConfig.direction = IzotDatapointDirectionIsOutput := by
    decide
  have hselector : IzotAliasConfig.unused.aliasConfig.selector = UNBOUND_SELECTOR := by decide
  unfold hasSelector
  rw [entryOf_initAlias hi, hdirection, hselector, Bool.and_eq_true, beq_iff_eq, beq_iff_eq,
    eq_comm, @eq_comm _ UNBOUND_SELECTOR]

theorem hasSelector_input_initAlias (hi : i < NV_ALIAS_TABLE_SIZE) (selector : Nat) :
    gp.initAlias.hasSelector selector IzotDatapointDirectionIsInput (gp.nvTableSize + i) = false :=
  Bool.eq_false_iff.mpr fun h => absurd ((hasSelector_initAlias hi _ _).mp h).1 (by decide)

theorem not_mem_indicesOf_initAlias (hi : i < NV_ALIAS_TABLE_SIZE) {j : Nat}
    (hj : j < gp.nvTableSize) : gp.nvTableSize + i ∉ gp.initAlias.indicesOf j := by
  unfold indicesOf
  rw [List.mem_cons, List.mem_filter, getPrimaryIndex_initAlias hi]
  rintro (heq | ⟨-, hprimary⟩)
  · omega
  · exact absurd (eq_of_beq hprimary) (by omega)

theorem neverMatched_initAlias_iff (apdu : Apdu) (hi : i < NV_ALIAS_TABLE_SIZE) :
    gp.initAlias.NeverMatched apdu i ↔
      ¬(apdu.nvDir = IzotDatapointDirectionIsOutput ∧ apdu.nvSelector = UNBOUND_SELECTOR) := by
  rw [← @hasSelector_initAlias gp _ hi, Bool.not_eq_true]
  refine ⟨fun h => h.processNVPoll, fun h => ⟨fun j hj => ?_, fun j hj =>
    not_mem_indicesOf_initAlias hi hj, hasSelector_input_initAlias hi, h,
    hasSelector_input_initAlias hi _⟩⟩
  have hprimary : (gp.initAlias.getPrimaryIndex (gp.nvTableSize + i : Nat) == (j : Int)) = false := by
    rw [getPrimaryIndex_initAlias hi]
    exact beq_eq_false_iff_ne.mpr (by omega)
  exact Bool.and_eq_false_iff.mpr (.inl hprimary)

/-- The last entry is written with one byte too many. -/
theorem configCheckSum_initAlias : gp.initAlias.mem gp.configCheckSum = 0xFF := by
  have hat : gp.configCheckSum = gp.nvAliasTable 253 + 5 := by
    rw [AppData.configCheckSum_eq, AppData.nvAliasTable_eq]
  have hlast : 5 < AppData.unusedAlias.length := by decide
  have hrange : List.range NV_ALIAS_TABLE_SIZE = List.range 253 ++ [253] := List.range_succ
  rw [mem_initAlias, AppData.lcsInitAlias, AppData.mem_setMem, hat, hrange, List.foldl_append,
    List.foldl_cons, List.foldl_nil, Image.write_of_mem _ _ hlast]
  rfl

theorem configCheckSum_eq_end (gp : AppData) :
    gp.configCheckSum = gp.nvAliasTable 0 + sizeofIzotAliasConfig * NV_ALIAS_TABLE_SIZE := by
  rw [AppData.configCheckSum_eq, AppData.nvAliasTable_eq, sizeofIzotAliasConfig, NV_ALIAS_TABLE_SIZE]

theorem frame_initAlias_iff :
    gp.mem.OnlyIn gp.initAlias.mem (gp.nvAliasTable 0)
        (sizeofIzotAliasConfig * NV_ALIAS_TABLE_SIZE) ↔
      gp.mem gp.configCheckSum = 0xFF := by
  have hend := configCheckSum_eq_end gp.toAppData
  constructor
  · intro h
    have hsum := h gp.configCheckSum (.inr (Nat.le_of_eq hend.symm))
    exact hsum.symm.trans configCheckSum_initAlias
  · intro h k hk
    have honly : gp.mem.OnlyIn gp.initAlias.mem (gp.nvAliasTable 0) 1271 :=
      (AppData.differs_lcsInitAlias gp.toAppData).mem
    by_cases hsum : k = gp.configCheckSum
    · rw [hsum, h]
      exact configCheckSum_initAlias
    · refine honly k (hk.imp_right fun hk => ?_)
      simp only [sizeofIzotAliasConfig, NV_ALIAS_TABLE_SIZE] at hk hend
      omega

theorem clearsAddresses : gp.ClearsAddresses where
  unassigned i hi := ⟨AppData.ofImage_lcsInitAddress hi, AppData.lcsInitAddress_mem hi (k := 0) (by decide)⟩
  frame := (AppData.differs_lcsInitAddress gp.toAppData).mem

/-- The tables are cleared and nothing else is changed if and only if the checksum behind the alias
table is 0xFF already, and the message is not a poll of an output with the unbound selector. -/
theorem clearsTables_iff (apdu : Apdu) :
    gp.ClearsAliases apdu ∧ gp.ClearsAddresses ↔
      gp.mem gp.configCheckSum = 0xFF ∧
        ¬(apdu.nvDir = IzotDatapointDirectionIsOutput ∧ apdu.nvSelector = UNBOUND_SELECTOR) := by
  constructor
  · rintro ⟨haliases, -⟩
    exact ⟨frame_initAlias_iff.mp haliases.frame,
      (neverMatched_initAlias_iff apdu (i := 0) (by decide)).mp (haliases.neverMatched 0 (by decide))⟩
  · rintro ⟨hsum, hpoll⟩
    exact ⟨⟨fun i hi => unusedAlias_initAlias hi,
      fun i hi => (neverMatched_initAlias_iff apdu hi).mpr hpoll, frame_initAlias_iff.mpr hsum⟩,
      clearsAddresses⟩

theorem not_clearsTables :
    ¬∀ (gp : AppStackData) (apdu : Apdu), gp.ClearsAliases apdu ∧ gp.ClearsAddresses := by
  intro hall
  have hsum := frame_initAlias_iff.mp (hall oneOutput fun _ => 0).1.frame
  exact absurd hsum (by decide)

end AppStackData

end LonStack
