import LonStack.App.Node
import LonStack.Lib.Region

namespace LonStack

open Lib

structure IzotDatapointConfig where
  selhiDirPrio : UInt8
  selectorLow : UInt8
  attribute1 : UInt8
  attribute2 : UInt8
  deriving DecidableEq, Repr, Inhabited

structure IzotAliasConfig where
  aliasConfig : IzotDatapointConfig
  primary : UInt8
  deriving DecidableEq, Repr, Inhabited

def IzotDomain.ofImage (m : Image) (a : Nat) : IzotDomain where
  id := .ofFn fun i => m (a + i)
  subnet := m (a + 6)
  nodeClone := m (a + 7)
  invalidIdLength := m (a + 8)
  key := .ofFn fun i => m (a + 9 + i)

def IzotAddress.ofImage (m : Image) (a : Nat) : IzotAddress where
  typeSize := m a
  domainMember := m (a + 1)
  repeatRetry := m (a + 2)
  receiveTransmit := m (a + 3)
  group := m (a + 4)

def IzotDatapointConfig.ofImage (m : Image) (a : Nat) : IzotDatapointConfig where
  selhiDirPrio := m a
  selectorLow := m (a + 1)
  attribute1 := m (a + 2)
  attribute2 := m (a + 3)

def IzotAliasConfig.ofImage (m : Image) (a : Nat) : IzotAliasConfig where
  aliasConfig := .ofImage m a
  primary := m (a + 4)

section

variable {m m' : Image} {a b : Nat}

theorem IzotDomain.ofImage_congr (h : ∀ k < 15, m (a + k) = m' (b + k)) :
    IzotDomain.ofImage m a = IzotDomain.ofImage m' b := by
  have hid : ∀ i : Fin 6, m (a + i) = m' (b + i) := fun i => h i (by omega)
  have hkey : ∀ i : Fin 6, m (a + 9 + i) = m' (b + 9 + i) := fun i => by
    rw [Nat.add_assoc, Nat.add_assoc]
    exact h (9 + i) (by omega)
  simp only [IzotDomain.ofImage, hid, hkey, h 6 (by omega), h 7 (by omega), h 8 (by omega)]

theorem IzotAddress.ofImage_congr (h : ∀ k < 5, m (a + k) = m' (b + k)) :
    IzotAddress.ofImage m a = IzotAddress.ofImage m' b := by
  simp only [IzotAddress.ofImage, h 1 (by omega), h 2 (by omega), h 3 (by omega), h 4 (by omega)]
  congr 1
  exact h 0 (by omega)

theorem IzotDatapointConfig.ofImage_congr (h : ∀ k < 4, m (a + k) = m' (b + k)) :
    IzotDatapointConfig.ofImage m a = IzotDatapointConfig.ofImage m' b := by
  simp only [IzotDatapointConfig.ofImage, h 1 (by omega), h 2 (by omega), h 3 (by omega)]
  congr 1
  exact h 0 (by omega)

theorem IzotAliasConfig.ofImage_congr (h : ∀ k < 5, m (a + k) = m' (b + k)) :
    IzotAliasConfig.ofImage m a = IzotAliasConfig.ofImage m' b := by
  simp only [IzotAliasConfig.ofImage, h 4 (by omega)]
  rw [IzotDatapointConfig.ofImage_congr fun k hk => h k (by omega)]

end

structure ConfigTables where
  domainTable : Fin MAX_DOMAINS → IzotDomain
  addrTable : Fin NUM_ADDR_TBL_ENTRIES → IzotAddress
  nvConfigTable : Fin NV_TABLE_SIZE → IzotDatapointConfig
  nvAliasTable : Fin NV_ALIAS_TABLE_SIZE → IzotAliasConfig
  nodeState : UInt8

namespace ConfigTables

def modifyDomain (t : ConfigTables) (i : Fin MAX_DOMAINS) (f : IzotDomain → IzotDomain) :
    ConfigTables :=
  { t with domainTable := Function.update t.domainTable i (f (t.domainTable i)) }

def modifyAddress (t : ConfigTables) (i : Fin NUM_ADDR_TBL_ENTRIES)
    (f : IzotAddress → IzotAddress) : ConfigTables :=
  { t with addrTable := Function.update t.addrTable i (f (t.addrTable i)) }

def modifyNv (t : ConfigTables) (i : Fin NV_TABLE_SIZE)
    (f : IzotDatapointConfig → IzotDatapointConfig) : ConfigTables :=
  { t with nvConfigTable := Function.update t.nvConfigTable i (f (t.nvConfigTable i)) }

def modifyAlias (t : ConfigTables) (i : Fin NV_ALIAS_TABLE_SIZE)
    (f : IzotAliasConfig → IzotAliasConfig) : ConfigTables :=
  { t with nvAliasTable := Function.update t.nvAliasTable i (f (t.nvAliasTable i)) }

end ConfigTables

namespace AppData

variable {gp gp' : AppData}

def configTables (gp : AppData) : ConfigTables where
  domainTable i := .ofImage gp.mem (gp.domainTable i)
  addrTable i := .ofImage gp.mem (gp.addrTable i)
  nvConfigTable i := .ofImage gp.mem (gp.nvConfigTable i)
  nvAliasTable i := .ofImage gp.mem (gp.nvAliasTable i)
  nodeState := gp.nodeState

theorem readOnlyData_eq : gp.readOnlyData = gp.eep := rfl

theorem configData_eq : gp.configData = gp.eep + 47 := rfl

theorem domainTable_eq (i : Nat) : gp.domainTable i = gp.eep + 72 + 15 * i := rfl

theorem addrTable_eq (i : Nat) : gp.addrTable i = gp.eep + 102 + 5 * i := rfl

theorem nvConfigTable_eq (i : Nat) : gp.nvConfigTable i = gp.eep + 1372 + 4 * i := rfl

theorem nvAliasTable_eq (i : Nat) : gp.nvAliasTable i = gp.eep + 2388 + 5 * i := rfl

theorem configCheckSum_eq : gp.configCheckSum = gp.eep + 3658 := rfl

structure Differs (gp gp' : AppData) (a n : Nat) : Prop where
  eep : gp'.eep = gp.eep
  mem : gp.mem.OnlyIn gp'.mem a n

namespace Differs

variable {a n : Nat}

theorem domain_eq (h : Differs gp gp' a n) (i : Nat)
    (ha : gp.domainTable i + 15 ≤ a ∨ a + n ≤ gp.domainTable i) :
    IzotDomain.ofImage gp'.mem (gp'.domainTable i) =
      IzotDomain.ofImage gp.mem (gp.domainTable i) := by
  have heq : gp'.domainTable i = gp.domainTable i := by rw [domainTable, h.eep, domainTable]
  rw [heq]
  exact IzotDomain.ofImage_congr fun k hk => h.mem _ (by omega)

theorem address_eq (h : Differs gp gp' a n) (i : Nat)
    (ha : gp.addrTable i + 5 ≤ a ∨ a + n ≤ gp.addrTable i) :
    IzotAddress.ofImage gp'.mem (gp'.addrTable i) =
      IzotAddress.ofImage gp.mem (gp.addrTable i) := by
  have heq : gp'.addrTable i = gp.addrTable i := by rw [addrTable, h.eep, addrTable]
  rw [heq]
  exact IzotAddress.ofImage_congr fun k hk => h.mem _ (by omega)

theorem nv_eq (h : Differs gp gp' a n) (i : Nat)
    (ha : gp.nvConfigTable i + 4 ≤ a ∨ a + n ≤ gp.nvConfigTable i) :
    IzotDatapointConfig.ofImage gp'.mem (gp'.nvConfigTable i) =
      IzotDatapointConfig.ofImage gp.mem (gp.nvConfigTable i) := by
  have heq : gp'.nvConfigTable i = gp.nvConfigTable i := by
    rw [nvConfigTable, h.eep, nvConfigTable]
  rw [heq]
  exact IzotDatapointConfig.ofImage_congr fun k hk => h.mem _ (by omega)

theorem alias_eq (h : Differs gp gp' a n) (i : Nat)
    (ha : gp.nvAliasTable i + 5 ≤ a ∨ a + n ≤ gp.nvAliasTable i) :
    IzotAliasConfig.ofImage gp'.mem (gp'.nvAliasTable i) =
      IzotAliasConfig.ofImage gp.mem (gp.nvAliasTable i) := by
  have heq : gp'.nvAliasTable i = gp.nvAliasTable i := by rw [nvAliasTable, h.eep, nvAliasTable]
  rw [heq]
  exact IzotAliasConfig.ofImage_congr fun k hk => h.mem _ (by omega)

theorem nodeState_eq (h : Differs gp gp' a n) (ha : gp.eep + 22 ≤ a) :
    gp'.nodeState = gp.nodeState := by
  rw [nodeState, nodeState, readOnlyData_eq, readOnlyData_eq, h.eep, Image.getAttribute,
    Image.getAttribute, h.mem _ (.inl (by change gp.eep + 21 < a; omega))]

theorem configTables_domain {i : Fin MAX_DOMAINS} {f : IzotDomain → IzotDomain}
    (h : Differs gp gp' (gp.domainTable i) 15)
    (hf : IzotDomain.ofImage gp'.mem (gp.domainTable i) =
      f (.ofImage gp.mem (gp.domainTable i))) :
    gp'.configTables = gp.configTables.modifyDomain i f := by
  have hi : (i : Nat) < 2 := i.isLt
  simp only [configTables, ConfigTables.modifyDomain, ConfigTables.mk.injEq]
  refine ⟨?_, ?_, ?_, ?_, h.nodeState_eq (by rw [domainTable_eq]; omega)⟩
  · funext j
    cases Decidable.em (j = i) with
    | inl hj =>
      rw [hj, Function.update_self, domainTable, h.eep]
      exact hf
    | inr hj =>
      rw [Function.update_of_ne hj]
      have : (j : Nat) ≠ i := fun heq => hj (Fin.ext heq)
      exact h.domain_eq j (by rw [domainTable_eq, domainTable_eq]; omega)
  · funext j
    have hj : (j : Nat) < 254 := j.isLt
    exact h.address_eq j (by rw [domainTable_eq, addrTable_eq]; omega)
  · funext j
    have hj : (j : Nat) < 254 := j.isLt
    exact h.nv_eq j (by rw [domainTable_eq, nvConfigTable_eq]; omega)
  · funext j
    have hj : (j : Nat) < 254 := j.isLt
    exact h.alias_eq j (by rw [domainTable_eq, nvAliasTable_eq]; omega)

theorem configTables_address {i : Fin NUM_ADDR_TBL_ENTRIES} {f : IzotAddress → IzotAddress}
    (h : Differs gp gp' (gp.addrTable i) 5)
    (hf : IzotAddress.ofImage gp'.mem (gp.addrTable i) =
      f (.ofImage gp.mem (gp.addrTable i))) :
    gp'.configTables = gp.configTables.modifyAddress i f := by
  have hi : (i : Nat) < 254 := i.isLt
  simp only [configTables, ConfigTables.modifyAddress, ConfigTables.mk.injEq]
  refine ⟨?_, ?_, ?_, ?_, h.nodeState_eq (by rw [addrTable_eq]; omega)⟩
  · funext j
    have hj : (j : Nat) < 2 := j.isLt
    exact h.domain_eq j (by rw [domainTable_eq, addrTable_eq]; omega)
  · funext j
    cases Decidable.em (j = i) with
    | inl hj =>
      rw [hj, Function.update_self, addrTable, h.eep]
      exact hf
    | inr hj =>
      rw [Function.update_of_ne hj]
      have : (j : Nat) ≠ i := fun heq => hj (Fin.ext heq)
      exact h.address_eq j (by rw [addrTable_eq, addrTable_eq]; omega)
  · funext j
    have hj : (j : Nat) < 254 := j.isLt
    exact h.nv_eq j (by rw [addrTable_eq, nvConfigTable_eq]; omega)
  · funext j
    have hj : (j : Nat) < 254 := j.isLt
    exact h.alias_eq j (by rw [addrTable_eq, nvAliasTable_eq]; omega)

theorem configTables_nv {i : Fin NV_TABLE_SIZE} {f : IzotDatapointConfig → IzotDatapointConfig}
    (h : Differs gp gp' (gp.nvConfigTable i) 4)
    (hf : IzotDatapointConfig.ofImage gp'.mem (gp.nvConfigTable i) =
      f (.ofImage gp.mem (gp.nvConfigTable i))) :
    gp'.configTables = gp.configTables.modifyNv i f := by
  have hi : (i : Nat) < 254 := i.isLt
  simp only [configTables, ConfigTables.modifyNv, ConfigTables.mk.injEq]
  refine ⟨?_, ?_, ?_, ?_, h.nodeState_eq (by rw [nvConfigTable_eq]; omega)⟩
  · funext j
    have hj : (j : Nat) < 2 := j.isLt
    exact h.domain_eq j (by rw [domainTable_eq, nvConfigTable_eq]; omega)
  · funext j
    have hj : (j : Nat) < 254 := j.isLt
    exact h.address_eq j (by rw [addrTable_eq, nvConfigTable_eq]; omega)
  · funext j
    cases Decidable.em (j = i) with
    | inl hj =>
      rw [hj, Function.update_self, nvConfigTable, h.eep]
      exact hf
    | inr hj =>
      rw [Function.update_of_ne hj]
      have : (j : Nat) ≠ i := fun heq => hj (Fin.ext heq)
      exact h.nv_eq j (by rw [nvConfigTable_eq, nvConfigTable_eq]; omega)
  · funext j
    have hj : (j : Nat) < 254 := j.isLt
    exact h.alias_eq j (by rw [nvConfigTable_eq, nvAliasTable_eq]; omega)

theorem configTables_alias {i : Fin NV_ALIAS_TABLE_SIZE} {f : IzotAliasConfig → IzotAliasConfig}
    (h : Differs gp gp' (gp.nvAliasTable i) 5)
    (hf : IzotAliasConfig.ofImage gp'.mem (gp.nvAliasTable i) =
      f (.ofImage gp.mem (gp.nvAliasTable i))) :
    gp'.configTables = gp.configTables.modifyAlias i f := by
  have hi : (i : Nat) < 254 := i.isLt
  simp only [configTables, ConfigTables.modifyAlias, ConfigTables.mk.injEq]
  refine ⟨?_, ?_, ?_, ?_, h.nodeState_eq (by rw [nvAliasTable_eq]; omega)⟩
  · funext j
    have hj : (j : Nat) < 2 := j.isLt
    exact h.domain_eq j (by rw [domainTable_eq, nvAliasTable_eq]; omega)
  · funext j
    have hj : (j : Nat) < 254 := j.isLt
    exact h.address_eq j (by rw [addrTable_eq, nvAliasTable_eq]; omega)
  · funext j
    have hj : (j : Nat) < 254 := j.isLt
    exact h.nv_eq j (by rw [nvConfigTable_eq, nvAliasTable_eq]; omega)
  · funext j
    cases Decidable.em (j = i) with
    | inl hj =>
      rw [hj, Function.update_self, nvAliasTable, h.eep]
      exact hf
    | inr hj =>
      rw [Function.update_of_ne hj]
      have : (j : Nat) ≠ i := fun heq => hj (Fin.ext heq)
      exact h.alias_eq j (by rw [nvAliasTable_eq, nvAliasTable_eq]; omega)

theorem configTables_behind (h : Differs gp gp' a n) (ha : gp.configCheckSum ≤ a) :
    gp'.configTables = gp.configTables := by
  rw [configCheckSum_eq] at ha
  simp only [configTables, ConfigTables.mk.injEq]
  refine ⟨?_, ?_, ?_, ?_, h.nodeState_eq (by omega)⟩
  · funext j
    have hj : (j : Nat) < 2 := j.isLt
    exact h.domain_eq j (by rw [domainTable_eq]; omega)
  · funext j
    have hj : (j : Nat) < 254 := j.isLt
    exact h.address_eq j (by rw [addrTable_eq]; omega)
  · funext j
    have hj : (j : Nat) < 254 := j.isLt
    exact h.nv_eq j (by rw [nvConfigTable_eq]; omega)
  · funext j
    have hj : (j : Nat) < 254 := j.isLt
    exact h.alias_eq j (by rw [nvAliasTable_eq]; omega)

end Differs

theorem differs_mem (gp : AppData) {m : Image} {a n : Nat} (h : gp.mem.OnlyIn m a n) :
    Differs gp (gp.setMem m) a n :=
  ⟨rfl, h⟩

theorem differs_recomputeChecksum (gp : AppData) :
    Differs gp gp.recomputeChecksum gp.configCheckSum 1 :=
  ⟨rfl, .set _ _ _⟩

@[simp] theorem configTables_recomputeChecksum (gp : AppData) :
    gp.recomputeChecksum.configTables = gp.configTables :=
  gp.differs_recomputeChecksum.configTables_behind (Nat.le_refl _)

end AppData

end LonStack
