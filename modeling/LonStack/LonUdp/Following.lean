import LonStack.LonUdp.InStep
import LonStack.NetMgmt.Truthful

namespace LonStack

open Lib

namespace AppData

variable {gp gp' : AppData} {p : APPReceiveParam} {apdu : Apdu}

theorem configTables_of_handled {o : Option ConfigChange} (h : Handled gp p apdu o gp') :
    gp'.configTables =
      o.elim gp.configTables (ConfigChange.apply gp.twoDomains gp.nvTableSize gp.configTables) := by
  cases h with
  | rejected _ _ htables _ => exact htables
  | applied _ htables _ => exact htables

theorem configTables_handleNMLeaveDomain :
    (gp.handleNMLeaveDomain p apdu).configTables =
      (leaveDomainRequest p apdu).elim gp.configTables
        (ConfigChange.apply gp.twoDomains gp.nvTableSize gp.configTables) := by
  by_cases hsilent : LeaveDomainSilent p apdu
  case pos =>
    obtain ⟨hsize, hlt, hown⟩ := hsilent
    have hi : ¬(apdu.data 0 ≠ 0 ∧ apdu.data 0 ≠ 1) := fun h => (ne_zero_ne_one_iff _).mp h hlt
    rw [leaveDomainRequest, dif_pos ⟨hsize, hlt⟩]
    unfold handleNMLeaveDomain
    rw [if_neg (not_not.mpr hsize), if_neg hi]
    simp only [if_neg (not_not.mpr hown)]
    exact configTables_left hlt (configTables_recomputeChecksum _) (twoDomains_left _)
  case neg => exact configTables_of_handled (handled_leaveDomain hsilent)

theorem numDomains_pos : 0 < gp.numDomains := by
  unfold numDomains
  split
  case isTrue => decide
  case isFalse => decide

theorem toNat_lt_numDomains {b : UInt8} (hb : b = 0) : b.toNat < gp.numDomains := by
  rw [hb]
  exact numDomains_pos

theorem subnet_eq_of_domainTable (h : gp'.configTables.domainTable = gp.configTables.domainTable) :
    gp'.subnet 0 = gp.subnet 0 := by rw [subnet_zero, subnet_zero, h]

theorem subnet_modifyDomain {b subnet : UInt8} (hb : b.toNat < MAX_DOMAINS)
    {f : IzotDomain → IzotDomain} (hf : ∀ d, (f d).subnet = subnet)
    (h : gp'.configTables.domainTable = (gp.configTables.modifyDomain ⟨b.toNat, hb⟩ f).domainTable) :
    gp'.subnet 0 = if b = 0 then subnet else gp.subnet 0 := by
  have hupdate : gp'.subnet 0 =
      (Function.update gp.configTables.domainTable ⟨b.toNat, hb⟩
        (f (gp.configTables.domainTable ⟨b.toNat, hb⟩)) 0).subnet := by
    rw [subnet_zero, h]
    rfl
  by_cases hzero : b = 0
  case pos =>
    have hi : (0 : Fin MAX_DOMAINS) = ⟨b.toNat, hb⟩ := Fin.ext (congrArg UInt8.toNat hzero).symm
    rw [hupdate, if_pos hzero, hi, Function.update_self, hf]
  case neg =>
    have hi : (0 : Fin MAX_DOMAINS) ≠ ⟨b.toNat, hb⟩ := fun heq =>
      hzero (UInt8.toNat_inj.mp (congrArg Fin.val heq).symm)
    rw [hupdate, if_neg hzero, Function.update_of_ne hi, subnet_zero]

theorem addrTable_handleNMUpdateDomain :
    (gp.handleNMUpdateDomain p apdu).configTables.addrTable = gp.configTables.addrTable := by
  rw [configTables_of_handled handled_updateDomain, updateDomainRequest]
  split
  case isTrue => rfl
  case isFalse => rfl

theorem subnet_handleNMUpdateDomain :
    (gp.handleNMUpdateDomain p apdu).subnet 0 =
      if 17 ≤ p.pduSize ∧ apdu.data 0 = 0 then apdu.data 7 else gp.subnet 0 := by
  have htables : (gp.handleNMUpdateDomain p apdu).configTables =
      (gp.updateDomainRequest p apdu).elim _ _ := configTables_of_handled handled_updateDomain
  rw [updateDomainRequest] at htables
  by_cases h : 17 ≤ p.pduSize ∧ (apdu.data 0).toNat < gp.numDomains
  case pos =>
    rw [dif_pos h] at htables
    rw [subnet_modifyDomain _ (fun _ => rfl) (congrArg ConfigTables.domainTable htables)]
    simp only [h.1, true_and]
    rfl
  case neg =>
    rw [dif_neg h] at htables
    rw [if_neg fun hzero => h ⟨hzero.1, toNat_lt_numDomains hzero.2⟩,
      subnet_eq_of_domainTable (congrArg ConfigTables.domainTable htables)]

theorem addrTable_handleNmeUpdateDomain :
    (gp.handleNmeUpdateDomain p apdu).configTables.addrTable = gp.configTables.addrTable := by
  rw [configTables_of_handled handled_nmeUpdateDomain, nmeUpdateDomainRequest]
  split
  case isTrue => rfl
  case isFalse => rfl

theorem subnet_handleNmeUpdateDomain :
    (gp.handleNmeUpdateDomain p apdu).subnet 0 =
      if 12 ≤ p.pduSize ∧ apdu.data 1 = 0 then apdu.data 8 else gp.subnet 0 := by
  have htables : (gp.handleNmeUpdateDomain p apdu).configTables =
      (gp.nmeUpdateDomainRequest p apdu).elim _ _ := configTables_of_handled handled_nmeUpdateDomain
  rw [nmeUpdateDomainRequest] at htables
  by_cases h : 12 ≤ p.pduSize ∧ (apdu.data 1).toNat < gp.numDomains
  case pos =>
    rw [dif_pos h] at htables
    rw [subnet_modifyDomain _ (fun _ => rfl) (congrArg ConfigTables.domainTable htables)]
    simp only [h.1, true_and]
    rfl
  case neg =>
    rw [dif_neg h] at htables
    rw [if_neg fun hzero => h ⟨hzero.1, toNat_lt_numDomains hzero.2⟩,
      subnet_eq_of_domainTable (congrArg ConfigTables.domainTable htables)]

theorem addrTable_leave (t : ConfigTables) (two : Bool) : (t.leave two).addrTable = t.addrTable := by
  rw [ConfigTables.leave]
  split
  case isTrue => rfl
  case isFalse => rfl

theorem domainTable_leave (t : ConfigTables) (two : Bool) :
    (t.leave two).domainTable = t.domainTable := by
  rw [ConfigTables.leave]
  split
  case isTrue => rfl
  case isFalse => rfl

theorem addrTable_handleNMLeaveDomain :
    (gp.handleNMLeaveDomain p apdu).configTables.addrTable = gp.configTables.addrTable := by
  rw [configTables_handleNMLeaveDomain, leaveDomainRequest]
  split
  case isTrue => exact addrTable_leave _ _
  case isFalse => rfl

theorem subnet_handleNMLeaveDomain :
    (gp.handleNMLeaveDomain p apdu).subnet 0 =
      if p.pduSize = 2 ∧ apdu.data 0 = 0 then 0 else gp.subnet 0 := by
  have htables : (gp.handleNMLeaveDomain p apdu).configTables =
      (leaveDomainRequest p apdu).elim _ _ := configTables_handleNMLeaveDomain
  rw [leaveDomainRequest] at htables
  by_cases h : p.pduSize = 2 ∧ (apdu.data 0).toNat < MAX_DOMAINS
  case pos =>
    rw [dif_pos h] at htables
    rw [subnet_modifyDomain h.2 (fun _ => rfl)
      ((congrArg ConfigTables.domainTable htables).trans (domainTable_leave _ _))]
    simp only [h.1, true_and]
    rfl
  case neg =>
    rw [dif_neg h] at htables
    have hzero : ¬(p.pduSize = 2 ∧ apdu.data 0 = 0) := by
      rintro ⟨hsize, hzero⟩
      exact h ⟨hsize, by rw [hzero]; decide⟩
    rw [if_neg hzero, subnet_eq_of_domainTable (congrArg ConfigTables.domainTable htables)]

theorem groupId_eq_some_iff {i : Nat} {g : UInt8} :
    gp.groupId i = some g ↔ gp.isGroup i = true ∧ gp.groupByte i = g := by
  rw [groupId]
  by_cases h : gp.isGroup i = true
  case pos => rw [if_pos h, Option.some_inj, and_iff_right h]
  case neg =>
    rw [if_neg h]
    exact iff_of_false (fun heq => Option.some_ne_none g heq.symm) fun heq => h heq.1

theorem groupId_eq_none_iff {i : Nat} : gp.groupId i = none ↔ ¬gp.isGroup i = true := by
  rw [groupId]
  by_cases h : gp.isGroup i = true
  case pos => exact iff_of_false (by rw [if_pos h]; exact Option.some_ne_none _) (not_not.mpr h)
  case neg => exact iff_of_true (if_neg h) h

theorem mem_groups_iff {g : UInt8} : g ∈ gp.groups ↔ ∃ i < gp.extended, gp.groupId i = some g := by
  rw [groups, List.mem_filterMap]
  exact exists_congr fun i => and_congr_left fun _ => List.mem_range

structure AddressSet (gp gp' : AppData) (i : Fin NUM_ADDR_TBL_ENTRIES) (new : Option UInt8) :
    Prop where
  groupId : gp'.groupId i = new
  ipSlot : gp'.ipSlot = Function.update gp.ipSlot (.group i) (new.map groupAddr)

theorem addressSet_updateAddress {a : Image} {src i : Nat} (hi : i < gp.extended)
    (hext : gp.extended ≤ NUM_ADDR_TBL_ENTRIES) :
    AddressSet gp (gp.updateAddress a src i).2 ⟨i, Nat.lt_of_lt_of_le hi hext⟩
      (IzotAddress.ofImage a src).groupId := by
  have htables : (gp.updateAddress a src i).2.configTables =
      gp.configTables.modifyAddress ⟨i, Nat.lt_of_lt_of_le hi hext⟩ fun _ => .ofImage a src := by
    rw [updateAddress_of_lt hi]
    exact configTables_copyAddress _ src
  have hgroup : (gp.updateAddress a src i).2.groupId i = (IzotAddress.ofImage a src).groupId := by
    refine (groupId_eq ⟨i, Nat.lt_of_lt_of_le hi hext⟩).trans ?_
    rw [htables]
    exact congrArg IzotAddress.groupId (Function.update_self _ _ _)
  refine ⟨hgroup, ?_⟩
  rw [← hgroup]
  refine ipSlot_setGroup hi (subnet_eq_of_domainTable (by rw [htables]; rfl)) (fun j hj => ?_)
    extended_updateAddress
  rw [htables]
  exact Function.update_of_ne hj _ _

theorem AddressSet.congr {i : Fin NUM_ADDR_TBL_ENTRIES} {new : Option UInt8} {gp'' : AppData}
    (h : AddressSet gp gp' i new) (htables : gp''.configTables = gp'.configTables)
    (hext : gp''.extended = gp'.extended) : AddressSet gp gp'' i new :=
  ⟨by rw [groupId_eq, htables, ← groupId_eq, h.groupId], by rw [ipSlot_congr htables hext, h.ipSlot]⟩

theorem groupByte_updateAddress {a : Image} {src i j : Nat} (hij : i < j) :
    (gp.updateAddress a src i).2.groupByte j = gp.groupByte j := by
  by_cases hi : i < gp.extended
  case pos =>
    have hle : gp.addrTable i + 5 ≤ gp.addrTable j + 4 := by
      rw [addrTable_eq, addrTable_eq]
      omega
    rw [updateAddress_of_lt hi]
    exact Image.copy_of_not_mem (.inr hle)
  case neg => rw [updateAddress_of_not_lt hi]

def SubnetFollows (old new : UInt8) : Prop := old = new ∨ old ≠ 0 ∧ new ≠ 0

def GroupFollows (gp : AppData) (i : Nat) (new : Option UInt8) : Prop :=
  ∀ g, gp.groupId i = some g → new ≠ some g → (new = none ↔ gp.Shares i g)

def GroupStays (gp : AppData) (i : Nat) (new : Option UInt8) : Prop :=
  (∀ g, gp.groupId i = some g → new ≠ some g → gp.Shares i g) ∧
    ∀ g, new = some g → gp.groupId i = some g ∨ gp.Shares i g

/-- An index past the 16 bits of the table names an entry that is written, but not compared. The
last byte of the old entry counts as its group. -/
def GroupConfigFollows (gp : AppData) (index : UInt32) (new : Option UInt8) : Prop :=
  if index.toNat = index.toUInt16.toNat ∧
      ∃ g, new = some g ∧ gp.groupByte index.toNat ≠ g then
    ¬gp.Shares index.toNat (gp.groupByte index.toNat)
  else gp.GroupStays index.toUInt16.toNat new

end AppData

def IpOp.Follows (gp : AppData) : IpOp → Prop
  | .updateDomain p apdu =>
    17 ≤ p.pduSize ∧ apdu.data 0 = 0 → AppData.SubnetFollows (gp.subnet 0) (apdu.data 7)
  | .nmeUpdateDomain p apdu =>
    12 ≤ p.pduSize ∧ apdu.data 1 = 0 → AppData.SubnetFollows (gp.subnet 0) (apdu.data 8)
  | .leaveDomain p apdu => p.pduSize = 2 ∧ apdu.data 0 = 0 → gp.subnet 0 = 0
  | .updateAddr p apdu =>
    (if apdu.data 1 = 0 then 6 else 7) ≤ p.pduSize ∧ (apdu.data 0).toNat < gp.extended →
      gp.GroupFollows (apdu.data 0).toNat (IzotAddress.ofImage apdu 2).groupId
  | .nmeInitConfig p _ => 2 < p.pduSize → gp.groups = []
  | .updateDomainConfig index domain =>
    index.toUInt8 = 0 → gp.subnet 0 = domain IzotDomain.subnetOffset
  | .updateAddressConfig index address =>
    index.toUInt16.toNat < gp.extended →
      gp.GroupConfigFollows index (IzotAddress.ofImage address 0).groupId

namespace IpNode

variable {n : IpNode} {p : APPReceiveParam} {apdu : Apdu}

theorem oldSubnet_zero : n.oldSubnet 0 = n.gp.subnet 0 := rfl

theorem updateDomain_fst {d : Image} {src : Nat} {i : UInt8} {includeKey : Bool} (hi : i = 0) :
    (n.gp.updateDomain d src i includeKey).1 = .noError := by
  rw [AppData.updateDomain_of_lt (AppData.toNat_lt_numDomains hi)]

theorem handleNMUpdateDomain_eq :
    n.handleNMUpdateDomain p apdu =
      if 17 ≤ p.pduSize ∧ apdu.data 0 = 0 then
        (n.setTables (n.gp.handleNMUpdateDomain p apdu)
          AppData.extended_handleNMUpdateDomain).changeSubnet (n.gp.subnet 0) (apdu.data 7)
      else
        n.setTables (n.gp.handleNMUpdateDomain p apdu) AppData.extended_handleNMUpdateDomain := by
  rw [handleNMUpdateDomain]
  by_cases hzero : 17 ≤ p.pduSize ∧ apdu.data 0 = 0
  case pos =>
    rw [if_pos hzero, if_pos ⟨hzero.1, updateDomain_fst hzero.2, hzero.2⟩, hzero.2, oldSubnet_zero]
    rfl
  case neg => rw [if_neg hzero, if_neg fun h => hzero ⟨h.1, h.2.2⟩]

theorem handleNmeUpdateDomain_eq :
    n.handleNmeUpdateDomain p apdu =
      if 12 ≤ p.pduSize ∧ apdu.data 1 = 0 then
        (n.setTables (n.gp.handleNmeUpdateDomain p apdu)
          AppData.extended_handleNmeUpdateDomain).changeSubnet (n.gp.subnet 0) (apdu.data 8)
      else
        n.setTables (n.gp.handleNmeUpdateDomain p apdu)
          AppData.extended_handleNmeUpdateDomain := by
  rw [handleNmeUpdateDomain]
  by_cases hzero : 12 ≤ p.pduSize ∧ apdu.data 1 = 0
  case pos =>
    rw [if_pos hzero, if_pos ⟨hzero.1, updateDomain_fst hzero.2, hzero.2⟩, hzero.2, oldSubnet_zero]
    rfl
  case neg => rw [if_neg hzero, if_neg fun h => hzero ⟨h.1, h.2.2⟩]

section

variable {gp gp' : AppData} {i : Nat} {g g' : UInt8}

theorem changeGroup_of_none (hnew : gp'.groupId i = none) : n.changeGroup gp gp' i = n :=
  if_neg fun h => AppData.groupId_eq_none_iff.mp hnew h.1

theorem changeGroup_of_insert (hold : gp.groupId i = none) (hnew : gp'.groupId i = some g') :
    n.changeGroup gp gp' i = n.addIpMembership (groupAddr g') := by
  have hno : ¬gp.isGroup i = true := AppData.groupId_eq_none_iff.mp hold
  obtain ⟨his, hbyte⟩ := AppData.groupId_eq_some_iff.mp hnew
  unfold changeGroup
  simp only [if_neg hno, hbyte]
  exact if_pos ⟨his, groupAddr_ne_zero.symm⟩

theorem changeGroup_of_replace (hold : gp.groupId i = some g) (hnew : gp'.groupId i = some g') :
    n.changeGroup gp gp' i =
      if g = g' then n
      else (n.removeIPMembership (groupAddr g)).addIpMembership (groupAddr g') := by
  obtain ⟨hwas, hbyteOld⟩ := AppData.groupId_eq_some_iff.mp hold
  obtain ⟨his, hbyte⟩ := AppData.groupId_eq_some_iff.mp hnew
  unfold changeGroup
  simp only [if_pos hwas, hbyte, hbyteOld]
  by_cases hg : g = g'
  case pos => rw [if_pos hg, if_neg fun h => h.2 (congrArg groupAddr hg)]
  case neg => rw [if_neg hg, if_pos ⟨his, fun heq => hg (groupAddr_inj.mp heq)⟩]

theorem changeGroup_self : n.changeGroup gp gp i = n := by
  cases h : gp.groupId i with
  | none => exact changeGroup_of_none h
  | some g => rw [changeGroup_of_replace h h, if_pos rfl]

end

section

variable (h : n.InStep) {n' : IpNode} {c : Prop} [Decidable c] {new : UInt8}

include h

theorem ifSubnet_inStep_iff (hm : n'.members = n.members)
    (haddr : n'.gp.configTables.addrTable = n.gp.configTables.addrTable)
    (hext : n'.gp.extended = n.gp.extended)
    (hsubnet : n'.gp.subnet 0 = if c then new else n.gp.subnet 0) :
    n'.InStep ↔ c → n.gp.subnet 0 = new := by
  rw [inStep_subnet_iff h hm (AppData.ipSlot_setSubnet haddr hext), hsubnet]
  by_cases hc : c
  case pos => rw [if_pos hc, forall_prop_of_true hc]
  case neg => rw [if_neg hc, forall_prop_of_false hc, eq_self]

theorem ifChangeSubnet_inStep_iff (hm : n'.members = n.members)
    (haddr : n'.gp.configTables.addrTable = n.gp.configTables.addrTable)
    (hext : n'.gp.extended = n.gp.extended)
    (hsubnet : n'.gp.subnet 0 = if c then new else n.gp.subnet 0) :
    (if c then n'.changeSubnet (n.gp.subnet 0) new else n').InStep ↔
      c → AppData.SubnetFollows (n.gp.subnet 0) new := by
  by_cases hc : c
  case pos =>
    rw [if_pos hc] at hsubnet
    rw [if_pos hc, forall_prop_of_true hc, ← hsubnet,
      inStep_changeSubnet_iff h hm (AppData.ipSlot_setSubnet haddr hext), AppData.SubnetFollows]
  case neg =>
    rw [if_neg hc, ifSubnet_inStep_iff h hm haddr hext hsubnet]
    exact iff_of_true (fun h => absurd h hc) fun h => absurd h hc

theorem handleNMUpdateDomain_inStep_iff :
    (n.handleNMUpdateDomain p apdu).InStep ↔ (IpOp.updateDomain p apdu).Follows n.gp := by
  rw [handleNMUpdateDomain_eq]
  exact ifChangeSubnet_inStep_iff h rfl AppData.addrTable_handleNMUpdateDomain
    AppData.extended_handleNMUpdateDomain AppData.subnet_handleNMUpdateDomain

theorem handleNmeUpdateDomain_inStep_iff :
    (n.handleNmeUpdateDomain p apdu).InStep ↔ (IpOp.nmeUpdateDomain p apdu).Follows n.gp := by
  rw [handleNmeUpdateDomain_eq]
  exact ifChangeSubnet_inStep_iff h rfl AppData.addrTable_handleNmeUpdateDomain
    AppData.extended_handleNmeUpdateDomain AppData.subnet_handleNmeUpdateDomain

theorem handleNMLeaveDomain_inStep_iff :
    (n.handleNMLeaveDomain p apdu).InStep ↔ (IpOp.leaveDomain p apdu).Follows n.gp :=
  ifSubnet_inStep_iff h rfl AppData.addrTable_handleNMLeaveDomain
    AppData.extended_handleNMLeaveDomain AppData.subnet_handleNMLeaveDomain

theorem izotUpdateDomainConfig_inStep_iff {index : UInt32} {domain : Image} :
    (n.izotUpdateDomainConfig index domain).InStep ↔
      (IpOp.updateDomainConfig index domain).Follows n.gp := by
  rw [IpOp.Follows]
  by_cases hi : index.toUInt8.toNat < n.gp.numDomains
  case pos =>
    have hmax : index.toUInt8.toNat < MAX_DOMAINS := Nat.lt_of_lt_of_le hi n.gp.numDomains_le
    have hr : n.gp.updateDomain domain 0 index.toUInt8 true = (.noError, n.gp.setMem _) :=
      AppData.updateDomain_of_lt hi
    have htables : (n.gp.updateDomain domain 0 index.toUInt8 true).2.configTables =
        n.gp.configTables.modifyDomain ⟨index.toUInt8.toNat, hmax⟩ fun _ => .ofImage domain 0 := by
      rw [hr]
      exact AppData.configTables_copyDomain hmax 0
    have hsubnet : (n.gp.updateDomain domain 0 index.toUInt8 true).2.subnet 0 =
        if index.toUInt8 = 0 then domain IzotDomain.subnetOffset else n.gp.subnet 0 :=
      AppData.subnet_modifyDomain hmax (fun _ => rfl) (congrArg ConfigTables.domainTable htables)
    -- The subnet that is compared is the new one, so that the memberships never change.
    have hhandled : n.izotUpdateDomainConfig index domain =
        n.setTables (n.gp.updateDomain domain 0 index.toUInt8 true).2.recomputeChecksum
          (by simp) := by
      unfold izotUpdateDomainConfig
      rw [if_neg (not_not.mpr (congrArg Prod.fst hr))]
      by_cases hindex : index = 0
      case pos =>
        rw [if_pos (by rw [hindex]; rfl)] at hsubnet
        rw [if_pos hindex, hsubnet, changeSubnet, if_neg fun h => h.2 rfl]
      case neg => rw [if_neg hindex]
    rw [hhandled]
    refine ifSubnet_inStep_iff h rfl ?_ (by simp [setTables]) ?_
    · change (AppData.recomputeChecksum _).configTables.addrTable = _
      rw [AppData.configTables_recomputeChecksum, htables]
      rfl
    · rw [← hsubnet]
      refine AppData.subnet_eq_of_domainTable ?_
      change (AppData.recomputeChecksum _).configTables.domainTable = _
      rw [AppData.configTables_recomputeChecksum]
  case neg =>
    have hr : (n.gp.updateDomain domain 0 index.toUInt8 true).1 ≠ .noError := by
      rw [AppData.updateDomain_of_not_lt hi]
      change LonStatusCode.invalidDomain ≠ .noError
      decide
    unfold izotUpdateDomainConfig
    rw [if_pos hr]
    exact iff_of_true h fun hzero => absurd (AppData.toNat_lt_numDomains hzero) hi

theorem inStep_of_tables (hm : n'.members = n.members)
    (htables : n'.gp.configTables = n.gp.configTables) (hext : n'.gp.extended = n.gp.extended) :
    n'.InStep :=
  (inStep_congr hm (AppData.ipSlot_congr htables hext)).mpr h

variable {i : Nat} {o : Option UInt8} {gp' : AppData} (hi : i < n.gp.extended)

include hi

theorem groupStays_inStep_iff (hm : n'.members = n.members)
    (hset : AppData.AddressSet n.gp n'.gp ⟨i, Nat.lt_of_lt_of_le hi n.extended_le⟩ o) :
    n'.InStep ↔ n.gp.GroupStays i o := by
  have hgroup : n'.gp.groupId i = o := hset.groupId
  have hslot := hset.ipSlot
  rw [← hgroup] at hslot
  rw [inStep_group_iff h hm hslot hi, hset.groupId]
  rfl

theorem changeGroup_inStep_iff (hm : n'.members = n.members)
    (hset : AppData.AddressSet n.gp n'.gp ⟨i, Nat.lt_of_lt_of_le hi n.extended_le⟩ o)
    (hnew : gp'.groupId i = o) :
    (n'.changeGroup n.gp gp' i).InStep ↔ n.gp.GroupFollows i o := by
  cases o with
  | none =>
    rw [changeGroup_of_none hnew, groupStays_inStep_iff h hi hm hset]
    constructor
    · exact fun hstays g hg hne => iff_of_true rfl (hstays.1 g hg hne)
    · exact fun hfollows => ⟨fun g hg hne => (hfollows g hg hne).mp rfl,
        fun g hg => absurd hg.symm (Option.some_ne_none g)⟩
  | some g' =>
    cases hold : n.gp.groupId i with
    | none =>
      have hin : (n'.addIpMembership (groupAddr g')).InStep :=
        inStep_insertGroup h (by rw [members_addIpMembership, hm]) hset.ipSlot hold
      rw [changeGroup_of_insert hold hnew]
      exact iff_of_true hin fun g hg => absurd (hg.symm.trans hold) (Option.some_ne_none g)
    | some g =>
      rw [changeGroup_of_replace hold hnew]
      by_cases hg : g = g'
      case pos =>
        have hsame : ∀ x, n.gp.groupId i = some x → some g' = some x := fun x hx => by
          rw [← hg, ← hold, hx]
        rw [if_pos hg, groupStays_inStep_iff h hi hm hset]
        refine iff_of_true ⟨fun x hx hne => absurd (hsame x hx) hne, fun x hx => .inl ?_⟩
          fun x hx hne => absurd (hsame x hx) hne
        rw [hold, hg, hx]
      case neg =>
        have hunique : ∀ x, n.gp.groupId i = some x → x = g := fun x hx =>
          Option.some.inj (hx.symm.trans hold)
        have hin :
            ((n'.removeIPMembership (groupAddr g)).addIpMembership (groupAddr g')).InStep ↔
              ¬n.gp.Shares i g := by
          refine inStep_replaceGroup_iff (i := ⟨i, Nat.lt_of_lt_of_le hi n.extended_le⟩) h ?_ ?_ hg
            hunique
          · rw [members_addIpMembership, members_removeIPMembership, hm]
          · exact hset.ipSlot
        rw [if_neg hg, hin]
        constructor
        · intro hshares x hx _
          rw [hunique x hx]
          exact iff_of_false (Option.some_ne_none g') hshares
        · intro hfollows hshares
          have hiff := hfollows g hold fun heq => hg (Option.some.inj heq).symm
          exact Option.some_ne_none g' (hiff.mpr hshares)

theorem changeGroupConfig_inStep_iff (hm : n'.members = n.members)
    (hset : AppData.AddressSet n.gp n'.gp ⟨i, Nat.lt_of_lt_of_le hi n.extended_le⟩ o)
    (hnew : gp'.groupId i = o) :
    (n'.changeGroupConfig n.gp gp' i).InStep ↔
      if ∃ g, o = some g ∧ n.gp.groupByte i ≠ g then ¬n.gp.Shares i (n.gp.groupByte i)
      else n.gp.GroupStays i o := by
  unfold changeGroupConfig
  cases o with
  | none =>
    rw [if_neg fun h => AppData.groupId_eq_none_iff.mp hnew h.1,
      if_neg fun ⟨g, hg, _⟩ => Option.some_ne_none g hg.symm]
    exact groupStays_inStep_iff h hi hm hset
  | some g' =>
    obtain ⟨his, hbyte⟩ := AppData.groupId_eq_some_iff.mp hnew
    simp only [hbyte, Option.some_inj, exists_eq_left']
    by_cases hg : n.gp.groupByte i = g'
    case pos =>
      rw [if_neg fun h => h.2 (congrArg groupAddr hg), if_neg fun h => h hg]
      exact groupStays_inStep_iff h hi hm hset
    case neg =>
      have hunique : ∀ x, n.gp.groupId i = some x → x = n.gp.groupByte i := fun x hx =>
        (AppData.groupId_eq_some_iff.mp hx).2.symm
      rw [if_pos ⟨his, fun heq => hg (groupAddr_inj.mp heq)⟩, if_pos hg]
      refine inStep_replaceGroup_iff (i := ⟨i, Nat.lt_of_lt_of_le hi n.extended_le⟩) h ?_ ?_ hg
        hunique
      · rw [members_addIpMembership, members_removeIPMembership, hm]
      · exact hset.ipSlot

omit hi

theorem handleNMUpdateAddr_inStep_iff :
    (n.handleNMUpdateAddr p apdu).InStep ↔ (IpOp.updateAddr p apdu).Follows n.gp := by
  rw [handleNMUpdateAddr, IpOp.Follows]
  by_cases hsize : (if apdu.data 1 = 0 then 6 else 7) ≤ p.pduSize
  case pos =>
    have htables : (n.gp.handleNMUpdateAddr p apdu).configTables =
        (n.gp.updateAddress apdu 2 (apdu.data 0).toNat).2.configTables := by
      have hhandler : n.gp.handleNMUpdateAddr p apdu =
          (n.gp.updateAddress apdu 2 (apdu.data 0).toNat).2.recomputeChecksum.nmndRespond .nm
            (n.gp.updateAddress apdu 2 (apdu.data 0).toNat).1 p apdu := if_pos hsize
      rw [hhandler, AppData.configTables_nmndRespond, AppData.configTables_recomputeChecksum]
    rw [if_pos hsize, and_iff_right hsize]
    by_cases hi : (apdu.data 0).toNat < n.gp.extended
    case pos =>
      have hset : AppData.AddressSet n.gp (n.gp.updateAddress apdu 2 (apdu.data 0).toNat).2 _
          (IzotAddress.ofImage apdu 2).groupId :=
        AppData.addressSet_updateAddress hi n.extended_le
      have hext : (n.gp.handleNMUpdateAddr p apdu).extended =
          (n.gp.updateAddress apdu 2 (apdu.data 0).toNat).2.extended := by
        rw [AppData.extended_updateAddress, AppData.extended_handleNMUpdateAddr]
      rw [forall_prop_of_true hi]
      exact changeGroup_inStep_iff h hi rfl (hset.congr htables hext) hset.groupId
    case neg =>
      rw [AppData.updateAddress_of_not_lt hi] at htables
      rw [AppData.updateAddress_of_not_lt hi]
      rw [changeGroup_self]
      exact iff_of_true (inStep_of_tables h rfl htables AppData.extended_handleNMUpdateAddr)
        fun h => absurd h hi
  case neg =>
    have htables : (n.gp.handleNMUpdateAddr p apdu).configTables = n.gp.configTables := by
      have hhandler : n.gp.handleNMUpdateAddr p apdu =
          n.gp.nmndRespond .nm .invalidOperation p apdu := if_neg hsize
      rw [hhandler, AppData.configTables_nmndRespond]
    rw [if_neg hsize]
    exact iff_of_true (inStep_of_tables h rfl htables AppData.extended_handleNMUpdateAddr)
      fun h => absurd h.1 hsize

theorem izotUpdateAddressConfig_inStep_iff {index : UInt32} {address : Image} :
    (n.izotUpdateAddressConfig index address).InStep ↔
      (IpOp.updateAddressConfig index address).Follows n.gp := by
  rw [IpOp.Follows]
  generalize hnew : (IzotAddress.ofImage address 0).groupId = o
  generalize hgp' : (n.gp.updateAddress address 0 index.toUInt16.toNat).2 = gp'
  have hext : gp'.recomputeChecksum.extended = n.gp.extended := by rw [← hgp']; simp
  have hhandled : n.izotUpdateAddressConfig index address =
      (n.setTables gp'.recomputeChecksum hext).changeGroupConfig n.gp gp' index.toNat := by
    subst hgp'
    rfl
  rw [hhandled]
  by_cases hi : index.toUInt16.toNat < n.gp.extended
  case pos =>
    have hset : AppData.AddressSet n.gp gp' ⟨index.toUInt16.toNat,
        Nat.lt_of_lt_of_le hi n.extended_le⟩ o := by
      rw [← hgp', ← hnew]
      exact AppData.addressSet_updateAddress hi n.extended_le
    have hset' := hset.congr gp'.configTables_recomputeChecksum AppData.extended_recomputeChecksum
    rw [forall_prop_of_true hi, AppData.GroupConfigFollows]
    by_cases hindex : index.toNat = index.toUInt16.toNat
    case pos =>
      simp only [hindex, true_and]
      exact changeGroupConfig_inStep_iff h hi rfl hset' hset.groupId
    case neg =>
      have hbyte : gp'.groupByte index.toNat = n.gp.groupByte index.toNat := by
        have hlt : index.toUInt16.toNat < index.toNat := by
          rw [UInt32.toNat_toUInt16] at hindex ⊢
          omega
        rw [← hgp']
        exact AppData.groupByte_updateAddress hlt
      rw [changeGroupConfig, if_neg fun h => h.2 (congrArg groupAddr hbyte.symm),
        if_neg fun h => hindex h.1]
      exact groupStays_inStep_iff h hi rfl hset'
  case neg =>
    rw [AppData.updateAddress_of_not_lt hi] at hgp'
    subst hgp'
    rw [changeGroupConfig, if_neg fun h => h.2 rfl]
    exact iff_of_true (inStep_of_tables h rfl (AppData.configTables_recomputeChecksum _) hext)
      fun h => absurd h hi

theorem clearGroups_inStep_iff (hm : n'.members = n.members)
    (hsubnet : n'.gp.subnet 0 = n.gp.subnet 0)
    (hgroup : ∀ i : Fin NUM_ADDR_TBL_ENTRIES, n'.gp.groupId i = none) :
    n'.InStep ↔ n.gp.groups = [] := by
  rw [inStep_iff, hm, (inStep_iff.mp h).congr_iff]
  constructor
  · intro hsame
    refine List.eq_nil_iff_forall_not_mem.mpr fun g hg => ?_
    obtain ⟨i, hi, hold⟩ := AppData.mem_groups_iff.mp hg
    have hslot : ∃ slot, n.gp.ipSlot slot = some (groupAddr g) :=
      ⟨.group ⟨i, Nat.lt_of_lt_of_le hi n.extended_le⟩,
        AppData.ipSlot_group_eq_some_iff.mpr ⟨hi, g, hold, rfl⟩⟩
    obtain ⟨slot, hslot⟩ := (hsame _).mp hslot
    obtain ⟨j, _, _, hnew⟩ := AppData.ipSlot_eq_groupAddr_iff.mp hslot
    exact Option.some_ne_none g (hnew.symm.trans (hgroup j))
  · intro hnil
    have hslot : n'.gp.ipSlot = n.gp.ipSlot := by
      funext slot
      cases slot with
      | domain => rfl
      | subnet => rw [AppData.ipSlot, AppData.ipSlot, hsubnet]
      | group i =>
        have hold : n.gp.ipSlot (.group i) = none := by
          refine Option.eq_none_iff_forall_not_mem.mpr fun a ha => ?_
          obtain ⟨hi, g, hg, _⟩ := AppData.ipSlot_group_eq_some_iff.mp ha
          exact List.not_mem_nil (hnil ▸ AppData.mem_groups_iff.mpr ⟨i, hi, hg⟩)
        rw [hold, AppData.ipSlot, hgroup]
        exact ite_self _
    intro a
    rw [hslot]

theorem handleNmeInitConfig_inStep_iff :
    (n.handleNmeInitConfig p apdu).InStep ↔ (IpOp.nmeInitConfig p apdu).Follows n.gp := by
  rw [IpOp.Follows]
  by_cases hsize : 2 < p.pduSize
  case pos =>
    have htables : (n.gp.handleNmeInitConfig p apdu).configTables =
        (AppData.nmeInitConfigRequest p apdu).elim _ _ :=
      AppData.configTables_of_handled AppData.handled_nmeInitConfig
    rw [AppData.nmeInitConfigRequest, if_pos hsize] at htables
    have hgroup (i : Fin NUM_ADDR_TBL_ENTRIES) :
        (n.gp.handleNmeInitConfig p apdu).groupId i = none := by
      rw [AppData.groupId_eq, htables]
      change IzotAddress.groupId default = none
      decide
    have hsubnet : (n.gp.handleNmeInitConfig p apdu).subnet 0 = n.gp.subnet 0 :=
      AppData.subnet_eq_of_domainTable (by rw [htables]; rfl)
    rw [forall_prop_of_true hsize]
    exact clearGroups_inStep_iff h rfl hsubnet hgroup
  case neg =>
    have htables : (n.gp.handleNmeInitConfig p apdu).configTables =
        (AppData.nmeInitConfigRequest p apdu).elim _ _ :=
      AppData.configTables_of_handled AppData.handled_nmeInitConfig
    rw [AppData.nmeInitConfigRequest, if_neg hsize] at htables
    exact iff_of_true (inStep_of_tables h rfl htables AppData.extended_handleNmeInitConfig)
      fun h => absurd h hsize

theorem step_inStep_iff (op : IpOp) : (step op n).InStep ↔ op.Follows n.gp := by
  cases op with
  | updateDomain p apdu => exact handleNMUpdateDomain_inStep_iff h
  | nmeUpdateDomain p apdu => exact handleNmeUpdateDomain_inStep_iff h
  | leaveDomain p apdu => exact handleNMLeaveDomain_inStep_iff h
  | updateAddr p apdu => exact handleNMUpdateAddr_inStep_iff h
  | nmeInitConfig p apdu => exact handleNmeInitConfig_inStep_iff h
  | updateDomainConfig index domain => exact izotUpdateDomainConfig_inStep_iff h
  | updateAddressConfig index address => exact izotUpdateAddressConfig_inStep_iff h

end

def boot (n : IpNode) : IpNode := { n with members := ∅ }.restoreIpMembership

theorem restoreGroup_of_none {r : UInt32 × IpNode} {i : Nat} (h : r.2.gp.groupId i = none) :
    restoreGroup r i = r :=
  if_neg (AppData.groupId_eq_none_iff.mp h)

theorem restoreGroup_of_some {r : UInt32 × IpNode} {i : Nat} {g x : UInt8}
    (h : r.2.gp.groupId i = some g) (hr : r.1 = groupAddr x) :
    restoreGroup r i = (groupAddr (x ||| g), r.2.addIpMembership (groupAddr (x ||| g))) := by
  obtain ⟨his, hbyte⟩ := AppData.groupId_eq_some_iff.mp h
  unfold restoreGroup
  rw [if_pos his, hbyte, hr, ← groupAddr_or]

theorem restoreGroup_foldl (l : List Nat) (r : UInt32 × IpNode) {x : UInt8}
    (hr : r.1 = groupAddr x) :
    (l.foldl restoreGroup r).2.gp = r.2.gp ∧
      ∀ a, a ∈ (l.foldl restoreGroup r).2.members ↔
        a ∈ r.2.members ∨
          ∃ g ∈ totals (· ||| ·) x (l.filterMap r.2.gp.groupId), groupAddr g = a := by
  induction l generalizing r x with
  | nil =>
    refine ⟨rfl, fun a => ⟨.inl, fun ha => ha.elim id ?_⟩⟩
    rintro ⟨g, hg, _⟩
    exact absurd hg List.not_mem_nil
  | cons i l ih =>
    rw [List.foldl_cons]
    cases h : r.2.gp.groupId i with
    | none =>
      rw [restoreGroup_of_none h, List.filterMap_cons_none h]
      exact ih r hr
    | some g =>
      rw [restoreGroup_of_some h hr, List.filterMap_cons_some h, totals]
      obtain ⟨hgp, hmembers⟩ :=
        ih (groupAddr (x ||| g), r.2.addIpMembership (groupAddr (x ||| g))) rfl
      refine ⟨hgp, fun a => ?_⟩
      rw [hmembers, members_addIpMembership, Finset.mem_insert]
      simp only [List.mem_cons, exists_eq_or_imp]
      rw [eq_comm, or_assoc, or_left_comm]
      rfl

theorem gp_restoreGroups : n.restoreGroups.gp = n.gp :=
  (restoreGroup_foldl _ (groupAddr 0, n) rfl).1

theorem mem_restoreGroups_iff {a : UInt32} :
    a ∈ n.restoreGroups.members ↔
      a ∈ n.members ∨ ∃ g ∈ totals (· ||| ·) 0 n.gp.groups, groupAddr g = a :=
  (restoreGroup_foldl _ (groupAddr 0, n) rfl).2 a

theorem gp_boot : n.boot.gp = n.gp := by
  rw [boot, restoreIpMembership]
  split
  case isTrue => exact gp_restoreGroups
  case isFalse => exact gp_restoreGroups

theorem mem_boot_iff {a : UInt32} :
    a ∈ n.boot.members ↔
      (∃ g ∈ totals (· ||| ·) 0 n.gp.groups, groupAddr g = a) ∨
        a = BROADCAST_PREFIX ∨ subnetSlot (n.gp.subnet 0) = some a := by
  have hempty (P : Prop) : (a ∈ ({ n with members := ∅ } : IpNode).members ∨ P) ↔ P :=
    or_iff_right (Finset.notMem_empty a)
  rw [boot, restoreIpMembership, subnetSlot]
  by_cases hs : n.gp.subnet 0 = 0
  case pos =>
    rw [if_neg (not_not.mpr hs), if_pos hs, members_addIpMembership, Finset.mem_insert,
      mem_restoreGroups_iff, hempty, or_comm]
    exact or_congr_right (or_iff_left fun h => Option.some_ne_none a h.symm).symm
  case neg =>
    rw [if_pos hs, if_neg hs, members_addIpMembership, Finset.mem_insert, members_addIpMembership,
      Finset.mem_insert, mem_restoreGroups_iff, hempty, Option.some_inj, eq_comm (a := subnetAddr _)]
    exact ⟨fun h => h.elim (fun h => .inr (.inr h)) fun h => h.elim (fun h => .inr (.inl h)) .inl,
      fun h => h.elim (fun h => .inr (.inr h)) fun h => h.elim (fun h => .inr (.inl h)) .inl⟩

theorem mem_ipAddresses_iff {a : UInt32} :
    a ∈ n.gp.ipAddresses ↔
      (∃ g ∈ n.gp.groups, groupAddr g = a) ∨
        a = BROADCAST_PREFIX ∨ subnetSlot (n.gp.subnet 0) = some a := by
  rw [n.gp.mirrors_ipAddresses]
  constructor
  · rintro ⟨slot, hslot⟩
    cases slot with
    | domain => exact .inr (.inl (Option.some.inj hslot).symm)
    | subnet => exact .inr (.inr hslot)
    | group i =>
      obtain ⟨hi, g, hg, ha⟩ := AppData.ipSlot_group_eq_some_iff.mp hslot
      exact .inl ⟨g, AppData.mem_groups_iff.mpr ⟨i, hi, hg⟩, ha⟩
  · rintro (⟨g, hg, ha⟩ | ha | ha)
    · obtain ⟨i, hi, hg⟩ := AppData.mem_groups_iff.mp hg
      exact ⟨.group ⟨i, Nat.lt_of_lt_of_le hi n.extended_le⟩,
        AppData.ipSlot_group_eq_some_iff.mpr ⟨hi, g, hg, ha⟩⟩
    · exact ⟨.domain, congrArg some ha.symm⟩
    · exact ⟨.subnet, ha⟩

theorem boot_inStep_iff : n.boot.InStep ↔ RepeatsOrAbsorbs (· ||| ·) n.gp.groups := by
  rw [repeatsOrAbsorbs_iff fun _ => UInt8.zero_or, InStep, gp_boot, Finset.ext_iff]
  constructor
  · intro hsame g
    have hbroadcast : groupAddr g ≠ BROADCAST_PREFIX := fun h =>
      groupAddr_ne_subnetAddr (h.trans subnetAddr_zero.symm)
    have hrest : ¬(groupAddr g = BROADCAST_PREFIX ∨
        subnetSlot (n.gp.subnet 0) = some (groupAddr g)) :=
      not_or.mpr ⟨hbroadcast, AppData.subnetSlot_ne_groupAddr⟩
    have h := hsame (groupAddr g)
    rw [mem_boot_iff, mem_ipAddresses_iff, or_iff_left hrest, or_iff_left hrest] at h
    simpa only [groupAddr_inj, exists_eq_right] using h
  · intro hsame a
    rw [mem_boot_iff, mem_ipAddresses_iff]
    simp only [hsame]

/-- From a start on, the memberships are those that the tables call for exactly when the start is
right and all operations follow. -/
theorem inStep_run_iff (n : IpNode) (ops : List IpOp) :
    Always (fun _ n => n.InStep) (history step n.boot ops)
        (ops.foldl (fun n op => step op n) n.boot) ↔
      RepeatsOrAbsorbs (· ||| ·) n.gp.groups ∧
        ∀ x ∈ history step n.boot ops, x.2.Follows x.1.gp := by
  rw [← boot_inStep_iff]
  exact (Run.history step n.boot ops).always_iff fun op _ h => step_inStep_iff h op

def noSubnet : IpNode where
  gp := ConfigCommand.zeroNode
  members := ∅
  extended_le := by decide

def joinRequest : APPReceiveParam := { (default : APPReceiveParam) with
  service := .request
  pduSize := 17 }

def joinApdu : Apdu := Image.write (fun _ => 0) 0 [0x63, 0, 1, 0, 0, 0, 0, 0, 5, 0x81, 1]

theorem members_join :
    (step (.updateDomain joinRequest joinApdu) noSubnet.boot).members =
      insert (subnetAddr 5) (noSubnet.boot.members.erase (subnetAddr 0)) := by
  have hold : noSubnet.boot.gp.subnet 0 = 0 := by
    rw [gp_boot]
    decide
  have hnew : joinApdu.data 7 = 5 := by decide
  change (noSubnet.boot.handleNMUpdateDomain joinRequest joinApdu).members = _
  rw [handleNMUpdateDomain_eq, if_pos (by decide), hold, hnew, changeSubnet, if_pos (by decide)]
  rfl

theorem not_inStep_run : ¬∀ (n : IpNode) (ops : List IpOp),
    Always (fun _ n => n.InStep) (history step n.boot ops)
      (ops.foldl (fun n op => step op n) n.boot) := by
  intro h
  have hstep (n : IpNode) (op : IpOp) : (step op n.boot).InStep := Always.head _ _ (h n [op])
  have hin := hstep noSubnet (.updateDomain joinRequest joinApdu)
  have hcalled : subnetAddr 0 ∈
      (step (.updateDomain joinRequest joinApdu) noSubnet.boot).gp.ipAddresses :=
    mem_ipAddresses_iff.mpr (.inr (.inl subnetAddr_zero))
  rw [InStep, members_join] at hin
  rw [← hin, Finset.mem_insert, Finset.mem_erase, subnetAddr_inj] at hcalled
  exact hcalled.elim (by decide) fun h => h.1 rfl

end IpNode

end LonStack
