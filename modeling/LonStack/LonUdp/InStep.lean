import LonStack.LonUdp.Membership

namespace LonStack

open Lib

section

variable {g g' s s' : UInt8}

theorem toUInt8_groupAddr (g : UInt8) : (groupAddr g).toUInt8 = g :=
  forall_byte (P := fun g => (groupAddr g).toUInt8 = g) (by decide +kernel) g

theorem toUInt8_subnetAddr (s : UInt8) : (subnetAddr s).toUInt8 = s :=
  forall_byte (P := fun s => (subnetAddr s).toUInt8 = s) (by decide +kernel) s

theorem groupAddr_and (g : UInt8) : groupAddr g &&& 0x100 = 0x100 :=
  forall_byte (P := fun g => groupAddr g &&& 0x100 = 0x100) (by decide +kernel) g

theorem subnetAddr_and (s : UInt8) : subnetAddr s &&& 0x100 = 0 :=
  forall_byte (P := fun s => subnetAddr s &&& 0x100 = 0) (by decide +kernel) s

theorem groupAddr_inj : groupAddr g = groupAddr g' ↔ g = g' :=
  ⟨fun h => by rw [← toUInt8_groupAddr g, h, toUInt8_groupAddr], congrArg groupAddr⟩

theorem subnetAddr_inj : subnetAddr s = subnetAddr s' ↔ s = s' :=
  ⟨fun h => by rw [← toUInt8_subnetAddr s, h, toUInt8_subnetAddr], congrArg subnetAddr⟩

theorem groupAddr_ne_subnetAddr : groupAddr g ≠ subnetAddr s := by
  intro h
  have hand := groupAddr_and g
  rw [h, subnetAddr_and] at hand
  exact absurd hand (by decide)

theorem groupAddr_ne_zero : groupAddr g ≠ 0 := by
  intro h
  have hand := groupAddr_and g
  rw [h] at hand
  exact absurd hand (by decide)

@[simp] theorem subnetAddr_zero : subnetAddr 0 = BROADCAST_PREFIX := by decide

theorem groupAddr_or : groupAddr (g ||| g') = groupAddr g ||| g'.toUInt32 := by
  rw [groupAddr, groupAddr, UInt8.toUInt32_or, ← UInt32.or_assoc]

end

inductive IpSlot
  | domain
  | subnet
  | group (i : Fin NUM_ADDR_TBL_ENTRIES)
  deriving DecidableEq, Repr

def IpSlot.all : List IpSlot :=
  .domain :: .subnet :: (List.finRange NUM_ADDR_TBL_ENTRIES).map .group

theorem IpSlot.mem_all (s : IpSlot) : s ∈ IpSlot.all := by
  cases s with
  | domain => exact List.mem_cons_self
  | subnet => exact List.mem_cons_of_mem _ List.mem_cons_self
  | group i =>
    exact List.mem_cons_of_mem _ (List.mem_cons_of_mem _
      (List.mem_map_of_mem (List.mem_finRange i)))

def subnetSlot (subnet : UInt8) : Option UInt32 :=
  if subnet = 0 then none else some (subnetAddr subnet)

namespace AppData

variable (gp : AppData)

def ipSlot : IpSlot → Option UInt32
  | .domain => some BROADCAST_PREFIX
  | .subnet => subnetSlot (gp.subnet 0)
  | .group i => if i < gp.extended then (gp.groupId i).map groupAddr else none

def ipAddresses : Finset UInt32 := (IpSlot.all.filterMap gp.ipSlot).toFinset

theorem mirrors_ipAddresses : Mirrors gp.ipAddresses gp.ipSlot := by
  intro a
  rw [ipAddresses, List.mem_toFinset, List.mem_filterMap]
  exact ⟨fun ⟨s, _, hs⟩ => ⟨s, hs⟩, fun ⟨s, hs⟩ => ⟨s, s.mem_all, hs⟩⟩

def Shares (i : Nat) (g : UInt8) : Prop := ∃ j < gp.extended, j ≠ i ∧ gp.groupId j = some g

variable {gp} {gp' : AppData}

theorem ipSlot_domain : gp.ipSlot .domain = some (subnetAddr 0) := rfl

theorem subnetSlot_ne_groupAddr {s g : UInt8} : subnetSlot s ≠ some (groupAddr g) := by
  intro h
  rw [subnetSlot] at h
  split at h
  case isTrue => exact Option.some_ne_none _ h.symm
  case isFalse => exact groupAddr_ne_subnetAddr (Option.some.inj h).symm

theorem subnetSlot_eq_some_iff {s s' : UInt8} :
    subnetSlot s = some (subnetAddr s') ↔ s' ≠ 0 ∧ s = s' := by
  rw [subnetSlot]
  by_cases hs : s = 0
  case pos =>
    rw [if_pos hs]
    refine iff_of_false (fun h => Option.some_ne_none _ h.symm) ?_
    rintro ⟨hs', rfl⟩
    exact hs' hs
  case neg =>
    rw [if_neg hs, Option.some_inj, subnetAddr_inj]
    exact ⟨fun h => ⟨h ▸ hs, h⟩, And.right⟩

theorem ipSlot_group_eq_some_iff {i : Fin NUM_ADDR_TBL_ENTRIES} {a : UInt32} :
    gp.ipSlot (.group i) = some a ↔
      i < gp.extended ∧ ∃ g, gp.groupId i = some g ∧ groupAddr g = a := by
  rw [ipSlot]
  by_cases hi : i < gp.extended
  case pos => rw [if_pos hi, Option.map_eq_some_iff, and_iff_right hi]
  case neg =>
    rw [if_neg hi]
    exact iff_of_false (fun h => Option.some_ne_none a h.symm) fun h => hi h.1

theorem ipSlot_eq_groupAddr_iff {slot : IpSlot} {g : UInt8} :
    gp.ipSlot slot = some (groupAddr g) ↔
      ∃ i, slot = .group i ∧ i < gp.extended ∧ gp.groupId i = some g := by
  cases slot with
  | domain =>
    refine iff_of_false (fun h => ?_) (by rintro ⟨i, hi, _⟩; cases hi)
    rw [ipSlot_domain] at h
    exact groupAddr_ne_subnetAddr (Option.some.inj h).symm
  | subnet =>
    exact iff_of_false subnetSlot_ne_groupAddr (by rintro ⟨i, hi, _⟩; cases hi)
  | group i =>
    rw [ipSlot_group_eq_some_iff]
    constructor
    · rintro ⟨hi, g', hg', heq⟩
      exact ⟨i, rfl, hi, groupAddr_inj.mp heq ▸ hg'⟩
    · rintro ⟨j, hj, hi, hg⟩
      cases hj
      exact ⟨hi, g, hg, rfl⟩

theorem ipSlot_eq_subnetAddr_iff {slot : IpSlot} {s : UInt8} :
    gp.ipSlot slot = some (subnetAddr s) ↔
      slot = .domain ∧ s = 0 ∨ slot = .subnet ∧ s ≠ 0 ∧ gp.subnet 0 = s := by
  cases slot with
  | domain =>
    rw [ipSlot_domain, Option.some_inj, subnetAddr_inj]
    exact ⟨fun h => .inl ⟨rfl, h.symm⟩, fun h => h.elim (fun h => h.2.symm) fun h => IpSlot.noConfusion h.1⟩
  | subnet =>
    rw [ipSlot, subnetSlot_eq_some_iff]
    exact ⟨fun h => .inr ⟨rfl, h⟩, fun h => h.elim (fun h => IpSlot.noConfusion h.1) fun h => h.2⟩
  | group i =>
    refine iff_of_false (fun h => ?_) ?_
    · obtain ⟨_, g, _, hg⟩ := ipSlot_group_eq_some_iff.mp h
      exact groupAddr_ne_subnetAddr hg
    · exact fun h => h.elim (fun h => IpSlot.noConfusion h.1) fun h => IpSlot.noConfusion h.1

theorem exists_ipSlot_iff (hext : gp.extended ≤ NUM_ADDR_TBL_ENTRIES)
    {i : Fin NUM_ADDR_TBL_ENTRIES} {g : UInt8} :
    (∃ slot, slot ≠ .group i ∧ gp.ipSlot slot = some (groupAddr g)) ↔ gp.Shares i g := by
  constructor
  · rintro ⟨slot, hne, hslot⟩
    obtain ⟨j, rfl, hj, hg⟩ := ipSlot_eq_groupAddr_iff.mp hslot
    exact ⟨j, hj, fun heq => hne (congrArg IpSlot.group (Fin.ext heq)), hg⟩
  · rintro ⟨j, hj, hne, hg⟩
    refine ⟨.group ⟨j, Nat.lt_of_lt_of_le hj hext⟩, ?_, ipSlot_eq_groupAddr_iff.mpr ⟨_, rfl, hj, hg⟩⟩
    intro heq
    cases heq
    exact hne rfl

theorem subnet_zero : gp.subnet 0 = (gp.configTables.domainTable 0).subnet := rfl

theorem groupId_eq (i : Fin NUM_ADDR_TBL_ENTRIES) :
    gp.groupId i = (gp.configTables.addrTable i).groupId := by
  rw [groupId, isGroup, IzotAddress.groupId]
  simp only [beq_iff_eq]
  rfl

theorem ipSlot_setSubnet (haddr : gp'.configTables.addrTable = gp.configTables.addrTable)
    (hext : gp'.extended = gp.extended) :
    gp'.ipSlot = Function.update gp.ipSlot .subnet (subnetSlot (gp'.subnet 0)) := by
  funext slot
  cases slot with
  | domain => rfl
  | subnet => rw [Function.update_self, ipSlot]
  | group i =>
    rw [Function.update_of_ne IpSlot.noConfusion, ipSlot, ipSlot, hext, groupId_eq, groupId_eq,
      haddr]

theorem ipSlot_setGroup {i : Fin NUM_ADDR_TBL_ENTRIES} (hi : i < gp.extended)
    (hsubnet : gp'.subnet 0 = gp.subnet 0)
    (haddr : ∀ j, j ≠ i → gp'.configTables.addrTable j = gp.configTables.addrTable j)
    (hext : gp'.extended = gp.extended) :
    gp'.ipSlot = Function.update gp.ipSlot (.group i) ((gp'.groupId i).map groupAddr) := by
  funext slot
  cases slot with
  | domain => rfl
  | subnet => rw [Function.update_of_ne IpSlot.noConfusion, ipSlot, ipSlot, hsubnet]
  | group j =>
    by_cases hj : j = i
    case pos => rw [hj, Function.update_self, ipSlot, hext, if_pos hi]
    case neg =>
      rw [Function.update_of_ne fun h => hj (IpSlot.group.inj h), ipSlot, ipSlot, hext, groupId_eq,
        groupId_eq, haddr j hj]

theorem ipSlot_congr (htables : gp'.configTables = gp.configTables)
    (hext : gp'.extended = gp.extended) : gp'.ipSlot = gp.ipSlot := by
  have hsubnet : subnetSlot (gp'.subnet 0) = gp.ipSlot .subnet := by
    rw [ipSlot, subnet_zero, subnet_zero, htables]
  rw [ipSlot_setSubnet (by rw [htables]) hext, hsubnet, Function.update_eq_self]

end AppData

namespace IpNode

variable {n n' : IpNode}

def InStep (n : IpNode) : Prop := n.members = n.gp.ipAddresses

theorem inStep_iff : n.InStep ↔ Mirrors n.members n.gp.ipSlot :=
  ⟨fun h => h ▸ n.gp.mirrors_ipAddresses, fun h => h.unique n.gp.mirrors_ipAddresses⟩

theorem inStep_congr (hm : n'.members = n.members) (hslot : n'.gp.ipSlot = n.gp.ipSlot) :
    n'.InStep ↔ n.InStep := by rw [inStep_iff, inStep_iff, hm, hslot]

section

variable (h : n.InStep)

include h

theorem inStep_subnet_iff (hm : n'.members = n.members)
    (hslot : n'.gp.ipSlot = Function.update n.gp.ipSlot .subnet (subnetSlot (n'.gp.subnet 0))) :
    n'.InStep ↔ n.gp.subnet 0 = n'.gp.subnet 0 := by
  rw [inStep_iff, hm, hslot, (inStep_iff.mp h).update_iff]
  constructor
  · rintro ⟨hkept, hnamed⟩
    by_cases hold : n.gp.subnet 0 = 0
    case pos =>
      by_contra hne
      have hnew : n'.gp.subnet 0 ≠ 0 := fun hnew => hne (hold.trans hnew.symm)
      obtain ⟨slot, hslot⟩ := hnamed _ (if_neg hnew)
      exact (AppData.ipSlot_eq_subnetAddr_iff.mp hslot).elim (fun h => hnew h.2) fun h => hne h.2.2
    case neg =>
      by_contra hne
      obtain ⟨slot, hother, hslot⟩ := hkept (subnetAddr (n.gp.subnet 0)) (if_neg hold)
        fun h => hne (AppData.subnetSlot_eq_some_iff.mp h).2.symm
      exact (AppData.ipSlot_eq_subnetAddr_iff.mp hslot).elim (fun h => hold h.2) fun h => hother h.1
  · intro hsame
    rw [← hsame]
    exact ⟨fun c hc hne => absurd hc hne, fun c hc => ⟨.subnet, hc⟩⟩

theorem inStep_changeSubnet_iff (hm : n'.members = n.members)
    (hslot : n'.gp.ipSlot = Function.update n.gp.ipSlot .subnet (subnetSlot (n'.gp.subnet 0))) :
    (n'.changeSubnet (n.gp.subnet 0) (n'.gp.subnet 0)).InStep ↔
      n.gp.subnet 0 = n'.gp.subnet 0 ∨ n.gp.subnet 0 ≠ 0 ∧ n'.gp.subnet 0 ≠ 0 := by
  rw [changeSubnet]
  by_cases hchange : n'.gp.subnet 0 ≠ 0 ∧ n.gp.subnet 0 ≠ n'.gp.subnet 0
  case pos =>
    obtain ⟨hnew, hne⟩ := hchange
    rw [if_pos ⟨hnew, hne⟩, inStep_iff]
    change Mirrors (insert _ (n'.members.erase _)) n'.gp.ipSlot ↔ _
    rw [hm, hslot, subnetSlot, if_neg hnew,
      (inStep_iff.mp h).replace_iff fun heq => hne (subnetAddr_inj.mp heq)]
    constructor
    · rintro ⟨hother, _⟩
      exact .inr ⟨fun hold => hother .domain IpSlot.noConfusion (by rw [hold]; rfl), hnew⟩
    · intro hkeep
      have hold : n.gp.subnet 0 ≠ 0 := hkeep.elim (fun h => absurd h hne) And.left
      refine ⟨fun slot hslot heq => ?_, fun c hc _ hcb => ?_⟩
      · exact (AppData.ipSlot_eq_subnetAddr_iff.mp heq).elim (fun h => hold h.2) fun h => hslot h.1
      · rw [AppData.ipSlot, subnetSlot, if_neg hold] at hc
        exact absurd (Option.some.inj hc).symm hcb
  case neg =>
    rw [if_neg hchange, inStep_subnet_iff h hm hslot]
    refine ⟨.inl, fun hkeep => hkeep.elim id fun hkeep => ?_⟩
    by_contra hne
    exact hchange ⟨hkeep.2, hne⟩

variable {i : Fin NUM_ADDR_TBL_ENTRIES}

theorem inStep_group_iff (hm : n'.members = n.members)
    (hslot : n'.gp.ipSlot =
      Function.update n.gp.ipSlot (.group i) ((n'.gp.groupId i).map groupAddr))
    (hi : i < n.gp.extended) :
    n'.InStep ↔
      (∀ g, n.gp.groupId i = some g → n'.gp.groupId i ≠ some g → n.gp.Shares i g) ∧
        ∀ g, n'.gp.groupId i = some g → n.gp.groupId i = some g ∨ n.gp.Shares i g := by
  have hmap (o : Option UInt8) (g : UInt8) : o.map groupAddr = some (groupAddr g) ↔ o = some g := by
    rw [Option.map_eq_some_iff]
    exact ⟨fun ⟨_, ho, heq⟩ => groupAddr_inj.mp heq ▸ ho, fun ho => ⟨g, ho, rfl⟩⟩
  rw [inStep_iff, hm, hslot, (inStep_iff.mp h).update_iff]
  refine and_congr ?_ ?_
  · constructor
    · intro hkept g hg hne
      exact (AppData.exists_ipSlot_iff n.extended_le).mp
        (hkept _ (AppData.ipSlot_group_eq_some_iff.mpr ⟨hi, g, hg, rfl⟩)
          fun heq => hne ((hmap _ g).mp heq))
    · intro hkept c hc hne
      obtain ⟨_, g, hg, rfl⟩ := AppData.ipSlot_group_eq_some_iff.mp hc
      exact (AppData.exists_ipSlot_iff n.extended_le).mpr
        (hkept g hg fun heq => hne ((hmap _ g).mpr heq))
  · constructor
    · intro hnamed g hg
      obtain ⟨slot, hslot⟩ := hnamed _ ((hmap _ g).mpr hg)
      by_cases hself : slot = .group i
      case pos =>
        obtain ⟨_, g', hg', heq⟩ := AppData.ipSlot_group_eq_some_iff.mp (hself ▸ hslot)
        exact .inl (groupAddr_inj.mp heq ▸ hg')
      case neg => exact .inr ((AppData.exists_ipSlot_iff n.extended_le).mp ⟨slot, hself, hslot⟩)
    · intro hnamed c hc
      obtain ⟨g, hg, rfl⟩ := Option.map_eq_some_iff.mp hc
      cases hnamed g hg with
      | inl hold => exact ⟨.group i, AppData.ipSlot_group_eq_some_iff.mpr ⟨hi, g, hold, rfl⟩⟩
      | inr hshares =>
        obtain ⟨slot, _, hslot⟩ := (AppData.exists_ipSlot_iff n.extended_le).mpr hshares
        exact ⟨slot, hslot⟩

theorem inStep_replaceGroup_iff {g g' : UInt8}
    (hm : n'.members = insert (groupAddr g') (n.members.erase (groupAddr g)))
    (hslot : n'.gp.ipSlot = Function.update n.gp.ipSlot (.group i) (some (groupAddr g')))
    (hne : g ≠ g') (hold : ∀ x, n.gp.groupId i = some x → x = g) :
    n'.InStep ↔ ¬n.gp.Shares i g := by
  rw [inStep_iff, hm, hslot, (inStep_iff.mp h).replace_iff fun heq => hne (groupAddr_inj.mp heq),
    ← AppData.exists_ipSlot_iff n.extended_le]
  constructor
  · rintro ⟨hother, _⟩ ⟨slot, hslot, heq⟩
    exact hother slot hslot heq
  · intro hshares
    refine ⟨fun slot hslot heq => hshares ⟨slot, hslot, heq⟩, fun c hc _ hcb => ?_⟩
    obtain ⟨_, x, hx, rfl⟩ := AppData.ipSlot_group_eq_some_iff.mp hc
    exact absurd (congrArg groupAddr (hold x hx)) hcb

theorem inStep_insertGroup {g' : UInt8} (hm : n'.members = insert (groupAddr g') n.members)
    (hslot : n'.gp.ipSlot = Function.update n.gp.ipSlot (.group i) (some (groupAddr g')))
    (hold : n.gp.groupId i = none) : n'.InStep := by
  rw [inStep_iff, hm, hslot, (inStep_iff.mp h).insert_iff]
  intro c hc
  obtain ⟨_, x, hx, _⟩ := AppData.ipSlot_group_eq_some_iff.mp hc
  exact absurd (hx.symm.trans hold) (Option.some_ne_none x)

end

end IpNode

end LonStack
