import LonStack.LonUdp.Following
import LonStack.LonUdp.Mapping

namespace LonStack

open Lib LonUdp

abbrev IPV4_LS_MC_ADDR_TYPE_BROADCAST : UInt8 := 0
abbrev IPV4_LS_MC_ADDR_TYPE_GROUP : UInt8 := 1

def ipv4_ls_multicast_prefix : Vector UInt8 2 := #v[0xEF, 0xC0]

def generateLonMulticastAddr (type subnetOrGroup : UInt8) : IpAddress :=
  ipv4_ls_multicast_prefix ++ #v[type, subnetOrGroup]

def networkOrder (addr : IpAddress) : UInt32 :=
  addr.foldl (fun n b => n <<< 8 ||| b.toUInt32) 0

theorem networkOrder_group (group : UInt8) :
    networkOrder (generateLonMulticastAddr IPV4_LS_MC_ADDR_TYPE_GROUP group) = groupAddr group :=
  forall_byte
    (P := fun g =>
      networkOrder (generateLonMulticastAddr IPV4_LS_MC_ADDR_TYPE_GROUP g) = groupAddr g)
    (by decide +kernel) group

theorem networkOrder_broadcast (subnet : UInt8) :
    networkOrder (generateLonMulticastAddr IPV4_LS_MC_ADDR_TYPE_BROADCAST subnet) =
      subnetAddr subnet :=
  forall_byte
    (P := fun s =>
      networkOrder (generateLonMulticastAddr IPV4_LS_MC_ADDR_TYPE_BROADCAST s) = subnetAddr s)
    (by decide +kernel) subnet

inductive AppData.Reaches (gp : AppData) : UInt32 → Prop
  | group {i : Nat} {g : UInt8} : i < gp.extended → gp.groupId i = some g → Reaches gp (groupAddr g)
  | domain : Reaches gp BROADCAST_PREFIX
  | subnet : gp.subnet 0 ≠ 0 → Reaches gp (subnetAddr (gp.subnet 0))

inductive AppData.SentTo (gp : AppData) : IpAddress → Prop
  | group {i : Nat} {g : UInt8} :
    i < gp.extended → gp.groupId i = some g →
      SentTo gp (generateLonMulticastAddr IPV4_LS_MC_ADDR_TYPE_GROUP g)
  | domain : SentTo gp (generateLonMulticastAddr IPV4_LS_MC_ADDR_TYPE_BROADCAST 0)
  | subnet :
    gp.subnet 0 ≠ 0 →
      SentTo gp (generateLonMulticastAddr IPV4_LS_MC_ADDR_TYPE_BROADCAST (gp.subnet 0))

theorem AppData.reaches_iff_sentTo {gp : AppData} {a : UInt32} :
    gp.Reaches a ↔ ∃ addr, gp.SentTo addr ∧ networkOrder addr = a := by
  constructor
  · intro h
    cases h with
    | group hi hg => exact ⟨_, .group hi hg, networkOrder_group _⟩
    | domain => exact ⟨_, .domain, (networkOrder_broadcast 0).trans subnetAddr_zero⟩
    | subnet hs => exact ⟨_, .subnet hs, networkOrder_broadcast _⟩
  · rintro ⟨addr, h, rfl⟩
    cases h with
    | group hi hg => exact networkOrder_group _ ▸ .group hi hg
    | domain => exact ((networkOrder_broadcast 0).trans subnetAddr_zero) ▸ .domain
    | subnet hs => exact networkOrder_broadcast _ ▸ .subnet hs

namespace IpNode

/-- The node listens to what reaches it and to nothing else, at the addresses that the packets are
sent to. -/
structure Joined (n : IpNode) : Prop where
  reaches : ∀ a, a ∈ n.members ↔ n.gp.Reaches a
  sentTo : ∀ a, a ∈ n.members ↔ ∃ addr, n.gp.SentTo addr ∧ networkOrder addr = a

variable {n : IpNode}

theorem mem_ipAddresses_iff_reaches {a : UInt32} : a ∈ n.gp.ipAddresses ↔ n.gp.Reaches a := by
  rw [mem_ipAddresses_iff]
  constructor
  · rintro (⟨g, hg, rfl⟩ | rfl | hs)
    · obtain ⟨i, hi, hg⟩ := AppData.mem_groups_iff.mp hg
      exact .group hi hg
    · exact .domain
    · rw [subnetSlot] at hs
      split at hs
      case isTrue => exact absurd hs.symm (Option.some_ne_none a)
      case isFalse hne => exact Option.some.inj hs ▸ .subnet hne
  · intro h
    cases h with
    | group hi hg => exact .inl ⟨_, AppData.mem_groups_iff.mpr ⟨_, hi, hg⟩, rfl⟩
    | domain => exact .inr (.inl rfl)
    | subnet hs => exact .inr (.inr (if_neg hs))

theorem joined_iff_inStep : n.Joined ↔ n.InStep := by
  rw [InStep, Finset.ext_iff]
  simp only [mem_ipAddresses_iff_reaches]
  refine ⟨fun h => h.reaches, fun h => ⟨h, fun a => ?_⟩⟩
  rw [h, AppData.reaches_iff_sentTo]

/-- The memberships that a start adds are right exactly when no group adds its bits to those of
another one behind it. -/
theorem boot_joined_iff (n : IpNode) :
    n.boot.Joined ↔ RepeatsOrAbsorbs (· ||| ·) n.gp.groups := by
  rw [joined_iff_inStep, boot_inStep_iff]

def twoGroups : IpNode where
  gp := ConfigCommand.zeroNode.setMem (ConfigCommand.zeroNode.mem.write
    (ConfigCommand.zeroNode.addrTable 0) [0x80, 0, 0, 0, 1, 0x80, 0, 0, 0, 2])
  members := ∅
  extended_le := by decide

theorem not_boot_joined : ¬∀ n : IpNode, n.boot.Joined := by
  intro hall
  have hgroup : twoGroups.gp.Reaches (groupAddr 2) := .group (i := 1) (by decide) (by decide)
  have hgroups : totals (· ||| ·) 0 twoGroups.gp.groups = [1, 3] := by decide
  have hmissed : groupAddr 2 ∉ twoGroups.boot.members := by
    rw [mem_boot_iff, hgroups]
    decide
  rw [(hall twoGroups).reaches, gp_boot] at hmissed
  exact hmissed hgroup

end IpNode

end LonStack
