import Mathlib.Algebra.Ring.Nat
import LonStack.LonUdp.Mapping

namespace LonStack.LonUdp

open Lib

def subnetBit (pSubnets : Vector UInt8 32) (i : Fin 32) (j : Nat) : Bool :=
  pSubnets.get i &&& (0x80 >>> UInt8.ofNat j) != 0

theorem div_eight_lt (subnet : UInt8) : subnet.toNat / 8 < 32 := by
  have := subnet.toNat_lt
  omega

def hasSubnet (pSubnets : Vector UInt8 32) (subnet : UInt8) : Bool :=
  subnetBit pSubnets ⟨subnet.toNat / 8, div_eight_lt subnet⟩ (subnet.toNat % 8)

def announcedSubnets (pSubnets : Vector UInt8 32) : List Nat :=
  (List.finRange 32).flatMap fun i =>
    ((List.range 8).filter (subnetBit pSubnets i)).map fun j => i.val * 8 + j

theorem mem_announcedSubnets_iff {pSubnets : Vector UInt8 32} {subnet : UInt8} :
    subnet.toNat ∈ announcedSubnets pSubnets ↔ hasSubnet pSubnets subnet = true := by
  have hlt := subnet.toNat_lt
  unfold announcedSubnets hasSubnet
  simp only [List.mem_flatMap, List.mem_finRange, List.mem_map, List.mem_filter, List.mem_range,
    true_and]
  constructor
  · rintro ⟨i, j, ⟨hj, hbit⟩, heq⟩
    have hi : (⟨subnet.toNat / 8, by omega⟩ : Fin 32) = i := Fin.ext (by dsimp only; omega)
    have hj' : subnet.toNat % 8 = j := by omega
    rw [hi, hj', hbit]
  · intro hbit
    exact ⟨_, _, ⟨by omega, hbit⟩, by dsimp only; omega⟩

def announcedState (set : Bool) : LsMapState := if set then .derived else .available

namespace LsMappingInfo

def inDomain (e : LsMappingInfo) (domainId : DomainId) (domainLen : Nat) : Bool :=
  e.domainLen == comparedLen domainLen &&
    e.domainId.toList.take (comparedLen domainLen) == domainId.toList.take (comparedLen domainLen)

end LsMappingInfo

namespace AddressMap

variable (m : AddressMap) (set : Bool) (pSubnets : Vector UInt8 32) (domainId : DomainId)
  (domainLen : Nat)

structure Announced (k : Nat) : Prop where
  lt : k < m.numMapEntries
  inUse : (m.lsMapInfo k).inUse = true
  inDomain : (m.lsMapInfo k).inDomain domainId domainLen = true
  hasSubnet : hasSubnet pSubnets (m.lsMapInfo k).subnetId = true

structure SetsAnnounced (m' : AddressMap) : Prop where
  numMapEntries : m'.numMapEntries = m.numMapEntries
  announced : ∀ k, m.Announced pSubnets domainId domainLen k →
    m'.lsMapInfo k = { m.lsMapInfo k with state := announcedState set }
  others : ∀ k, ¬m.Announced pSubnets domainId domainLen k → m'.lsMapInfo k = m.lsMapInfo k

def FirstOfSubnet (k : Nat) : Prop := ∀ j < k, (m.lsMapInfo j).subnetId ≠ (m.lsMapInfo k).subnetId

def Reached (l : List Nat) (k : Nat) : Prop :=
  k < m.numMapEntries ∧ m.FirstOfSubnet k ∧ (m.lsMapInfo k).subnetId.toNat ∈ l

structure SetsReached (l : List Nat) (m' : AddressMap) : Prop where
  numMapEntries : m'.numMapEntries = m.numMapEntries
  reached : ∀ k, m.Reached l k →
    m'.lsMapInfo k = { m.lsMapInfo k with state := announcedState set }
  others : ∀ k, ¬m.Reached l k → m'.lsMapInfo k = m.lsMapInfo k

variable {m set pSubnets domainId domainLen} {m' m'' : AddressMap} {l : List Nat} {k s : Nat}

theorem SetsReached.subnetId (h : m.SetsReached set l m') (k : Nat) :
    (m'.lsMapInfo k).subnetId = (m.lsMapInfo k).subnetId := by
  by_cases hk : m.Reached l k
  case pos => rw [h.reached k hk]
  case neg => rw [h.others k hk]

theorem SetsReached.reached_iff (h : m.SetsReached set l m') {l' : List Nat} :
    m'.Reached l' k ↔ m.Reached l' k := by
  unfold Reached FirstOfSubnet
  simp only [h.subnetId, h.numMapEntries]

theorem reached_cons_iff : m.Reached (s :: l) k ↔ m.Reached [s] k ∨ m.Reached l k := by
  unfold Reached
  rw [List.mem_cons, List.mem_singleton, and_or_left, and_or_left]

theorem reached_singleton_iff :
    m.Reached [s] k ↔
      (List.range m.numMapEntries).find? (fun k => (m.lsMapInfo k).subnetId.toNat == s) =
        some k := by
  unfold Reached FirstOfSubnet
  rw [List.find?_range_eq_some, List.mem_range, beq_iff_eq, List.mem_singleton]
  simp only [Bool.not_eq_true', beq_eq_false_iff_ne]
  constructor
  · rintro ⟨hlt, hfirst, rfl⟩
    exact ⟨rfl, hlt, fun j hj heq => hfirst j hj (UInt8.toNat_inj.mp heq)⟩
  · rintro ⟨rfl, hlt, hfirst⟩
    exact ⟨hlt, fun j hj heq => hfirst j hj (congrArg UInt8.toNat heq), rfl⟩

theorem setsReached_nil : m.SetsReached set [] m where
  numMapEntries := rfl
  reached _ h := absurd h.2.2 List.not_mem_nil
  others _ _ := rfl

theorem setsReached_setDerivedSubnet : m.SetsReached set [s] (m.setDerivedSubnet set s) := by
  unfold setDerivedSubnet
  split
  case h_1 k hk =>
    refine ⟨rfl, fun j hj => ?_, fun j hj => ?_⟩
    · have hjk : j = k := Option.some.inj ((reached_singleton_iff.mp hj).symm.trans hk)
      rw [hjk]
      exact Function.update_self _ _ _
    · refine Function.update_of_ne ?_ _ _
      rintro rfl
      exact hj (reached_singleton_iff.mpr hk)
  case h_2 hnone =>
    refine ⟨rfl, fun j hj => ?_, fun _ _ => rfl⟩
    exact absurd ((reached_singleton_iff.mp hj).symm.trans hnone) (Option.some_ne_none j)

theorem SetsReached.cons (h : m.SetsReached set [s] m') (h' : m'.SetsReached set l m'') :
    m.SetsReached set (s :: l) m'' where
  numMapEntries := h'.numMapEntries.trans h.numMapEntries
  reached k hk := by
    by_cases hl : m.Reached l k
    case pos =>
      rw [h'.reached k (h.reached_iff.mpr hl)]
      by_cases hs : m.Reached [s] k
      case pos => rw [h.reached k hs]
      case neg => rw [h.others k hs]
    case neg =>
      have hs : m.Reached [s] k := (reached_cons_iff.mp hk).resolve_right hl
      rw [h'.others k (mt h.reached_iff.mp hl), h.reached k hs]
  others k hk := by
    rw [reached_cons_iff, not_or] at hk
    rw [h'.others k (mt h.reached_iff.mp hk.2), h.others k hk.1]

theorem setsReached_foldl (l : List Nat) (m : AddressMap) :
    m.SetsReached set l (l.foldl (fun m s => m.setDerivedSubnet set s) m) := by
  induction l generalizing m with
  | nil => exact setsReached_nil
  | cons s l ih => exact setsReached_setDerivedSubnet.cons (ih _)

theorem setDerivedSubnetsMapping_eq :
    m.setDerivedSubnetsMapping set pSubnets =
      (announcedSubnets pSubnets).foldl (fun m s => m.setDerivedSubnet set s) m := by
  unfold setDerivedSubnetsMapping announcedSubnets
  rw [List.foldl_flatMap]
  congr 1
  funext m i
  rw [List.foldl_map, List.foldl_filter]
  simp only [subnetBit, bne_iff_ne]
  rfl

theorem setsReached_setDerivedSubnetsMapping :
    m.SetsReached set (announcedSubnets pSubnets) (m.setDerivedSubnetsMapping set pSubnets) := by
  rw [setDerivedSubnetsMapping_eq]
  exact setsReached_foldl _ m

theorem reached_announcedSubnets_iff :
    m.Reached (announcedSubnets pSubnets) k ↔
      k < m.numMapEntries ∧ m.FirstOfSubnet k ∧
        hasSubnet pSubnets (m.lsMapInfo k).subnetId = true := by
  unfold Reached
  rw [mem_announcedSubnets_iff]

theorem setState_eq_iff {e : LsMappingInfo} {state : LsMapState} :
    { e with state := state } = e ↔ e.state = state :=
  ⟨fun h => (congrArg LsMappingInfo.state h).symm, fun h => by rw [← h]⟩

/-- An announcement sets the right entries exactly when the first entry of each announced subnet,
and no other one, is a node of the domain, the entries that already have the state apart. -/
theorem setsAnnounced_iff (m : AddressMap) (domainId : DomainId) (domainLen : Nat) (set : Bool)
    (pSubnets : Vector UInt8 32) :
    m.SetsAnnounced set pSubnets domainId domainLen (m.setDerivedSubnetsMapping set pSubnets) ↔
      ∀ k < m.numMapEntries, hasSubnet pSubnets (m.lsMapInfo k).subnetId = true →
        (m.lsMapInfo k).state ≠ announcedState set →
          (m.FirstOfSubnet k ↔
            (m.lsMapInfo k).inUse = true ∧ (m.lsMapInfo k).inDomain domainId domainLen = true) := by
  have hset : m.SetsReached set (announcedSubnets pSubnets)
      (m.setDerivedSubnetsMapping set pSubnets) := setsReached_setDerivedSubnetsMapping
  constructor
  · intro hsets k hk hsubnet hstate
    have hann : m.Announced pSubnets domainId domainLen k ↔
        (m.lsMapInfo k).inUse = true ∧ (m.lsMapInfo k).inDomain domainId domainLen = true :=
      ⟨fun h => ⟨h.inUse, h.inDomain⟩, fun h => ⟨hk, h.1, h.2, hsubnet⟩⟩
    rw [← hann]
    constructor
    · intro hfirst
      by_contra hno
      have hreached := hset.reached k (reached_announcedSubnets_iff.mpr ⟨hk, hfirst, hsubnet⟩)
      exact hstate (setState_eq_iff.mp (hreached.symm.trans (hsets.others k hno)))
    · intro hyes
      by_contra hno
      have hother := hset.others k fun h => hno (reached_announcedSubnets_iff.mp h).2.1
      exact hstate (setState_eq_iff.mp ((hsets.announced k hyes).symm.trans hother))
  · intro hall
    refine ⟨hset.numMapEntries, fun k hk => ?_, fun k hk => ?_⟩
    · by_cases hreached : m.Reached (announcedSubnets pSubnets) k
      case pos => exact hset.reached k hreached
      case neg =>
        rw [hset.others k hreached]
        refine (setState_eq_iff.mpr ?_).symm
        by_contra hstate
        have hfirst := (hall k hk.lt hk.hasSubnet hstate).mpr ⟨hk.inUse, hk.inDomain⟩
        exact hreached (reached_announcedSubnets_iff.mpr ⟨hk.lt, hfirst, hk.hasSubnet⟩)
    · by_cases hreached : m.Reached (announcedSubnets pSubnets) k
      case pos =>
        rw [hset.reached k hreached]
        refine setState_eq_iff.mpr ?_
        by_contra hstate
        obtain ⟨hlt, hfirst, hsubnet⟩ := reached_announcedSubnets_iff.mp hreached
        obtain ⟨huse, hdomain⟩ := (hall k hlt hsubnet hstate).mp hfirst
        exact hk ⟨hlt, huse, hdomain, hsubnet⟩
      case neg => exact hset.others k hreached

theorem one_le_maxInfo : 1 ≤ MAX_LS_MAP_INFO := by decide

def oneNode : AddressMap :=
  ⟨fun _ => { (default : LsMappingInfo) with state := .arbitrary, subnetId := 1, nodeId := 2 }, 1,
    one_le_maxInfo⟩

theorem not_setsAnnounced_domain :
    ¬∀ (m : AddressMap) (domainId : DomainId) (domainLen : Nat) (set : Bool)
      (pSubnets : Vector UInt8 32),
        m.SetsAnnounced set pSubnets domainId domainLen
          (m.setDerivedSubnetsMapping set pSubnets) := by
  intro hall
  have hsets := hall oneNode default 1 true (.replicate 32 0xFF)
  have hother := hsets.others 0 fun h => absurd h.inDomain (by decide)
  have hfirst : oneNode.Reached (announcedSubnets (.replicate 32 0xFF)) 0 :=
    reached_announcedSubnets_iff.mpr
      ⟨by decide, fun j hj => absurd hj (Nat.not_lt_zero j), by decide⟩
  have hreached := (@setsReached_setDerivedSubnetsMapping _ true _).reached 0 hfirst
  exact absurd (congrArg LsMappingInfo.state (hreached.symm.trans hother)) (by decide)

end AddressMap

end LonStack.LonUdp
