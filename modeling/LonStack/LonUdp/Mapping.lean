import Mathlib.Data.List.Basic
import LonStack.Lib.Run
import LonStack.Lib.Table
import LonStack.Types

namespace LonStack.LonUdp

open Lib

abbrev MAX_LS_MAP_INFO : Nat := 50
abbrev NODE_ID_MASK : UInt8 := 0x7F

abbrev IpAddress := Vector UInt8 4

inductive LsMapState
  | available
  | derived
  | arbitrary
  deriving DecidableEq, Repr, Inhabited

structure LsMappingInfo where
  state : LsMapState
  domainId : DomainId
  domainLen : Nat
  subnetId : UInt8
  nodeId : UInt8
  ageCount : UInt8
  arbitraryIdAddress : IpAddress
  deriving DecidableEq, Repr, Inhabited

structure LsAddress where
  domainId : DomainId
  domainLen : Nat
  subnetId : UInt8
  nodeId : UInt8
  deriving DecidableEq, Repr, Inhabited

/-- Entries from `numMapEntries` on are not looked at; they hold what they held before. -/
structure AddressMap where
  lsMapInfo : Nat → LsMappingInfo
  numMapEntries : Nat
  num_le : numMapEntries ≤ MAX_LS_MAP_INFO

/-- Only the first two bytes of a domain of three are compared. -/
def comparedLen (domainLen : Nat) : Nat := if domainLen = 3 then 2 else domainLen

def LsMappingInfo.matches (e : LsMappingInfo) (a : LsAddress) : Bool :=
  e.state != .available && e.domainLen == comparedLen a.domainLen &&
    e.domainId.toList.take (comparedLen a.domainLen) ==
      a.domainId.toList.take (comparedLen a.domainLen) &&
    e.subnetId == a.subnetId && e.nodeId == a.nodeId &&& NODE_ID_MASK

def LsAddress.info (a : LsAddress) : LsMappingInfo where
  state := .available
  domainId := Vector.ofFn fun i => if i < comparedLen a.domainLen then a.domainId.get i else 0
  domainLen := comparedLen a.domainLen
  subnetId := a.subnetId
  nodeId := a.nodeId &&& NODE_ID_MASK
  ageCount := 0
  arbitraryIdAddress := default

namespace AddressMap

def findMappingInfo (m : AddressMap) (a : LsAddress) : Option Nat :=
  (List.range m.numMapEntries).find? fun i => (m.lsMapInfo i).matches a

/-- The first available entry is used; if there is none the map grows, and a map that is full
starts over. -/
def findAvailMappingInfo (m : AddressMap) (a : LsAddress) : AddressMap × Nat :=
  match (List.range m.numMapEntries).find? fun i => (m.lsMapInfo i).state == .available with
  | some i => ({ m with lsMapInfo := Function.update m.lsMapInfo i a.info }, i)
  | none =>
    if h : MAX_LS_MAP_INFO ≤ m.numMapEntries then
      (⟨Function.update m.lsMapInfo 0 a.info, 1, by decide⟩, 0)
    else
      (⟨Function.update m.lsMapInfo m.numMapEntries a.info, m.numMapEntries + 1, by omega⟩,
        m.numMapEntries)

def findOrAdd (m : AddressMap) (a : LsAddress) : AddressMap × Nat :=
  match m.findMappingInfo a with
  | some i => (m, i)
  | none => m.findAvailMappingInfo a

def modifyInfo (m : AddressMap) (i : Nat) (f : LsMappingInfo → LsMappingInfo) : AddressMap :=
  { m with lsMapInfo := Function.update m.lsMapInfo i (f (m.lsMapInfo i)) }

def setInfo (m : AddressMap) (a : LsAddress) (f : LsMappingInfo → LsMappingInfo) : AddressMap :=
  (m.findOrAdd a).1.modifyInfo (m.findOrAdd a).2 f

def setArbitraryAddressMapping (m : AddressMap) (pArbitraryIpAddr : IpAddress) (a : LsAddress) :
    AddressMap :=
  m.setInfo a fun e =>
    { e with state := .arbitrary, arbitraryIdAddress := pArbitraryIpAddr, ageCount := 0 }

def setDerivedAddressMapping (m : AddressMap) (a : LsAddress) : AddressMap :=
  m.setInfo a fun e =>
    { e with state := .derived, ageCount := 0 }

def isDerived (a : LsAddress) (addr : IpAddress) : Bool :=
  addr[2] == a.subnetId && addr[3] == a.nodeId &&
    (a.domainLen == 0 && addr[0] == 0xC0 && addr[1] == 0xA8 ||
      a.domainLen == 1 && addr[0] == 0x0A ||
      a.domainLen == 3 && addr[0] == a.domainId[0] && addr[1] == a.domainId[1])

def updateMapping (m : AddressMap) (a : LsAddress) (addr : IpAddress) : AddressMap :=
  m.setInfo a fun e =>
    { e with
      state := if isDerived a addr then .derived else .arbitrary
      arbitraryIdAddress := addr
      ageCount := 0 }

/-- Only the first entry of a subnet is set or cleared, whatever its state is. -/
def setDerivedSubnet (m : AddressMap) (set : Bool) (subnet : Nat) : AddressMap :=
  match (List.range m.numMapEntries).find? fun k => (m.lsMapInfo k).subnetId.toNat == subnet with
  | some k => m.modifyInfo k fun e => { e with state := if set then .derived else .available }
  | none => m

def setDerivedSubnetsMapping (m : AddressMap) (set : Bool) (pSubnets : Vector UInt8 32) :
    AddressMap :=
  (List.finRange 32).foldl
    (fun m (i : Fin 32) =>
      (List.range 8).foldl
        (fun m j =>
          if pSubnets[i] &&& (0x80 >>> UInt8.ofNat j) ≠ 0 then m.setDerivedSubnet set (i.val * 8 + j)
          else m) m) m

def clearMapping (m : AddressMap) : AddressMap :=
  { m with lsMapInfo := fun i => if i < m.numMapEntries then default else m.lsMapInfo i }

end AddressMap

inductive MapCall
  | setArbitraryAddressMapping : IpAddress → LsAddress → MapCall
  | setDerivedAddressMapping : LsAddress → MapCall
  | updateMapping : LsAddress → IpAddress → MapCall
  | setDerivedSubnetsMapping : Bool → Vector UInt8 32 → MapCall
  | clearMapping

def MapCall.apply : MapCall → AddressMap → AddressMap
  | .setArbitraryAddressMapping addr a, m => m.setArbitraryAddressMapping addr a
  | .setDerivedAddressMapping a, m => m.setDerivedAddressMapping a
  | .updateMapping a addr, m => m.updateMapping a addr
  | .setDerivedSubnetsMapping set pSubnets, m => m.setDerivedSubnetsMapping set pSubnets
  | .clearMapping, m => m.clearMapping

structure LsKey where
  domainLen : Nat
  domainId : List UInt8
  subnetId : UInt8
  nodeId : UInt8
  deriving DecidableEq

def LsAddress.key (a : LsAddress) : LsKey where
  domainLen := comparedLen a.domainLen
  domainId := a.domainId.toList.take (comparedLen a.domainLen)
  subnetId := a.subnetId
  nodeId := a.nodeId &&& NODE_ID_MASK

namespace LsMappingInfo

def key (e : LsMappingInfo) : LsKey where
  domainLen := e.domainLen
  domainId := e.domainId.toList.take e.domainLen
  subnetId := e.subnetId
  nodeId := e.nodeId

def inUse (e : LsMappingInfo) : Bool := e.state != .available

theorem matches_iff (e : LsMappingInfo) (a : LsAddress) :
    e.matches a = true ↔ e.inUse = true ∧ e.key = a.key := by
  simp only [LsMappingInfo.matches, inUse, key, LsAddress.key, Bool.and_eq_true, bne_iff_ne,
    beq_iff_eq, LsKey.mk.injEq]
  constructor
  · rintro ⟨⟨⟨⟨huse, hlen⟩, hid⟩, hsubnet⟩, hnode⟩
    exact ⟨huse, hlen, hlen ▸ hid, hsubnet, hnode⟩
  · rintro ⟨huse, hlen, hid, hsubnet, hnode⟩
    exact ⟨⟨⟨⟨huse, hlen⟩, hlen ▸ hid⟩, hsubnet⟩, hnode⟩

end LsMappingInfo

theorem LsAddress.key_info (a : LsAddress) : a.info.key = a.key := by
  simp only [LsMappingInfo.key, info, LsAddress.key, LsKey.mk.injEq, true_and, and_true]
  apply List.ext_getElem
  · simp
  · intro i hi hi'
    have hlt : i < comparedLen a.domainLen := by
      simp at hi
      omega
    simp only [Vector.toList_ofFn, List.getElem_take, List.getElem_ofFn, hlt, if_true]
    rfl

@[simp]
theorem LsAddress.inUse_info (a : LsAddress) : a.info.inUse = false := rfl

namespace AddressMap

def Functional (m : AddressMap) : Prop :=
  Shadowed LsMappingInfo.key LsMappingInfo.inUse m.lsMapInfo m.numMapEntries

structure Prepared (m : AddressMap) (a : LsAddress) (i : Nat) : Prop where
  functional : m.Functional
  lt : i < m.numMapEntries
  key : (m.lsMapInfo i).key = a.key
  before : ∀ j, j < i → (m.lsMapInfo j).key ≠ a.key
  behind : ∀ j, i < j → j < m.numMapEntries → (m.lsMapInfo j).key = a.key →
    (m.lsMapInfo j).inUse = false

variable {m : AddressMap} {a : LsAddress}

theorem prepared_of_found {i : Nat} (hm : m.Functional) (hi : m.findMappingInfo a = some i) :
    m.Prepared a i := by
  rw [findMappingInfo, List.find?_range_eq_some, List.mem_range, LsMappingInfo.matches_iff] at hi
  obtain ⟨⟨huse, hkey⟩, hlt, -⟩ := hi
  refine ⟨hm, hlt, hkey, fun j hj hj' => ?_, fun j hij hj hj' => hm i j hij hj (hkey.trans hj'.symm)⟩
  rw [hm j i hj hlt (hj'.trans hkey.symm)] at huse
  exact Bool.false_ne_true huse

theorem inUse_of_ne_available {e : LsMappingInfo} (h : (e.state == .available) = false) :
    e.inUse = true := by
  rw [LsMappingInfo.inUse, bne, h, Bool.not_false]

theorem prepared_findAvailMappingInfo (hm : m.Functional) (hnone : m.findMappingInfo a = none) :
    (m.findAvailMappingInfo a).1.Prepared a (m.findAvailMappingInfo a).2 := by
  have hdead (j : Nat) (hj : j < m.numMapEntries) (hkey : (m.lsMapInfo j).key = a.key) :
      (m.lsMapInfo j).inUse = false := by
    rw [findMappingInfo, List.find?_range_eq_none] at hnone
    have hj' := hnone j hj
    rw [Bool.not_eq_true', ← Bool.not_eq_true, LsMappingInfo.matches_iff, not_and'] at hj'
    exact Bool.eq_false_iff.mpr (hj' hkey)
  unfold findAvailMappingInfo
  split
  case h_1 i hi =>
    rw [List.find?_range_eq_some, List.mem_range] at hi
    obtain ⟨-, hlt, hfirst⟩ := hi
    have hbefore (j : Nat) (hj : j < i) : (m.lsMapInfo j).key ≠ a.key := by
      intro hkey
      have huse := inUse_of_ne_available (by simpa using hfirst j hj)
      rw [hdead j (by omega) hkey] at huse
      exact Bool.false_ne_true huse
    refine ⟨?_, hlt, ?_, fun j hj => ?_, fun j hij hj => ?_⟩
    · exact hm.update (fun j hj hj' => absurd (hj'.trans a.key_info) (hbefore j hj))
        fun j _ hj hj' => hdead j hj (hj'.symm.trans a.key_info)
    · dsimp only
      rw [Function.update_self, a.key_info]
    · dsimp only
      rw [Function.update_of_ne (by omega)]
      exact hbefore j hj
    · dsimp only at hj ⊢
      rw [Function.update_of_ne (by omega)]
      exact hdead j hj
  case h_2 hfull =>
    rw [List.find?_range_eq_none] at hfull
    split
    case isTrue =>
      refine ⟨(Shadowed.zero _ _ _).push fun j hj => by omega, by simp, ?_, by omega,
        fun j hj hj' => by dsimp only at hj'; omega⟩
      dsimp only
      rw [Function.update_self, a.key_info]
    case isFalse =>
      have hbefore (j : Nat) (hj : j < m.numMapEntries) : (m.lsMapInfo j).key ≠ a.key := by
        intro hkey
        have huse := inUse_of_ne_available (by simpa using hfull j hj)
        rw [hdead j hj hkey] at huse
        exact Bool.false_ne_true huse
      refine ⟨?_, by simp, ?_, fun j hj => ?_, fun j hj hj' => by dsimp only at hj hj'; omega⟩
      · exact hm.push fun j hj hj' => absurd (hj'.trans a.key_info) (hbefore j hj)
      · dsimp only
        rw [Function.update_self, a.key_info]
      · dsimp only at hj ⊢
        rw [Function.update_of_ne (by omega)]
        exact hbefore j hj

theorem prepared_findOrAdd (hm : m.Functional) (a : LsAddress) :
    (m.findOrAdd a).1.Prepared a (m.findOrAdd a).2 := by
  unfold findOrAdd
  split
  case h_1 i hi => exact prepared_of_found hm hi
  case h_2 hnone => exact prepared_findAvailMappingInfo hm hnone

def lookup (m : AddressMap) (a : LsAddress) : Option LsMappingInfo :=
  (m.findMappingInfo a).map m.lsMapInfo

theorem Prepared.set {i : Nat} (hp : m.Prepared a i) {f : LsMappingInfo → LsMappingInfo}
    (hkey : ∀ e, (f e).key = e.key) (huse : ∀ e, (f e).inUse = true) :
    (m.modifyInfo i f).Functional ∧ (m.modifyInfo i f).lookup a = some (f (m.lsMapInfo i)) := by
  constructor
  · refine hp.functional.update (fun j hj hj' => ?_) fun j hij hj hj' => ?_
    · exact absurd (hj'.trans ((hkey _).trans hp.key)) (hp.before j hj)
    · exact hp.behind j hij hj (hj'.symm.trans ((hkey _).trans hp.key))
  · have hfound : (m.modifyInfo i f).findMappingInfo a = some i := by
      rw [findMappingInfo, List.find?_range_eq_some, List.mem_range, LsMappingInfo.matches_iff]
      simp only [modifyInfo, Function.update_self]
      refine ⟨⟨huse _, (hkey _).trans hp.key⟩, hp.lt, fun j hj => ?_⟩
      rw [Function.update_of_ne (by omega), Bool.not_eq_true', ← Bool.not_eq_true,
        LsMappingInfo.matches_iff]
      exact fun h => hp.before j hj h.2
    rw [lookup, hfound, Option.map_some]
    simp only [modifyInfo, Function.update_self]

theorem functional_setInfo (hm : m.Functional) {f : LsMappingInfo → LsMappingInfo}
    (hkey : ∀ e, (f e).key = e.key) (huse : ∀ e, (f e).inUse = true) :
    (m.setInfo a f).Functional :=
  ((prepared_findOrAdd hm a).set hkey huse).1

theorem lookup_setInfo (hm : m.Functional) {f : LsMappingInfo → LsMappingInfo}
    (hkey : ∀ e, (f e).key = e.key) (huse : ∀ e, (f e).inUse = true) :
    ∃ e, (m.setInfo a f).lookup a = some (f e) :=
  ⟨_, ((prepared_findOrAdd hm a).set hkey huse).2⟩

theorem Functional.setDerivedSubnet (hm : m.Functional) (set : Bool) (subnet : Nat) :
    (m.setDerivedSubnet set subnet).Functional := by
  unfold AddressMap.setDerivedSubnet
  split
  case h_2 => exact hm
  case h_1 k hk =>
    rw [List.find?_range_eq_some, List.mem_range, beq_iff_eq] at hk
    obtain ⟨hsubnet, hlt, hfirst⟩ := hk
    refine Shadowed.update hm (fun j hj hj' => ?_) fun j hkj hj hj' => hm k j hkj hj hj'
    have hsame : (m.lsMapInfo j).subnetId = (m.lsMapInfo k).subnetId := congrArg LsKey.subnetId hj'
    have hne := hfirst j hj
    rw [hsame, hsubnet] at hne
    simp at hne

theorem Functional.setDerivedSubnetsMapping (hm : m.Functional) (set : Bool)
    (pSubnets : Vector UInt8 32) : (m.setDerivedSubnetsMapping set pSubnets).Functional := by
  unfold AddressMap.setDerivedSubnetsMapping
  refine List.foldlRecOn _ _ hm fun m hm i _ => ?_
  refine List.foldlRecOn _ _ hm fun m hm j _ => ?_
  split
  · exact hm.setDerivedSubnet set _
  · exact hm

theorem functional_clearMapping (m : AddressMap) : m.clearMapping.Functional := by
  refine Shadowed.dead fun j hj => ?_
  simp only [clearMapping, if_pos (show j < m.numMapEntries from hj)]
  rfl

end AddressMap

namespace MapCall

def sets : MapCall → Option (LsAddress × LsMapState × Option IpAddress)
  | .setArbitraryAddressMapping addr a => some (a, .arbitrary, some addr)
  | .setDerivedAddressMapping a => some (a, .derived, none)
  | .updateMapping a addr => some (a, if AddressMap.isDerived a addr then .derived else .arbitrary, some addr)
  | .setDerivedSubnetsMapping _ _ => none
  | .clearMapping => none

variable {m : AddressMap}

theorem functional_apply (hm : m.Functional) (c : MapCall) : (c.apply m).Functional := by
  cases c with
  | setArbitraryAddressMapping addr a =>
    exact AddressMap.functional_setInfo hm (fun _ => rfl) fun _ => rfl
  | setDerivedAddressMapping a =>
    exact AddressMap.functional_setInfo hm (fun _ => rfl) fun _ => rfl
  | updateMapping a addr =>
    refine AddressMap.functional_setInfo hm (fun _ => rfl) fun _ => ?_
    cases AddressMap.isDerived a addr <;> rfl
  | setDerivedSubnetsMapping set pSubnets => exact hm.setDerivedSubnetsMapping set pSubnets
  | clearMapping => exact m.functional_clearMapping

theorem lookup_apply (hm : m.Functional) {c : MapCall} {a : LsAddress} {state : LsMapState}
    {addr : Option IpAddress} (hc : c.sets = some (a, state, addr)) :
    ∃ e, (c.apply m).lookup a = some e ∧ e.state = state ∧
      ∀ ip, addr = some ip → e.arbitraryIdAddress = ip := by
  cases c with
  | setArbitraryAddressMapping ip a' =>
    obtain ⟨rfl, rfl, rfl⟩ : a' = a ∧ _ = state ∧ _ = addr := by simpa [sets] using hc
    obtain ⟨e, he⟩ := AddressMap.lookup_setInfo (m := m) (a := a') hm
      (f := fun e => { e with state := .arbitrary, arbitraryIdAddress := ip, ageCount := 0 })
      (fun _ => rfl) fun _ => rfl
    exact ⟨_, he, rfl, by simp⟩
  | setDerivedAddressMapping a' =>
    obtain ⟨rfl, rfl, rfl⟩ : a' = a ∧ _ = state ∧ _ = addr := by simpa [sets] using hc
    obtain ⟨e, he⟩ := AddressMap.lookup_setInfo (m := m) (a := a') hm
      (f := fun e => { e with state := .derived, ageCount := 0 }) (fun _ => rfl) fun _ => rfl
    exact ⟨_, he, rfl, by simp⟩
  | updateMapping a' ip =>
    obtain ⟨rfl, rfl, rfl⟩ : a' = a ∧ _ = state ∧ _ = addr := by simpa [sets] using hc
    obtain ⟨e, he⟩ := AddressMap.lookup_setInfo (m := m) (a := a') hm
      (f := fun e =>
        { e with
          state := if AddressMap.isDerived a' ip then .derived else .arbitrary
          arbitraryIdAddress := ip
          ageCount := 0 })
      (fun _ => rfl) fun _ => by cases AddressMap.isDerived a' ip <;> rfl
    exact ⟨_, he, rfl, by simp⟩
  | setDerivedSubnetsMapping | clearMapping => simp [sets] at hc

end MapCall

/-- In every state of the map at most one entry in use matches an address, and what a call sets for
an address is what the next search finds. -/
theorem address_map_is_function {m₀ m : AddressMap} {h : List (AddressMap × MapCall)}
    (hinit : m₀.numMapEntries = 0) (hrun : Run MapCall.apply m₀ h m) :
    m.numMapEntries ≤ MAX_LS_MAP_INFO ∧
      (∀ a i j, i < m.numMapEntries → j < m.numMapEntries → (m.lsMapInfo i).matches a = true →
        (m.lsMapInfo j).matches a = true → i = j) ∧
      ∀ c a state addr, MapCall.sets c = some (a, state, addr) →
        ∃ e, (c.apply m).lookup a = some e ∧ e.state = state ∧
          ∀ ip, addr = some ip → e.arbitraryIdAddress = ip := by
  have hm : m.Functional := hrun.invariant (I := AddressMap.Functional)
    (fun c _ _ hm => MapCall.functional_apply hm c) (show ∀ x ∈ h, True from fun _ _ => trivial)
    (by rw [AddressMap.Functional, hinit]; exact Shadowed.zero _ _ _)
  refine ⟨m.num_le, fun a i j hi hj hia hja => ?_, fun c a state addr hc =>
    MapCall.lookup_apply hm hc⟩
  rw [LsMappingInfo.matches_iff] at hia hja
  exact hm.distinct i j a.key hi hj (by simp [hia]) (by simp [hja])

def emptyMap : AddressMap := ⟨fun _ => default, 0, Nat.zero_le _⟩

def someAddress : LsAddress := ⟨#v[0x12, 0x34, 0, 0, 0, 0], 3, 1, 2⟩

def releasedMap : AddressMap :=
  (MapCall.setDerivedSubnetsMapping false (.replicate 32 0xFF)).apply
    ((MapCall.setArbitraryAddressMapping #v[10, 0, 0, 7] someAddress).apply emptyMap)

theorem address_map_is_function_released :
    ∃ e, ((MapCall.setDerivedAddressMapping someAddress).apply releasedMap).lookup someAddress =
      some e ∧ e.state = .derived := by
  have hrun : Run MapCall.apply emptyMap _ releasedMap := .next _ (.next _ .refl)
  obtain ⟨-, -, hsets⟩ := address_map_is_function rfl hrun
  obtain ⟨e, he, hstate, -⟩ := hsets (.setDerivedAddressMapping someAddress) _ _ _ rfl
  exact ⟨e, he, hstate⟩

end LonStack.LonUdp
