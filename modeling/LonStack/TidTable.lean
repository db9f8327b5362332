import LonStack.Lib.Table
import LonStack.TcsLaws

namespace LonStack

open Lib

structure DestKey where
  len : Nat
  id : List UInt8
  addr : TidAddr
  deriving DecidableEq, Repr

def TIDTableEntry.key (e : TIDTableEntry) : Option DestKey :=
  if e.addr = .other then none else some ⟨e.len, e.domainId.toList.take e.len, e.addr⟩

def DestinationAddress.key (eep : Eeprom) (a : DestinationAddress) : Option DestKey :=
  if TidAddr.ofNetAddr a.addr = .other then none
  else
    some ⟨(a.domainIdLen eep).2, (a.domainIdLen eep).1.toList.take (a.domainIdLen eep).2,
      .ofNetAddr a.addr⟩

def DestinationAddress.InDomain (eep : Eeprom) (a : DestinationAddress) : Prop :=
  a.dmn.domainIndex = FLEX_DOMAIN ∨ (eep.domainTable a.dmn.domainIndex).invalid = false

theorem TIDTableEntry.matchesDomain_iff (eep : Eeprom) (a : DestinationAddress)
    (h : a.InDomain eep) (e : TIDTableEntry) :
    e.matchesDomain eep a.dmn = true ↔
      e.len = (a.domainIdLen eep).2 ∧
        e.domainId.toList.take e.len =
          (a.domainIdLen eep).1.toList.take (a.domainIdLen eep).2 := by
  unfold matchesDomain DestinationAddress.domainIdLen DomainId.cmp
  split
  case isTrue hflex =>
    rw [Bool.and_eq_true, beq_iff_eq, beq_iff_eq]
    constructor
    · rintro ⟨hlen, hid⟩
      exact ⟨hlen, by rw [hlen, hid]⟩
    · rintro ⟨hlen, hid⟩
      exact ⟨hlen, by rw [← hid, hlen]⟩
  case isFalse hflex =>
    have hvalid := h.resolve_left hflex
    rw [Bool.and_eq_true, Bool.and_eq_true, hvalid, beq_iff_eq, beq_iff_eq]
    constructor
    · rintro ⟨⟨-, hlen⟩, hid⟩
      exact ⟨hlen, by rw [hlen, hid]⟩
    · rintro ⟨hlen, hid⟩
      exact ⟨⟨rfl, hlen⟩, by rw [← hid, hlen]⟩

theorem TIDTableEntry.matchesAddr_iff (addr : NetAddr) (e : TIDTableEntry) :
    e.matchesAddr addr = true ↔ e.addr = .ofNetAddr addr ∧ e.addr ≠ .other := by
  cases addr <;> simp only [matchesAddr, TidAddr.ofNetAddr, beq_iff_eq] <;> grind

theorem TIDTableEntry.matches_iff (eep : Eeprom) (a : DestinationAddress) (h : a.InDomain eep)
    (e : TIDTableEntry) :
    (e.matchesDomain eep a.dmn && e.matchesAddr a.addr) = true ↔
      ∃ k, a.key eep = some k ∧ e.key = some k := by
  rw [Bool.and_eq_true, matchesDomain_iff eep a h, matchesAddr_iff]
  unfold DestinationAddress.key TIDTableEntry.key
  constructor
  · rintro ⟨⟨hlen, hid⟩, haddr, hother⟩
    refine ⟨_, if_neg (haddr ▸ hother), ?_⟩
    rw [if_neg hother, hid, haddr, hlen]
  · rintro ⟨k, hk, hek⟩
    split at hk
    · cases hk
    · split at hek
      · cases hek
      case isFalse hother =>
        rw [← hk] at hek
        simp only [Option.some.injEq, DestKey.mk.injEq] at hek
        exact ⟨⟨hek.1, hek.2.1⟩, hek.2.2, hother⟩

theorem DomainId.take_copy (dst src : DomainId) (len : Nat) :
    (DomainId.copy dst src len).toList.take len = src.toList.take len := by
  apply List.ext_getElem
  · simp
  · intro i hi hi'
    simp only [List.getElem_take, Vector.getElem_toList, DomainId.copy, Vector.getElem_ofFn]
    rw [if_pos (by simp at hi; exact hi.1)]
    rfl

namespace TransCtrl

variable {eep : Eeprom} {tickCount : UInt32} {a : DestinationAddress} {c : TransCtrl}

def KeysDistinct (c : TransCtrl) : Prop := Distinct TIDTableEntry.key c.tbl c.tblSize

/-- The table says that the last number used for `k` is `n`. -/
def LastTid (k : DestKey) (n : Nat) (c : TransCtrl) : Prop :=
  ∃ i < c.tblSize, (c.tbl i).key = some k ∧ (c.tbl i).tid = n

def replaced (eep : Eeprom) (tickCount : UInt32) (a : DestinationAddress) (c : TransCtrl) :
    Option Nat :=
  if c.inProgress then none
  else if (c.lookup eep a).isSome then none
  else if c.tblSize = TID_TABLE_SIZE then c.findExpired tickCount
  else none

theorem lookup_eq_some {i : Nat} (ha : a.InDomain eep) (h : c.lookup eep a = some i) :
    i < c.tblSize ∧ ∃ k, a.key eep = some k ∧ (c.tbl i).key = some k := by
  have hp := List.find?_some h
  have hmem := List.mem_of_find?_eq_some h
  rw [TIDTableEntry.matches_iff eep a ha] at hp
  exact ⟨List.mem_range.1 hmem, hp⟩

theorem lookup_eq_none (ha : a.InDomain eep) (h : c.lookup eep a = none) (k : DestKey)
    (hk : a.key eep = some k) (i : Nat) (hi : i < c.tblSize) : (c.tbl i).key ≠ some k := by
  intro hik
  have hnone := List.find?_eq_none.1 h i (List.mem_range.2 hi)
  exact hnone ((TIDTableEntry.matches_iff eep a ha _).2 ⟨k, hk, hik⟩)

theorem reuse_tbl (i : Nat) :
    (c.reuse tickCount i).tbl = Function.update c.tbl i
      { c.tbl i with
        tid := (c.bump i).transID
        timer := (c.tbl i).timer.set tickCount (UInt32.ofNat (MIN_TABLE_TIME * 1000)) } := by
  unfold reuse bump
  split <;> rfl

theorem reuse_tblSize (i : Nat) : (c.reuse tickCount i).tblSize = c.tblSize := by
  unfold reuse bump
  split <;> rfl

theorem KeysDistinct.reuse (h : c.KeysDistinct) (i : Nat) :
    (c.reuse tickCount i).KeysDistinct := by
  unfold KeysDistinct
  rw [reuse_tbl, reuse_tblSize]
  exact Distinct.update h rfl

theorem LastTid.reuse {k : DestKey} {n i : Nat} (h : LastTid k n c)
    (hi : (c.tbl i).key ≠ some k) : LastTid k n (c.reuse tickCount i) := by
  obtain ⟨j, hj, hkey, htid⟩ := h
  have hji : j ≠ i := fun heq => hi (heq ▸ hkey)
  refine ⟨j, by rw [reuse_tblSize]; exact hj, ?_, ?_⟩ <;>
    rw [reuse_tbl, Function.update_of_ne hji] <;> assumption

theorem lastTid_reuse {k : DestKey} {i : Nat} (hi : i < c.tblSize)
    (hkey : (c.tbl i).key = some k) :
    LastTid k (c.reuse tickCount i).transID (c.reuse tickCount i) := by
  refine ⟨i, by rw [reuse_tblSize]; exact hi, ?_, ?_⟩
  · rw [reuse_tbl, Function.update_self]
    exact hkey
  · rw [reuse_tbl, Function.update_self]
    rfl

def newEntry (eep : Eeprom) (tickCount : UInt32) (a : DestinationAddress) (c : TransCtrl) :
    TIDTableEntry where
  domainId := DomainId.copy (c.tbl c.tblSize).domainId (a.domainIdLen eep).1 (a.domainIdLen eep).2
  len := (a.domainIdLen eep).2
  addr := .ofNetAddr a.addr
  timer := (c.tbl c.tblSize).timer.set tickCount (UInt32.ofNat (MIN_TABLE_TIME * 1000))
  tid := c.transID

theorem newEntry_key : (c.newEntry eep tickCount a).key = a.key eep := by
  unfold TIDTableEntry.key DestinationAddress.key newEntry
  dsimp only
  rw [DomainId.take_copy]

theorem addEntry_tbl (i : Nat) (h : c.tblSize < TID_TABLE_SIZE)
    (hlen : i = c.tblSize ∨
      (c.tbl i).len = (a.domainIdLen eep).2 ∧ (c.tbl c.tblSize).len = (a.domainIdLen eep).2) :
    (c.addEntry eep tickCount a i h).tbl =
      Function.update c.tbl c.tblSize (c.newEntry eep tickCount a) := by
  funext j
  unfold addEntry newEntry
  dsimp only
  by_cases hi : i = c.tblSize
  · subst hi
    rw [Function.update_idem, Function.update_self]
  · obtain ⟨hleni, hlens⟩ := hlen.resolve_left hi
    rw [Function.update_of_ne hi, Function.update_comm (Ne.symm hi)]
    have hsame : { c.tbl i with len := (a.domainIdLen eep).2 } = c.tbl i := by rw [← hleni]
    rw [hsame, Function.update_eq_self, ← hlens]

theorem KeysDistinct.push {e : TIDTableEntry} {c' : TransCtrl} (h : c.KeysDistinct)
    (hnew : ∀ k, e.key = some k → ∀ i < c.tblSize, (c.tbl i).key ≠ some k)
    (htbl : c'.tbl = Function.update c.tbl c.tblSize e) (hsize : c'.tblSize = c.tblSize + 1) :
    c'.KeysDistinct := by
  unfold KeysDistinct
  rw [htbl, hsize]
  exact Distinct.push h hnew

theorem LastTid.push {k : DestKey} {n : Nat} {e : TIDTableEntry} {c' : TransCtrl}
    (h : LastTid k n c) (htbl : c'.tbl = Function.update c.tbl c.tblSize e)
    (hsize : c'.tblSize = c.tblSize + 1) : LastTid k n c' := by
  obtain ⟨j, hj, hkey, htid⟩ := h
  refine ⟨j, by omega, ?_, ?_⟩ <;> rw [htbl, Function.update_of_ne (by omega)] <;> assumption

theorem lastTid_push {k : DestKey} {e : TIDTableEntry} {c' : TransCtrl}
    (hkey : e.key = some k) (htbl : c'.tbl = Function.update c.tbl c.tblSize e)
    (hsize : c'.tblSize = c.tblSize + 1) : LastTid k e.tid c' := by
  refine ⟨c.tblSize, by omega, ?_, ?_⟩ <;> rw [htbl, Function.update_self]
  exact hkey

theorem KeysDistinct.evict (h : c.KeysDistinct) (hpos : 0 < c.tblSize) (i : Nat) :
    (c.evict i).KeysDistinct := by
  unfold KeysDistinct at h
  rw [show c.tblSize = c.tblSize - 1 + 1 by omega] at h
  exact Distinct.moveLast h i

theorem LastTid.evict {k : DestKey} {n i : Nat} (h : LastTid k n c) (hi : i < c.tblSize)
    (hne : (c.tbl i).key ≠ some k) : LastTid k n (c.evict i) := by
  obtain ⟨j, hj, hkey, htid⟩ := h
  have hji : j ≠ i := fun heq => hne (heq ▸ hkey)
  by_cases hlast : j = c.tblSize - 1
  · refine ⟨i, ?_, ?_, ?_⟩
    · change i < c.tblSize - 1
      omega
    · change (Function.update c.tbl i (c.tbl (c.tblSize - 1)) i).key = some k
      rw [Function.update_self, ← hlast, hkey]
    · change (Function.update c.tbl i (c.tbl (c.tblSize - 1)) i).tid = n
      rw [Function.update_self, ← hlast, htid]
  · refine ⟨j, ?_, ?_, ?_⟩
    · change j < c.tblSize - 1
      omega
    · change (Function.update c.tbl i (c.tbl (c.tblSize - 1)) j).key = some k
      rw [Function.update_of_ne hji, hkey]
    · change (Function.update c.tbl i (c.tbl (c.tblSize - 1)) j).tid = n
      rw [Function.update_of_ne hji, htid]

theorem not_mem_evict {k : DestKey} {i : Nat} (hi : i < c.tblSize)
    (hnew : ∀ j < c.tblSize, (c.tbl j).key ≠ some k) :
    ∀ j < (c.evict i).tblSize, ((c.evict i).tbl j).key ≠ some k := by
  intro j hj
  change j < c.tblSize - 1 at hj
  change (Function.update c.tbl i (c.tbl (c.tblSize - 1)) j).key ≠ some k
  by_cases hji : j = i
  · rw [hji, Function.update_self]
    exact hnew _ (by omega)
  · rw [Function.update_of_ne hji]
    exact hnew _ (by omega)

theorem evict_len {i len : Nat} (h : i = c.tblSize - 1 ∨ (c.tbl (c.tblSize - 1)).len = len) :
    i = (c.evict i).tblSize ∨
      ((c.evict i).tbl i).len = len ∧ ((c.evict i).tbl (c.evict i).tblSize).len = len := by
  change i = c.tblSize - 1 ∨
    (Function.update c.tbl i (c.tbl (c.tblSize - 1)) i).len = len ∧
      (Function.update c.tbl i (c.tbl (c.tblSize - 1)) (c.tblSize - 1)).len = len
  by_cases hlast : i = c.tblSize - 1
  · exact .inl hlast
  · have hlen := h.resolve_left hlast
    rw [Function.update_self, Function.update_of_ne (Ne.symm hlast)]
    exact .inr ⟨hlen, hlen⟩

def CleanReplace (eep : Eeprom) (tickCount : UInt32) (a : DestinationAddress) (c : TransCtrl) :
    Prop :=
  ∀ i, c.replaced eep tickCount a = some i →
    i = c.tblSize - 1 ∨ (c.tbl (c.tblSize - 1)).len = (a.domainIdLen eep).2

structure GrantSpec (eep : Eeprom) (tickCount : UInt32) (a : DestinationAddress)
    (c c' : TransCtrl) : Prop where
  distinct : c.KeysDistinct → c'.KeysDistinct
  last : ∀ k, a.key eep = some k → LastTid k c'.transNum c'
  fresh : ∀ k n, a.key eep = some k → c.KeysDistinct → LastTid k n c → c'.transNum ≠ n
  keeps : ∀ k n, a.key eep ≠ some k →
    (∀ i, c.replaced eep tickCount a = some i → (c.tbl i).key ≠ some k) →
    LastTid k n c → LastTid k n c'

theorem not_lastTid_of_lookup_eq_none (ha : a.InDomain eep) (h : c.lookup eep a = none)
    {k : DestKey} (hk : a.key eep = some k) (n : Nat) : ¬LastTid k n c := by
  rintro ⟨i, hi, hkey, -⟩
  exact lookup_eq_none ha h k hk i hi hkey

theorem grantSpec_reuse {i : Nat} (ha : a.InDomain eep) (hnum : c.transNum = c.transID)
    (h : c.lookup eep a = some i) : GrantSpec eep tickCount a c (c.reuse tickCount i) := by
  obtain ⟨hi, k, hk, hik⟩ := lookup_eq_some ha h
  obtain ⟨heq, -, hne⟩ := reuse_spec tickCount c i hnum
  refine ⟨fun hd => hd.reuse i, fun k' hk' => ?_, fun k' n hk' hd hl => ?_, fun k' n hk' _ hl => ?_⟩
  · rw [hk] at hk'
    cases hk'
    rw [heq]
    exact lastTid_reuse hi hik
  · rw [hk] at hk'
    cases hk'
    obtain ⟨j, hj, hjk, htid⟩ := hl
    have hji := hd j i k hj hi hjk hik
    rw [heq, ← htid, hji]
    exact hne
  · exact hl.reuse fun h' => hk' (hk.trans (hik ▸ h'))

theorem grantSpec_push {c' : TransCtrl} (ha : a.InDomain eep) (hnum : c.transNum = c.transID)
    (h : c.lookup eep a = none) (htbl : c'.tbl = Function.update c.tbl c.tblSize
      (c.newEntry eep tickCount a)) (hsize : c'.tblSize = c.tblSize + 1)
    (hnum' : c'.transNum = c.transNum) : GrantSpec eep tickCount a c c' := by
  refine ⟨fun hd => hd.push (fun k hk => ?_) htbl hsize, fun k hk => ?_, fun k n hk _ hl => ?_,
    fun k n _ _ hl => hl.push htbl hsize⟩
  · rw [newEntry_key] at hk
    exact lookup_eq_none ha h k hk
  · rw [hnum', hnum]
    exact lastTid_push (newEntry_key.trans hk) htbl hsize
  · exact absurd hl (not_lastTid_of_lookup_eq_none ha h hk n)

theorem grantSpec_replace {c' : TransCtrl} {i : Nat} (ha : a.InDomain eep)
    (hnum : c.transNum = c.transID) (h : c.lookup eep a = none) (hi : i < c.tblSize)
    (hrep : c.replaced eep tickCount a = some i)
    (htbl : c'.tbl = Function.update (c.evict i).tbl (c.evict i).tblSize
      ((c.evict i).newEntry eep tickCount a))
    (hsize : c'.tblSize = (c.evict i).tblSize + 1) (hnum' : c'.transNum = c.transNum) :
    GrantSpec eep tickCount a c c' := by
  refine ⟨fun hd => (hd.evict (by omega) i).push (fun k hk => ?_) htbl hsize, fun k hk => ?_,
    fun k n hk _ hl => ?_, fun k n _ hkept hl => (hl.evict hi (hkept i hrep)).push htbl hsize⟩
  · rw [newEntry_key] at hk
    exact not_mem_evict hi (lookup_eq_none ha h k hk)
  · rw [hnum', hnum]
    have hkey : ((c.evict i).newEntry eep tickCount a).key = some k := newEntry_key.trans hk
    exact lastTid_push hkey htbl hsize
  · exact absurd hl (not_lastTid_of_lookup_eq_none ha h hk n)

theorem GrantSpec.of_transNum {c' : TransCtrl} {n : Nat}
    (h : GrantSpec eep tickCount a { c with transNum := n } c') :
    GrantSpec eep tickCount a c c' where
  distinct := h.distinct
  last := h.last
  fresh := h.fresh
  keeps := h.keeps

theorem newTrans_grantSpec (ha : a.InDomain eep) (hclean : CleanReplace eep tickCount a c)
    (hgrant : (c.newTrans eep tickCount a).1 = .noError) :
    GrantSpec eep tickCount a c (c.newTrans eep tickCount a).2 := by
  have hp := ((c.newTrans_granted_iff eep tickCount a).1 hgrant).1
  apply GrantSpec.of_transNum (n := c.transID)
  revert hgrant
  unfold newTrans
  rw [if_neg (by simp [hp])]
  dsimp only
  split
  case h_1 i hlook =>
    intro _
    exact grantSpec_reuse ha rfl hlook
  case h_2 hlook =>
    split
    case isTrue hfull =>
      split
      case h_1 i hexp =>
        intro _
        have hi := List.mem_range.1 (List.mem_of_find?_eq_some hexp)
        have hrep : c.replaced eep tickCount a = some i := by
          unfold replaced
          rw [if_neg (by simp [hp]), if_neg (by rw [show c.lookup eep a = none from hlook]; simp),
            if_pos hfull]
          exact hexp
        apply grantSpec_replace ha rfl hlook hi hrep
        · exact addEntry_tbl _ _ (evict_len (hclean i hrep))
        · rfl
        · rfl
      case h_2 hexp =>
        intro hgrant
        cases hgrant
    case isFalse hroom =>
      intro _
      apply grantSpec_push ha rfl hlook
      · exact addEntry_tbl _ _ (.inl rfl)
      · rfl
      · rfl

theorem newTrans_tbl_of_not_granted (h : (c.newTrans eep tickCount a).1 ≠ .noError) :
    (c.newTrans eep tickCount a).2.tbl = c.tbl ∧
      (c.newTrans eep tickCount a).2.tblSize = c.tblSize := by
  rcases c.newTrans_numbers eep tickCount a with ⟨-, h'⟩ | ⟨-, h'⟩ | ⟨-, h', -⟩
  · rw [h']
    exact ⟨rfl, rfl⟩
  · rw [h']
    exact ⟨rfl, rfl⟩
  · exact absurd h' h

end TransCtrl

namespace TcsOp

def GrantsTo (k : DestKey) : TransCtrl × TcsOp → Prop
  | (c, .newTrans eep tickCount a) =>
    a.key eep = some k ∧ (c.newTrans eep tickCount a).1 = .noError
  | _ => False

def Evicts (k : DestKey) : TransCtrl × TcsOp → Prop
  | (c, .newTrans eep tickCount a) =>
    ∃ i, c.replaced eep tickCount a = some i ∧ (c.tbl i).key = some k
  | _ => False

/-- The step names a domain the node is in, and mixes no recorded lengths if it replaces an entry
of the full table. -/
def Clean : TransCtrl × TcsOp → Prop
  | (c, .newTrans eep tickCount a) => a.InDomain eep ∧ c.CleanReplace eep tickCount a
  | _ => True

theorem keysDistinct_apply (op : TcsOp) (c : TransCtrl) (hclean : Clean (c, op))
    (h : c.KeysDistinct) : (op.apply c).KeysDistinct := by
  cases op with
  | overrideTrans => exact h
  | transDone => exact h
  | newTrans eep tickCount a =>
    by_cases hgrant : (c.newTrans eep tickCount a).1 = .noError
    · exact (TransCtrl.newTrans_grantSpec hclean.1 hclean.2 hgrant).distinct h
    · obtain ⟨htbl, hsize⟩ := TransCtrl.newTrans_tbl_of_not_granted hgrant
      unfold TransCtrl.KeysDistinct apply
      rw [htbl, hsize]
      exact h

theorem lastTid_apply {k : DestKey} {n : Nat} (op : TcsOp) (c : TransCtrl)
    (hclean : Clean (c, op)) (hgrant : ¬GrantsTo k (c, op)) (hevict : ¬Evicts k (c, op))
    (h : c.LastTid k n) : (op.apply c).LastTid k n := by
  cases op with
  | overrideTrans => exact h
  | transDone => exact h
  | newTrans eep tickCount a =>
    by_cases hok : (c.newTrans eep tickCount a).1 = .noError
    · exact (TransCtrl.newTrans_grantSpec hclean.1 hclean.2 hok).keeps k n
        (fun hk => hgrant ⟨hk, hok⟩) (fun i hi hik => hevict ⟨i, hi, hik⟩) h
    · obtain ⟨htbl, hsize⟩ := TransCtrl.newTrans_tbl_of_not_granted hok
      unfold TransCtrl.LastTid apply
      rw [htbl, hsize]
      exact h

theorem apply_of_inProgress (op : TcsOp) (c : TransCtrl) (hp : c.inProgress = true)
    (hdone : op.isDone = false) (hover : op.isOverride = false) : op.apply c = c := by
  cases op with
  | overrideTrans => cases hover
  | transDone => cases hdone
  | newTrans eep tickCount a =>
    change (c.newTrans eep tickCount a).2 = c
    unfold TransCtrl.newTrans
    rw [if_pos hp]

theorem run_of_inProgress {c d : TransCtrl} {h : TcsHistory} (hrun : Run apply c h d)
    (hp : c.inProgress = true) (hdone : ∀ x ∈ h, x.2.isDone = false)
    (hover : ∀ x ∈ h, x.2.isOverride = false) : d = c := by
  induction hrun with
  | refl => rfl
  | next op _ ih =>
    rw [List.forall_mem_cons] at hdone hover
    rw [ih hdone.2 hover.2] at hdone hover ⊢
    exact apply_of_inProgress op c hp hdone.1 hover.1

end TcsOp

/-- A run with two transactions to `k` and none to it in between. The first one is over at `d`,
the second one has come to `d'`. The entry of `k` stays in the table between them. -/
structure TwoTransactions (c₀ : TransCtrl) (k : DestKey) where
  c : TransCtrl
  op : TcsOp
  d : TransCtrl
  c' : TransCtrl
  op' : TcsOp
  d' : TransCtrl
  h₀ : TcsHistory
  h₁ : TcsHistory
  h₂ : TcsHistory
  h₃ : TcsHistory
  run₀ : Run TcsOp.apply c₀ h₀ c
  granted : TcsOp.GrantsTo k (c, op)
  run₁ : Run TcsOp.apply (op.apply c) h₁ d
  notDone₁ : ∀ x ∈ h₁, x.2.isDone = false
  run₂ : Run TcsOp.apply d.transDone h₂ c'
  consecutive : ∀ x ∈ h₂, ¬TcsOp.GrantsTo k x
  kept : ∀ x ∈ h₂, ¬TcsOp.Evicts k x
  granted' : TcsOp.GrantsTo k (c', op')
  run₃ : Run TcsOp.apply (op'.apply c') h₃ d'
  notDone₃ : ∀ x ∈ h₃, x.2.isDone = false

namespace TwoTransactions

variable {c₀ : TransCtrl} {k : DestKey}

def first (T : TwoTransactions c₀ k) : Nat := T.d.transNum

def second (T : TwoTransactions c₀ k) : Nat := T.d'.transNum

def upToSecond (T : TwoTransactions c₀ k) : TcsHistory :=
  (T.c', T.op') :: T.h₂ ++ (T.c, T.op) :: T.h₀

def Overridden (T : TwoTransactions c₀ k) : Prop :=
  ∃ x ∈ T.h₁ ++ T.h₃, x.2.isOverride = true

theorem granted_spec {c : TransCtrl} {op : TcsOp} (hgrant : TcsOp.GrantsTo k (c, op))
    (hclean : TcsOp.Clean (c, op)) :
    (op.apply c).inProgress = true ∧
      (c.KeysDistinct → (op.apply c).KeysDistinct) ∧
      (op.apply c).LastTid k (op.apply c).transNum ∧
      ∀ n, c.KeysDistinct → c.LastTid k n → (op.apply c).transNum ≠ n := by
  cases op with
  | overrideTrans => cases hgrant
  | transDone => cases hgrant
  | newTrans eep tickCount a =>
    have hspec := TransCtrl.newTrans_grantSpec hclean.1 hclean.2 hgrant.2
    exact ⟨((c.newTrans_granted_iff eep tickCount a).1 hgrant.2).2, hspec.distinct,
      hspec.last k hgrant.1, fun n => hspec.fresh k n hgrant.1⟩

end TwoTransactions

/-- Two transactions in a row to one destination use different numbers, as long as neither of them
had its number overridden. -/
theorem transNum_not_reused {c₀ : TransCtrl} {k : DestKey} (T : TwoTransactions c₀ k)
    (hempty : c₀.tblSize = 0) (hclean : ∀ x ∈ T.upToSecond, TcsOp.Clean x)
    (hover : ¬T.Overridden) : T.first ≠ T.second := by
  have hover' : ∀ x ∈ T.h₁ ++ T.h₃, x.2.isOverride = false := fun x hx =>
    Bool.eq_false_iff.2 fun h => hover ⟨x, hx, h⟩
  rw [List.forall_mem_append] at hover'
  unfold TwoTransactions.upToSecond at hclean
  rw [List.forall_mem_append, List.forall_mem_cons, List.forall_mem_cons] at hclean
  obtain ⟨⟨hclean', hclean₂⟩, hclean₁, hclean₀⟩ := hclean
  -- the table of the state in which the first transaction is granted
  have hdistinct₀ : c₀.KeysDistinct := by
    unfold TransCtrl.KeysDistinct
    rw [hempty]
    exact Distinct.zero _ _
  have hdistinct : T.c.KeysDistinct :=
    T.run₀.invariant (fun op c => TcsOp.keysDistinct_apply op c) hclean₀ hdistinct₀
  obtain ⟨hp, hdistinct₁, hlast₁, -⟩ := TwoTransactions.granted_spec T.granted hclean₁
  have hd := TcsOp.run_of_inProgress T.run₁ hp T.notDone₁ hover'.1
  -- what the table says until the second one is granted
  have hdone : T.d.transDone.KeysDistinct ∧ T.d.transDone.LastTid k T.first := by
    unfold TwoTransactions.first
    rw [hd]
    exact ⟨hdistinct₁ hdistinct, hlast₁⟩
  have hallowed : ∀ x ∈ T.h₂, TcsOp.Clean x ∧ ¬TcsOp.GrantsTo k x ∧ ¬TcsOp.Evicts k x :=
    fun x hx => ⟨hclean₂ x hx, T.consecutive x hx, T.kept x hx⟩
  have hbetween : T.c'.KeysDistinct ∧ T.c'.LastTid k T.first := by
    refine T.run₂.invariant (I := fun c => c.KeysDistinct ∧ c.LastTid k T.first) ?_ hallowed hdone
    rintro op c ⟨hc, hg, he⟩ ⟨hkeys, hlast⟩
    exact ⟨TcsOp.keysDistinct_apply op c hc hkeys, TcsOp.lastTid_apply op c hc hg he hlast⟩
  obtain ⟨hp', -, -, hfresh⟩ := TwoTransactions.granted_spec T.granted' hclean'
  have hd' := TcsOp.run_of_inProgress T.run₃ hp' T.notDone₃ hover'.2
  unfold TwoTransactions.second
  rw [hd']
  exact (hfresh T.first hbetween.1 hbetween.2).symm

namespace TwoTransactions

def peer : DestinationAddress := ⟨default, .subnetNode ⟨1, 2⟩⟩

def peerKey : DestKey := ⟨0, [], .subnetNode ⟨1, 2⟩⟩

def request : TcsOp := .newTrans default 0 peer

def requested : TransCtrl := request.apply .powerUp

def twice : TwoTransactions .powerUp peerKey where
  c := .powerUp
  op := request
  d := requested
  c' := requested.transDone
  op' := request
  d' := request.apply requested.transDone
  h₀ := []
  h₁ := []
  h₂ := []
  h₃ := []
  run₀ := .refl
  granted := ⟨rfl, rfl⟩
  run₁ := .refl
  notDone₁ := by simp
  run₂ := .refl
  consecutive := by simp
  kept := by simp
  granted' := ⟨rfl, rfl⟩
  run₃ := .refl
  notDone₃ := by simp

def twiceInherited (num : Nat) : TwoTransactions .powerUp peerKey where
  c := .powerUp
  op := request
  d := requested.overrideTrans num
  c' := (requested.overrideTrans num).transDone
  op' := request
  d' := (request.apply (requested.overrideTrans num).transDone).overrideTrans num
  h₀ := []
  h₁ := [(requested, .overrideTrans num)]
  h₂ := []
  h₃ := [(request.apply (requested.overrideTrans num).transDone, .overrideTrans num)]
  run₀ := .refl
  granted := ⟨rfl, rfl⟩
  run₁ := .single (TcsOp.overrideTrans num) requested
  notDone₁ := by simp [TcsOp.isDone]
  run₂ := .refl
  consecutive := by simp
  kept := by simp
  granted' := ⟨rfl, by
    rw [TransCtrl.newTrans_granted_iff]
    exact ⟨rfl, rfl⟩⟩
  run₃ := .single (TcsOp.overrideTrans num) _
  notDone₃ := by simp [TcsOp.isDone]

end TwoTransactions

theorem transNum_not_reused_twice :
    TwoTransactions.twice.first ≠ TwoTransactions.twice.second :=
  transNum_not_reused .twice rfl
    (by
      simp only [TwoTransactions.upToSecond, TwoTransactions.twice, List.nil_append,
        List.forall_mem_cons, List.cons_append]
      exact ⟨⟨.inr rfl, fun i hi => nomatch hi⟩, ⟨.inr rfl, fun i hi => nomatch hi⟩, by simp⟩)
    (by simp [TwoTransactions.Overridden, TwoTransactions.twice])

theorem transNum_reused :
    ¬∀ (c₀ : TransCtrl) (k : DestKey) (T : TwoTransactions c₀ k),
      c₀.tblSize = 0 → T.first ≠ T.second := by
  intro h
  exact h .powerUp _ (.twiceInherited 5) rfl rfl

end LonStack
