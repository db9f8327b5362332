import LonStack.TidTable

namespace LonStack

namespace TransCtrl

def movedTo (c : TransCtrl) (i j : Nat) : Nat := if j = c.tblSize - 1 then i else j

structure Evicted (eep : Eeprom) (a : DestinationAddress) (i : Nat) (c c' : TransCtrl) :
    Prop where
  size : c'.tblSize = TID_TABLE_SIZE
  kept : ∀ j < c.tblSize, j ≠ i →
    c.movedTo i j < c'.tblSize ∧ c'.tbl (c.movedTo i j) = c.tbl j
  added : ∃ e, c'.tbl (c'.tblSize - 1) = e ∧ e.addr = .ofNetAddr a.addr ∧
    e.len = (a.domainIdLen eep).2 ∧
    e.domainId.toList.take e.len = (a.domainIdLen eep).1.toList.take (a.domainIdLen eep).2 ∧
    e.tid = c'.transNum
  finds : ∀ b k, b.InDomain eep → b.key eep = some k →
    (a.key eep = some k ∨ ∃ j < c.tblSize, j ≠ i ∧ (c.tbl j).key = some k) →
      ∃ j, c'.lookup eep b = some j ∧ (c'.tbl j).key = some k

variable {eep : Eeprom} {tickCount : UInt32} {a : DestinationAddress} {c : TransCtrl} {i : Nat}

theorem lookup_of_key {b : DestinationAddress} {k : DestKey} {j : Nat} (hb : b.InDomain eep)
    (hkey : b.key eep = some k) (hj : j < c.tblSize) (hjk : (c.tbl j).key = some k) :
    ∃ j, c.lookup eep b = some j ∧ (c.tbl j).key = some k := by
  cases hlookup : c.lookup eep b with
  | none => exact absurd hjk (lookup_eq_none hb hlookup k hkey j hj)
  | some j' =>
    obtain ⟨-, k', hk', hjk'⟩ := lookup_eq_some hb hlookup
    rw [hkey] at hk'
    exact ⟨j', rfl, hk' ▸ hjk'⟩

theorem newTrans_of_replaced (h : c.replaced eep tickCount a = some i) :
    ∃ hfull : c.tblSize = TID_TABLE_SIZE, i < c.tblSize ∧
      c.newTrans eep tickCount a =
        (.noError, (({ c with transNum := c.transID } : TransCtrl).evict i).addEntry eep tickCount a i
          (by simp [evict, hfull])) := by
  unfold replaced at h
  by_cases hprogress : c.inProgress = true
  · rw [if_pos hprogress] at h
    cases h
  rw [if_neg hprogress] at h
  by_cases hlookup : (c.lookup eep a).isSome = true
  · rw [if_pos hlookup] at h
    cases h
  rw [if_neg hlookup] at h
  by_cases hfull : c.tblSize = TID_TABLE_SIZE
  case neg =>
    rw [if_neg hfull] at h
    cases h
  case pos =>
    rw [if_pos hfull] at h
    refine ⟨hfull, List.mem_range.1 (List.mem_of_find?_eq_some h), ?_⟩
    have hnone : ({ c with transNum := c.transID } : TransCtrl).lookup eep a = none :=
      Option.not_isSome_iff_eq_none.mp hlookup
    have hexpired : ({ c with transNum := c.transID } : TransCtrl).findExpired tickCount = some i := h
    unfold newTrans
    rw [if_neg hprogress]
    dsimp only
    rw [hnone]
    dsimp only
    rw [dif_pos hfull]
    split
    next i' hi' =>
      rw [hexpired] at hi'
      cases hi'
      rfl
    next hi' =>
      rw [hexpired] at hi'
      cases hi'

theorem evicted_of_len (hi : i < c.tblSize) (hfull : c.tblSize = TID_TABLE_SIZE)
    {h : (c.evict i).tblSize < TID_TABLE_SIZE} (hnum : c.transNum = c.transID)
    (hlen : i = c.tblSize - 1 ∨ (c.tbl (c.tblSize - 1)).len = (a.domainIdLen eep).2) :
    Evicted eep a i c ((c.evict i).addEntry eep tickCount a i h) := by
  have htbl : ((c.evict i).addEntry eep tickCount a i h).tbl = _ :=
    addEntry_tbl i h (evict_len hlen)
  generalize hc' : (c.evict i).addEntry eep tickCount a i h = c' at htbl
  have hsize : c'.tblSize = TID_TABLE_SIZE := by
    rw [← hc', ← hfull]
    change c.tblSize - 1 + 1 = c.tblSize
    omega
  have hlast : (c.evict i).tblSize = c.tblSize - 1 := rfl
  rw [hlast] at htbl
  have hkept : ∀ j < c.tblSize, j ≠ i →
      c.movedTo i j < c'.tblSize ∧ c'.tbl (c.movedTo i j) = c.tbl j := by
    intro j hj hji
    rw [htbl, hsize, ← hfull, movedTo]
    by_cases hjlast : j = c.tblSize - 1
    case pos =>
      have hne : i ≠ c.tblSize - 1 := fun heq => hji (hjlast.trans heq.symm)
      rw [if_pos hjlast, Function.update_of_ne hne]
      refine ⟨hi, ?_⟩
      rw [hjlast]
      exact Function.update_self ..
    case neg =>
      rw [if_neg hjlast, Function.update_of_ne hjlast]
      exact ⟨hj, Function.update_of_ne hji ..⟩
  have hadded : c'.tbl (c'.tblSize - 1) = (c.evict i).newEntry eep tickCount a := by
    rw [htbl, hsize, ← hfull, Function.update_self]
  refine ⟨hsize, hkept, ⟨_, hadded, rfl, rfl, DomainId.take_copy _ _ _, ?_⟩, ?_⟩
  · rw [← hc']
    exact hnum.symm
  · intro b k hb hkey hcases
    rcases hcases with hnew | ⟨j, hj, hji, hjk⟩
    · refine lookup_of_key hb hkey (j := c'.tblSize - 1) ?_ ?_
      · rw [hsize]
        decide
      · rw [hadded, newEntry_key]
        exact hnew
    · obtain ⟨hlt, heq⟩ := hkept j hj hji
      exact lookup_of_key hb hkey hlt (heq ▸ hjk)

/-- Replacing an expired entry of the full table keeps the others exactly if the last entry is the one
replaced or has the domain length of the new destination. -/
theorem evicted_iff (h : c.replaced eep tickCount a = some i) :
    ((c.newTrans eep tickCount a).1 = .noError ∧
        Evicted eep a i c (c.newTrans eep tickCount a).2) ↔
      i = c.tblSize - 1 ∨ (c.tbl (c.tblSize - 1)).len = (a.domainIdLen eep).2 := by
  obtain ⟨hfull, hi, heq⟩ := newTrans_of_replaced h
  rw [heq]
  constructor
  · rintro ⟨-, hevicted⟩
    by_contra hmixed
    rw [not_or] at hmixed
    -- the last entry has moved to `i`, and its length has been overwritten there
    have hkept := (hevicted.kept (c.tblSize - 1) (by omega) (Ne.symm hmixed.1)).2
    rw [movedTo, if_pos rfl] at hkept
    have hlen := congrArg TIDTableEntry.len hkept
    unfold addEntry at hlen
    dsimp only at hlen
    rw [Function.update_self] at hlen
    exact hmixed.2 hlen.symm
  · intro hlen
    refine ⟨rfl, ?_⟩
    have hevicted : Evicted eep a i { c with transNum := c.transID }
        (({ c with transNum := c.transID }.evict i).addEntry eep tickCount a i
          (by simp [evict, hfull])) :=
      evicted_of_len (c := { c with transNum := c.transID }) hi hfull rfl hlen
    exact ⟨hevicted.size, hevicted.kept, hevicted.added, hevicted.finds⟩

end TransCtrl

def fullTable (expired : Nat) : TransCtrl where
  inProgress := false
  transNum := 5
  transID := 5
  tbl j :=
    { domainId := Vector.replicate 6 7
      len := 3
      addr := .subnetNode ⟨1, UInt8.ofNat (j + 1)⟩
      timer := ⟨0, if j = expired then 50 else 10000⟩
      tid := j % 5 }
  tblSize := TID_TABLE_SIZE
  tblSize_le := Nat.le_refl _

theorem evicted_iff_last :
    (((fullTable 9).newTrans default 100 TwoTransactions.peer).1 = .noError ∧
        TransCtrl.Evicted default TwoTransactions.peer 9 (fullTable 9)
          ((fullTable 9).newTrans default 100 TwoTransactions.peer).2) ↔
      9 = (fullTable 9).tblSize - 1 ∨
        ((fullTable 9).tbl ((fullTable 9).tblSize - 1)).len =
          (TwoTransactions.peer.domainIdLen default).2 :=
  TransCtrl.evicted_iff (by decide)

theorem not_evicted_fourth :
    ¬∀ (eep : Eeprom) (tickCount : UInt32) (a : DestinationAddress) (c : TransCtrl) (i : Nat),
      c.replaced eep tickCount a = some i →
        (c.newTrans eep tickCount a).1 = .noError ∧
          TransCtrl.Evicted eep a i c (c.newTrans eep tickCount a).2 := by
  intro hall
  have hevicted := (hall default 100 TwoTransactions.peer (fullTable 3) 3 (by decide)).2
  have hkept := (hevicted.kept 9 (by decide) (by decide)).2
  exact absurd (congrArg TIDTableEntry.len hkept) (by decide)

end LonStack
