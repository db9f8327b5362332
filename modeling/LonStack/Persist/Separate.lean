import LonStack.Lib.Run
import LonStack.Persist.Storage

namespace LonStack

open Lib

structure HalCall where
  seg : IzotPersistentSegType
  start : Nat
  size : Nat
  deriving DecidableEq, Repr

def Hal.logged {σ : Type} (hal : Hal σ) : Hal (σ × List HalCall) where
  info := hal.info
  persistentMemError h := hal.persistentMemError h.1
  initStorage h :=
    let r := hal.initStorage h.1
    (r.1, r.2, h.2)
  storageInfo h :=
    let r := hal.storageInfo h.1
    (r.1, r.2, h.2)
  openSegment seg size h :=
    let r := hal.openSegment seg size h.1
    (r.1, r.2, h.2)
  closeSegment seg h :=
    let r := hal.closeSegment seg h.1
    (r.1, r.2, h.2)
  prepareSegment seg segStart start size value h :=
    let r := hal.prepareSegment seg segStart start size value h.1
    (r.1, r.2, h.2 ++ [⟨seg, start.toNat, size.toNat⟩])
  writeSegment seg data segStart start h :=
    let r := hal.writeSegment seg data segStart start h.1
    (r.1, r.2, h.2 ++ [⟨seg, start.toNat, data.length⟩])
  readSegment seg segStart start size h :=
    let r := hal.readSegment seg segStart start size h.1
    (r.1, r.2, h.2)

inductive StorageOp
  | openForRead
  | openForWrite (dataSize : UInt64)
  | read (segmentOffset dataSize : UInt64)
  | write (segmentOffset : UInt64) (data : List UInt8)
  | isInvalid
  | startUpdate
  | finishUpdate
  | erase
  deriving DecidableEq, Repr

structure StorageEvent where
  seg : IzotPersistentSegType
  uninit : EraseInfo
  op : StorageOp
  deriving DecidableEq, Repr

namespace Storage

section

variable {σ : Type} (hal : Hal σ) (getMaxSize : IzotPersistentSegType → UInt32) (s : Storage σ)

def access (e : StorageEvent) : Storage σ :=
  match e.op with
  | .openForRead => (s.izotStorageOpenSegForRead hal getMaxSize e.seg e.uninit).2
  | .openForWrite dataSize => (s.izotStorageOpenSegForWrite hal getMaxSize e.seg e.uninit dataSize).2
  | .read segmentOffset dataSize =>
    (s.izotStorageReadSeg hal getMaxSize e.seg e.uninit segmentOffset dataSize).2
  | .write segmentOffset data =>
    (s.izotStorageWriteSeg hal getMaxSize e.seg e.uninit segmentOffset data).2
  | .isInvalid => (s.izotStorageSegIsInvalid hal getMaxSize e.seg e.uninit).2
  | .startUpdate => (s.izotStorageStartSegUpdate hal getMaxSize e.seg e.uninit).2
  | .finishUpdate => (s.izotStorageFinishSegUpdate hal getMaxSize e.seg e.uninit).2
  -- only these two segments are erased
  | .erase => if e.seg = .applicationData then (s.erasePersistentAppData hal).2
    else if e.seg = .networkImage then (s.erasePersistentNetworkConfig hal).2
    else s

end

section

variable {σ : Type} (s : Storage σ) (seg : IzotPersistentSegType)

def Placed : Prop := s.dataSegmentSize seg ≠ 0

instance : Decidable (s.Placed seg) := inferInstanceAs (Decidable (_ ≠ _))

def start : Nat := (s.segmentMap seg).segmentStart.toNat

def stop : Nat := s.start seg + 8 + (s.segmentMap seg).maxDataSize.toNat

structure Separate (info : StorageInfo) : Prop where
  aligned : ∀ seg, s.Placed seg → info.blockSize.toNat ∣ s.start seg
  inside : ∀ seg, s.Placed seg → info.regionOffset.toNat ≤ s.start seg ∧
    s.stop seg ≤ info.regionOffset.toNat + info.regionSize.toNat
  disjoint : ∀ a b, s.Placed a → s.Placed b → a ≠ b → s.stop a ≤ s.start b ∨ s.stop b ≤ s.start a
  erase : ∀ seg, s.Placed seg → (s.segmentMap seg).erase = info.erase

end

def Confined {σ : Type} (s : Storage (σ × List HalCall)) : Prop :=
  ∀ c ∈ s.hal.2, ∀ seg, s.Placed seg → seg ≠ c.seg →
    c.start + c.size ≤ s.start seg ∨ s.stop seg ≤ c.start

end Storage

structure StorageInfo.Sound (info : StorageInfo) : Prop where
  regions : 1 ≤ info.numberOfRegions
  blocks : 0 < info.blockSize.toNat
  addresses : info.regionOffset.toNat + info.regionSize.toNat < 2 ^ 31

instance (info : StorageInfo) : Decidable info.Sound :=
  decidable_of_iff (_ ∧ _ ∧ _) ⟨fun h => ⟨h.1, h.2.1, h.2.2⟩,
    fun h => ⟨h.regions, h.blocks, h.addresses⟩⟩

def Storage.lowest {σ : Type} (s : Storage σ) (info : StorageInfo) : Nat :=
  if s.storageBlockSize = 0 then info.regionOffset.toNat + info.regionSize.toNat
  else s.lowestUsedStorageDataOffset.toNat

/-- A segment that is given its place fits below the others, and what the variables for the storage
info hold is what the platform has reported before. -/
structure Storage.Room {σ : Type} (info : StorageInfo) (maxSize : UInt32) (uninit : EraseInfo)
    (s : Storage σ) : Prop where
  size : maxSize.toNat < 2 ^ 31
  fits : 24 + maxSize.toNat ≤ s.lowest info
  above : info.regionOffset.toNat ≤
    (s.lowest info - (24 + maxSize.toNat)) / info.blockSize.toNat * info.blockSize.toNat
  erase : s.storageBlockSize ≠ 0 → uninit = info.erase

instance {σ : Type} (info : StorageInfo) (maxSize : UInt32) (uninit : EraseInfo) (s : Storage σ) :
    Decidable (s.Room info maxSize uninit) :=
  decidable_of_iff (_ ∧ _ ∧ _ ∧ _) ⟨fun h => ⟨h.1, h.2.1, h.2.2.1, h.2.2.2⟩,
    fun h => ⟨h.size, h.fits, h.above, h.erase⟩⟩

def roundUp (size blockSize : Nat) : Nat := (size + blockSize - 1) / blockSize * blockSize

def StorageOp.Keeps (blockSize : Nat) (maxSize : UInt32) (placed : Prop) (seg : IzotPersistentSegType) :
    StorageOp → Prop
  | .openForRead | .read .. | .isInvalid => True
  | .openForWrite dataSize => seg.allocated = true ∨ dataSize ≠ 0
  | .startUpdate | .finishUpdate => seg.allocated = true
  | .write segmentOffset data => seg.allocated = true ∧
    segmentOffset.toNat + data.length ≤ roundUp (24 + maxSize.toNat) blockSize
  | .erase => seg = .applicationData ∨ seg = .networkImage → placed

instance (blockSize : Nat) (maxSize : UInt32) (placed : Prop) [Decidable placed]
    (seg : IzotPersistentSegType) : (op : StorageOp) → Decidable (op.Keeps blockSize maxSize placed seg)
  | .openForRead | .read .. | .isInvalid => .isTrue trivial
  | .openForWrite _ => inferInstanceAs (Decidable (_ ∨ _))
  | .startUpdate | .finishUpdate => inferInstanceAs (Decidable (_ = _))
  | .write .. => inferInstanceAs (Decidable (_ ∧ _))
  | .erase => inferInstanceAs (Decidable (_ ∨ _ → _))

def Storage.Fits {σ : Type} (info : StorageInfo) (getMaxSize : IzotPersistentSegType → UInt32)
    (x : Storage σ × StorageEvent) : Prop :=
  (¬x.1.Placed x.2.seg → x.2.seg.allocated = true → x.2.op ≠ .erase →
    x.1.Room info (getMaxSize x.2.seg) x.2.uninit) ∧
  x.2.op.Keeps info.blockSize.toNat (getMaxSize x.2.seg) (x.1.Placed x.2.seg) x.2.seg

instance {σ : Type} (info : StorageInfo) (getMaxSize : IzotPersistentSegType → UInt32)
    (x : Storage σ × StorageEvent) : Decidable (Storage.Fits info getMaxSize x) :=
  inferInstanceAs (Decidable (_ ∧ _))

theorem toNat_signExtend {w : UInt32} (h : w.toNat < 2 ^ 31) : (signExtend w).toNat = w.toNat := by
  have hlt : w < 0x80000000 := by
    rw [UInt32.lt_iff_toNat_lt]
    exact h
  rw [signExtend, if_pos hlt, UInt32.toNat_toUInt64]

theorem toNat_virtualStorageOffset {lowest size blockSize : UInt64} {n : Nat}
    (hsize : size.toNat = n) (hfits : 8 + n ≤ lowest.toNat) (hlowest : lowest.toNat < 2 ^ 31) :
    (virtualStorageOffset lowest size blockSize).toNat =
      (lowest.toNat - (8 + n)) / blockSize.toNat * blockSize.toNat := by
  have hadd : (sizeofTransactionRecord + size).toNat = 8 + n := by
    rw [UInt64.toNat_add, hsize]
    exact Nat.mod_eq_of_lt (show 8 + n < 2 ^ 64 by omega)
  have hsub : (lowest - (sizeofTransactionRecord + size)).toNat = lowest.toNat - (8 + n) := by
    rw [UInt64.toNat_sub_of_le _ _ (by rw [UInt64.le_iff_toNat_le, hadd]; exact hfits), hadd]
  have hoffset : (lowest - (sizeofTransactionRecord + size)).toUInt32.toNat =
      lowest.toNat - (8 + n) := by
    rw [UInt64.toNat_toUInt32, hsub]
    exact Nat.mod_eq_of_lt (show _ < 2 ^ 32 by omega)
  have hmod : (signExtend (lowest - (sizeofTransactionRecord + size)).toUInt32 % blockSize).toUInt32.toNat =
      (lowest.toNat - (8 + n)) % blockSize.toNat := by
    have hle := Nat.mod_le (lowest.toNat - (8 + n)) blockSize.toNat
    rw [UInt64.toNat_toUInt32, UInt64.toNat_mod, toNat_signExtend (by rw [hoffset]; omega), hoffset]
    exact Nat.mod_eq_of_lt (show _ < 2 ^ 32 by omega)
  have hle := Nat.mod_le (lowest.toNat - (8 + n)) blockSize.toNat
  rw [virtualStorageOffset, UInt32.toNat_sub_of_le _ _ (by
    rw [UInt32.le_iff_toNat_le, hmod, hoffset]; exact hle), hmod, hoffset]
  have hdiv := Nat.div_add_mod (lowest.toNat - (8 + n)) blockSize.toNat
  rw [Nat.mul_comm] at hdiv
  omega

namespace Storage

structure Laid {σ : Type} (info : StorageInfo) (getMaxSize : IzotPersistentSegType → UInt32)
    (s : Storage σ) : Prop where
  separate : s.Separate info
  block : s.storageBlockSize = 0 ∨ s.storageBlockSize = info.blockSize
  fresh : s.storageBlockSize = 0 → ∀ seg, ¬s.Placed seg
  region : s.lowest info ≤ info.regionOffset.toNat + info.regionSize.toNat
  below : ∀ seg, s.Placed seg → s.lowest info ≤ s.start seg
  size : ∀ seg, s.Placed seg → (s.segmentMap seg).maxDataSize.toNat = 16 + (getMaxSize seg).toNat
  tx : ∀ seg, s.Placed seg → (s.segmentMap seg).txOffset = (s.segmentMap seg).segmentStart
  blank : ∀ seg, ¬s.Placed seg → s.segmentMap seg = default

def Extends {σ : Type} (s s' : Storage σ) : Prop :=
  ∀ seg, s.Placed seg → s'.Placed seg ∧ s'.segmentMap seg = s.segmentMap seg

structure SameMap {σ : Type} (s s' : Storage σ) : Prop where
  segmentMap : s'.segmentMap = s.segmentMap
  storageBlockSize : s'.storageBlockSize = s.storageBlockSize
  lowest : s'.lowestUsedStorageDataOffset = s.lowestUsedStorageDataOffset
  dataSegmentSize : s'.dataSegmentSize = s.dataSegmentSize

variable {σ : Type} {hal : Hal σ} {getMaxSize : IzotPersistentSegType → UInt32} {info : StorageInfo}
  {s s' s'' : Storage σ} {seg : IzotPersistentSegType} {uninit : EraseInfo}

theorem SameMap.trans (h : SameMap s s') (h' : SameMap s' s'') : SameMap s s'' where
  segmentMap := h'.segmentMap.trans h.segmentMap
  storageBlockSize := h'.storageBlockSize.trans h.storageBlockSize
  lowest := h'.lowest.trans h.lowest
  dataSegmentSize := h'.dataSegmentSize.trans h.dataSegmentSize

theorem SameMap.extends (h : SameMap s s') : Extends s s' := by
  intro seg hplaced
  rw [Placed, h.dataSegmentSize, h.segmentMap]
  exact ⟨hplaced, rfl⟩

theorem Extends.trans (h : Extends s s') (h' : Extends s' s'') : Extends s s'' := by
  intro seg hplaced
  obtain ⟨hplaced', hmap⟩ := h seg hplaced
  obtain ⟨hplaced'', hmap'⟩ := h' seg hplaced'
  exact ⟨hplaced'', hmap'.trans hmap⟩

theorem Laid.same (hlaid : s.Laid info getMaxSize) (h : SameMap s s') : s'.Laid info getMaxSize := by
  obtain ⟨map, blockSize, lowest, size, halState⟩ := s
  obtain ⟨map', blockSize', lowest', size', halState'⟩ := s'
  obtain ⟨hmap, hblock, hlowest, hsize⟩ := h
  dsimp only at hmap hblock hlowest hsize
  subst hmap hblock hlowest hsize
  exact ⟨⟨hlaid.separate.aligned, hlaid.separate.inside, hlaid.separate.disjoint,
    hlaid.separate.erase⟩, hlaid.block, hlaid.fresh, hlaid.region, hlaid.below, hlaid.size, hlaid.tx,
    hlaid.blank⟩

theorem laid_init (info : StorageInfo) (getMaxSize : IzotPersistentSegType → UInt32) (h : σ) :
    (init h).Laid info getMaxSize where
  separate :=
    { aligned := fun _ hplaced => absurd rfl hplaced
      inside := fun _ hplaced => absurd rfl hplaced
      disjoint := fun _ _ hplaced => absurd rfl hplaced
      erase := fun _ hplaced => absurd rfl hplaced }
  block := .inl rfl
  fresh _ _ := not_not_intro rfl
  region := Nat.le_refl _
  below _ hplaced := absurd rfl hplaced
  size _ hplaced := absurd rfl hplaced
  tx _ hplaced := absurd rfl hplaced
  blank _ _ := rfl

theorem toNat_maxSize {maxSize : UInt32} (h : maxSize.toNat < 2 ^ 31) :
    (maxSize + sizeofPersistenceHeader).toUInt64.toNat = 16 + maxSize.toNat := by
  rw [UInt32.toNat_toUInt64, UInt32.toNat_add]
  change (maxSize.toNat + 16) % 2 ^ 32 = 16 + maxSize.toNat
  omega

theorem toNat_allocate (hsound : info.Sound) (hblock : s.storageBlockSize = info.blockSize)
    (hregion : s.lowest info ≤ info.regionOffset.toNat + info.regionSize.toNat)
    (hroom : s.Room info (getMaxSize seg) uninit) :
    (signExtend (virtualStorageOffset s.lowestUsedStorageDataOffset
        (getMaxSize seg + sizeofPersistenceHeader).toUInt64 s.storageBlockSize)).toNat =
      (s.lowest info - (24 + (getMaxSize seg).toNat)) / info.blockSize.toNat *
        info.blockSize.toNat := by
  have haddresses := hsound.addresses
  have hne : s.storageBlockSize ≠ 0 := by
    intro hzero
    have hblocks := hsound.blocks
    rw [← hblock, hzero] at hblocks
    exact absurd hblocks (by decide)
  have hlowest : s.lowest info = s.lowestUsedStorageDataOffset.toNat := if_neg hne
  have hfits := hroom.fits
  rw [hlowest] at hfits hregion ⊢
  have hvirtual := @toNat_virtualStorageOffset s.lowestUsedStorageDataOffset _
    s.storageBlockSize _ (toNat_maxSize hroom.size) (by omega) (by omega)
  rw [hblock] at hvirtual ⊢
  have hle := Nat.div_mul_le_self
    (s.lowestUsedStorageDataOffset.toNat - (8 + (16 + (getMaxSize seg).toNat))) info.blockSize.toNat
  rw [toNat_signExtend (by rw [hvirtual]; omega), hvirtual]
  have hsum : 8 + (16 + (getMaxSize seg).toNat) = 24 + (getMaxSize seg).toNat := by omega
  rw [hsum]

structure Allocated (info : StorageInfo) (getMaxSize : IzotPersistentSegType → UInt32)
    (seg : IzotPersistentSegType) (s s' : Storage σ) : Prop where
  block : s'.storageBlockSize = info.blockSize
  nonzero : s'.storageBlockSize ≠ 0
  start : s'.start seg = (s.lowest info - (24 + (getMaxSize seg).toNat)) / info.blockSize.toNat *
    info.blockSize.toNat
  stop_le : s'.stop seg ≤ s.lowest info
  size : (s'.segmentMap seg).maxDataSize.toNat = 16 + (getMaxSize seg).toNat
  tx : (s'.segmentMap seg).txOffset = (s'.segmentMap seg).segmentStart
  erase : (s'.segmentMap seg).erase = info.erase
  placed : s'.Placed seg
  lowest : s'.lowest info = s'.start seg
  other : ∀ a, a ≠ seg → s'.segmentMap a = s.segmentMap a ∧ (s'.Placed a ↔ s.Placed a)

theorem allocated_allocate (hsound : info.Sound) (hlaid : s.Laid info getMaxSize)
    (hblock : s.storageBlockSize = info.blockSize) (hroom : s.Room info (getMaxSize seg) info.erase) :
    Allocated info getMaxSize seg s (s.allocate getMaxSize seg info.erase) := by
  have hne : s.storageBlockSize ≠ 0 := by
    intro hzero
    have hblocks := hsound.blocks
    rw [← hblock, hzero] at hblocks
    exact absurd hblocks (by decide)
  have hself : (s.allocate getMaxSize seg info.erase).segmentMap seg =
      { segmentStart := signExtend (virtualStorageOffset s.lowestUsedStorageDataOffset
          (getMaxSize seg + sizeofPersistenceHeader).toUInt64 s.storageBlockSize)
        txOffset := signExtend (virtualStorageOffset s.lowestUsedStorageDataOffset
          (getMaxSize seg + sizeofPersistenceHeader).toUInt64 s.storageBlockSize)
        dataOffset := signExtend (virtualStorageOffset s.lowestUsedStorageDataOffset
          (getMaxSize seg + sizeofPersistenceHeader).toUInt64 s.storageBlockSize) +
            sizeofTransactionRecord
        maxDataSize := (getMaxSize seg + sizeofPersistenceHeader).toUInt64
        erase := info.erase } := Function.update_self ..
  have hsize := toNat_maxSize hroom.size
  have hstart : (s.allocate getMaxSize seg info.erase).start seg =
      (s.lowest info - (24 + (getMaxSize seg).toNat)) / info.blockSize.toNat *
        info.blockSize.toNat := by
    rw [start, hself]
    exact toNat_allocate hsound hblock hlaid.region hroom
  constructor
  case block => exact hblock
  case nonzero => exact hne
  case start => exact hstart
  case stop_le =>
    have hle :=
      Nat.div_mul_le_self (s.lowest info - (24 + (getMaxSize seg).toNat)) info.blockSize.toNat
    have hfits := hroom.fits
    rw [stop, hstart, hself, hsize]
    omega
  case size =>
    rw [hself]
    exact hsize
  case tx => rw [hself]
  case erase => rw [hself]
  case placed =>
    rw [Placed, allocate]
    dsimp only
    rw [Function.update_self]
    intro hzero
    rw [hzero] at hsize
    exact absurd hsize (by rw [UInt64.toNat_zero]; omega)
  case lowest =>
    refine (if_neg hne).trans ?_
    rw [start, hself]
    rfl
  case other =>
    intro a ha
    rw [Placed, allocate]
    dsimp only
    rw [Function.update_of_ne ha, Function.update_of_ne ha]
    exact ⟨rfl, Iff.rfl⟩

theorem Allocated.extended (h : Allocated info getMaxSize seg s s') (hplaced : ¬s.Placed seg) : Extends s s' := by
  intro a ha
  have hne : a ≠ seg := fun heq => hplaced (heq ▸ ha)
  exact ⟨(h.other a hne).2.mpr ha, (h.other a hne).1⟩

theorem Allocated.cases (h : Allocated info getMaxSize seg s s') {a : IzotPersistentSegType} (ha : s'.Placed a) :
    a = seg ∨ s.Placed a ∧ s'.segmentMap a = s.segmentMap a ∧ s'.start a = s.start a ∧
      s'.stop a = s.stop a := by
  by_cases heq : a = seg
  case pos => exact .inl heq
  case neg =>
    obtain ⟨hmap, hiff⟩ := h.other a heq
    refine .inr ⟨hiff.mp ha, hmap, ?_, ?_⟩
    · rw [Storage.start, hmap, Storage.start]
    · rw [stop, Storage.start, hmap, stop, Storage.start]

theorem Allocated.separate (h : Allocated info getMaxSize seg s s') (hlaid : s.Laid info getMaxSize)
    (hroom : s.Room info (getMaxSize seg) info.erase) : s'.Separate info where
  aligned a ha := by
    rcases h.cases ha with rfl | ⟨ha, -, hstart, -⟩
    · rw [h.start]
      exact Nat.dvd_mul_left _ _
    · rw [hstart]
      exact hlaid.separate.aligned a ha
  inside a ha := by
    rcases h.cases ha with rfl | ⟨ha, -, hstart, hstop⟩
    · exact ⟨by rw [h.start]; exact hroom.above, Nat.le_trans h.stop_le hlaid.region⟩
    · rw [hstart, hstop]
      exact hlaid.separate.inside a ha
  disjoint a b ha hb hab := by
    rcases h.cases ha with rfl | ⟨ha, -, hstarta, hstopa⟩
    · rcases h.cases hb with rfl | ⟨hb, -, hstartb, -⟩
      · exact absurd rfl hab
      · rw [hstartb]
        exact .inl (Nat.le_trans h.stop_le (hlaid.below b hb))
    · rcases h.cases hb with rfl | ⟨hb, -, hstartb, hstopb⟩
      · rw [hstarta]
        exact .inr (Nat.le_trans h.stop_le (hlaid.below a ha))
      · rw [hstarta, hstopa, hstartb, hstopb]
        exact hlaid.separate.disjoint a b ha hb hab
  erase a ha := by
    rcases h.cases ha with rfl | ⟨ha, hmap, -⟩
    · exact h.erase
    · rw [hmap]
      exact hlaid.separate.erase a ha

theorem Allocated.start_le (h : Allocated info getMaxSize seg s s') : s'.start seg ≤ s.lowest info := by
  have hstop := h.stop_le
  rw [stop] at hstop
  omega

theorem Allocated.laid (h : Allocated info getMaxSize seg s s') (hlaid : s.Laid info getMaxSize)
    (hroom : s.Room info (getMaxSize seg) info.erase) : s'.Laid info getMaxSize where
  separate := h.separate hlaid hroom
  block := .inr h.block
  fresh hzero := absurd hzero h.nonzero
  region := by
    rw [h.lowest]
    exact Nat.le_trans h.start_le hlaid.region
  below a ha := by
    rw [h.lowest]
    rcases h.cases ha with rfl | ⟨ha, -, hstart, -⟩
    · exact Nat.le_refl _
    · rw [hstart]
      exact Nat.le_trans h.start_le (hlaid.below a ha)
  size a ha := by
    rcases h.cases ha with rfl | ⟨ha, hmap, -⟩
    · exact h.size
    · rw [hmap]
      exact hlaid.size a ha
  tx a ha := by
    rcases h.cases ha with rfl | ⟨ha, hmap, -⟩
    · exact h.tx
    · rw [hmap]
      exact hlaid.tx a ha
  blank a ha := by
    have hne : a ≠ seg := fun heq => ha (heq ▸ h.placed)
    rw [(h.other a hne).1]
    exact hlaid.blank a fun hplaced => ha ((h.other a hne).2.mpr hplaced)

theorem laid_allocate (hsound : info.Sound) (hlaid : s.Laid info getMaxSize)
    (hblock : s.storageBlockSize = info.blockSize) (hplaced : ¬s.Placed seg)
    (hroom : s.Room info (getMaxSize seg) info.erase) :
    (s.allocate getMaxSize seg info.erase).Laid info getMaxSize ∧
      Extends s (s.allocate getMaxSize seg info.erase) ∧
      (s.allocate getMaxSize seg info.erase).Placed seg := by
  have hallocated := allocated_allocate hsound hlaid hblock hroom
  exact ⟨hallocated.laid hlaid hroom, hallocated.extended hplaced, hallocated.placed⟩

end Storage

end LonStack
