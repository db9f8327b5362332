import LonStack.Lib.Contains
import LonStack.Persist.LinuxHal
import LonStack.Persist.Segment
import LonStack.Persist.Separate

namespace LonStack

open Lib

namespace Storage

theorem mod_signExtend (w : UInt32) : (signExtend w).toNat % 4096 = w.toNat % 4096 := by
  have hpow : (4096 : Nat) = 2 ^ 12 := rfl
  unfold signExtend
  split
  next => rw [UInt32.toNat_toUInt64]
  next =>
    have hhigh : (0xFFFFFFFF00000000 : UInt64).toNat % 2 ^ 12 = 0 := rfl
    rw [UInt64.toNat_or, UInt32.toNat_toUInt64, hpow, Nat.or_mod_two_pow, hhigh, Nat.or_zero]

theorem mod_virtualStorageOffset (lowest size : UInt64) :
    (signExtend (virtualStorageOffset lowest size BLOCK_SIZE)).toNat % BLOCK_SIZE.toNat = 0 := by
  have hsize : BLOCK_SIZE.toNat = 4096 := rfl
  rw [hsize, mod_signExtend, virtualStorageOffset]
  generalize (lowest - (sizeofTransactionRecord + size)).toUInt32 = offset
  have hlt := offset.toNat_lt
  have hmod : (signExtend offset % BLOCK_SIZE).toUInt32.toNat = offset.toNat % 4096 := by
    rw [UInt64.toNat_toUInt32, UInt64.toNat_mod, hsize, mod_signExtend]
    omega
  rw [UInt32.toNat_sub_of_le _ _ (UInt32.le_iff_toNat_le.mpr (by omega)), hmod]
  omega

structure MapSound {σ : Type} (getMaxSize : IzotPersistentSegType → UInt32) (s : Storage σ) :
    Prop where
  block : s.storageBlockSize = 0 ∨ s.storageBlockSize = BLOCK_SIZE
  fresh : s.storageBlockSize = 0 → ∀ seg, ¬s.Placed seg
  tx : ∀ seg, (s.segmentMap seg).txOffset = (s.segmentMap seg).segmentStart
  aligned : ∀ seg, (s.segmentMap seg).segmentStart.toNat % BLOCK_SIZE.toNat = 0
  size : ∀ seg, s.Placed seg → (s.segmentMap seg).maxDataSize.toNat = 16 + (getMaxSize seg).toNat
  blank : ∀ seg, ¬s.Placed seg → s.segmentMap seg = default

def mapped {σ : Type} (getMaxSize : IzotPersistentSegType → UInt32) (seg : IzotPersistentSegType)
    (uninit : EraseInfo) (s : Storage σ) : Storage σ :=
  let read := if s.storageBlockSize = 0 then
      { s with
        lowestUsedStorageDataOffset := LINUX_FLASH_OFFSET + FLASH_REGION_SIZE
        storageBlockSize := BLOCK_SIZE }
    else s
  if s.dataSegmentSize seg = 0 ∧ seg.allocated then
    read.allocate getMaxSize seg (if s.storageBlockSize = 0 then ⟨false, 0⟩ else uninit)
  else read

variable {getMaxSize : IzotPersistentSegType → UInt32} {seg seg' : IzotPersistentSegType}
  {uninit : EraseInfo}

section

variable {σ : Type} {s s' : Storage σ}

theorem mapSound_init (getMaxSize : IzotPersistentSegType → UInt32) (h : σ) :
    (init h).MapSound getMaxSize where
  block := .inl rfl
  fresh _ _ := not_not_intro rfl
  tx _ := rfl
  aligned _ := rfl
  size _ hplaced := absurd rfl hplaced
  blank _ _ := rfl

theorem MapSound.same (hmap : s.MapSound getMaxSize) (h : SameMap s s') :
    s'.MapSound getMaxSize := by
  obtain ⟨map, blockSize, lowest, size, halState⟩ := s
  obtain ⟨map', blockSize', lowest', size', halState'⟩ := s'
  obtain ⟨hmapEq, hblock, hlowest, hsize⟩ := h
  dsimp only at hmapEq hblock hlowest hsize
  subst hmapEq hblock hlowest hsize
  exact ⟨hmap.block, hmap.fresh, hmap.tx, hmap.aligned, hmap.size, hmap.blank⟩

@[simp] theorem hal_mapped : (s.mapped getMaxSize seg uninit).hal = s.hal := by
  unfold mapped allocate
  dsimp only
  split <;> split <;> rfl

theorem storageBlockSize_mapped (hmap : s.MapSound getMaxSize) :
    (s.mapped getMaxSize seg uninit).storageBlockSize = BLOCK_SIZE := by
  have hread : (if s.storageBlockSize = 0 then
      { s with
        lowestUsedStorageDataOffset := LINUX_FLASH_OFFSET + FLASH_REGION_SIZE
        storageBlockSize := BLOCK_SIZE }
    else s).storageBlockSize = BLOCK_SIZE := by
    split
    next => rfl
    next hne => exact hmap.block.resolve_left hne
  unfold mapped
  dsimp only
  split
  next => exact hread
  next => exact hread

def Settled (s : Storage σ) (seg : IzotPersistentSegType) : Prop :=
  s.storageBlockSize ≠ 0 ∧ (s.Placed seg ∨ seg.allocated = false)

theorem mapped_of_settled (h : s.Settled seg) : s.mapped getMaxSize seg uninit = s := by
  have hplace : ¬(s.dataSegmentSize seg = 0 ∧ seg.allocated = true) := by
    rintro ⟨hsize, halloc⟩
    cases h.2 with
    | inl hplaced => exact hplaced hsize
    | inr hnot => exact Bool.noConfusion (halloc.symm.trans hnot)
  unfold mapped
  dsimp only
  rw [if_neg hplace, if_neg h.1]

def eraseOf (s : Storage σ) (seg : IzotPersistentSegType) (uninit : EraseInfo) : EraseInfo :=
  if s.dataSegmentSize seg = 0 ∧ seg.allocated then
    if s.storageBlockSize = 0 then ⟨false, 0⟩ else uninit
  else (s.segmentMap seg).erase

@[simp] theorem erase_mapped :
    ((s.mapped getMaxSize seg uninit).segmentMap seg).erase = s.eraseOf seg uninit := by
  unfold mapped eraseOf
  dsimp only
  split
  next =>
    unfold allocate
    dsimp only
    rw [Function.update_self]
  next =>
    split <;> rfl

theorem toNat_add_header {maxSize : UInt32} (h : maxSize.toNat + 24 < 2 ^ 31) :
    (maxSize + sizeofPersistenceHeader).toUInt64.toNat = 16 + maxSize.toNat :=
  toNat_maxSize (by omega)

theorem allocate_placed (hmax : (getMaxSize seg).toNat + 24 < 2 ^ 31) (erase : EraseInfo) :
    (s.allocate getMaxSize seg erase).Placed seg := by
  have hsize := toNat_add_header hmax
  unfold Placed allocate
  dsimp only
  rw [Function.update_self]
  intro hzero
  rw [hzero] at hsize
  change 0 = _ at hsize
  omega

theorem mapSound_allocate (hmap : s.MapSound getMaxSize) (hblock : s.storageBlockSize ≠ 0)
    (hmax : (getMaxSize seg).toNat + 24 < 2 ^ 31) (erase : EraseInfo) :
    (s.allocate getMaxSize seg erase).MapSound getMaxSize where
  block := hmap.block
  fresh hzero := absurd hzero hblock
  tx seg' := by
    unfold allocate
    dsimp only
    by_cases heq : seg' = seg
    case pos => subst heq; rw [Function.update_self]
    case neg => rw [Function.update_of_ne heq]; exact hmap.tx seg'
  aligned seg' := by
    unfold allocate
    dsimp only
    by_cases heq : seg' = seg
    case pos =>
      subst heq
      rw [Function.update_self, hmap.block.resolve_left hblock]
      exact mod_virtualStorageOffset _ _
    case neg =>
      rw [Function.update_of_ne heq]
      exact hmap.aligned seg'
  size seg' := by
    by_cases heq : seg' = seg
    case pos =>
      subst heq
      intro _
      unfold allocate
      dsimp only
      rw [Function.update_self]
      exact toNat_add_header hmax
    case neg =>
      unfold Placed allocate
      dsimp only
      rw [Function.update_of_ne heq, Function.update_of_ne heq]
      exact hmap.size seg'
  blank seg' hplaced := by
    have hne : seg' ≠ seg := by
      rintro rfl
      exact hplaced (allocate_placed hmax erase)
    unfold Placed allocate at hplaced
    unfold allocate
    dsimp only at hplaced ⊢
    rw [Function.update_of_ne hne] at hplaced ⊢
    exact hmap.blank seg' hplaced

theorem mapSound_mapped (hmap : s.MapSound getMaxSize)
    (hmax : (getMaxSize seg).toNat + 24 < 2 ^ 31) :
    (s.mapped getMaxSize seg uninit).MapSound getMaxSize ∧
      (s.mapped getMaxSize seg uninit).Settled seg := by
  by_cases hblock : s.storageBlockSize = 0
  case pos =>
    have hne : BLOCK_SIZE ≠ 0 := by decide
    have hread : MapSound getMaxSize { s with
        lowestUsedStorageDataOffset := LINUX_FLASH_OFFSET + FLASH_REGION_SIZE
        storageBlockSize := BLOCK_SIZE } :=
      ⟨.inr rfl, fun hzero => absurd hzero hne, hmap.tx, hmap.aligned, hmap.size, hmap.blank⟩
    unfold mapped
    dsimp only
    rw [if_pos hblock]
    split
    next =>
      exact ⟨mapSound_allocate hread hne hmax _, hne, .inl (allocate_placed hmax _)⟩
    next hnot =>
      have hfresh : s.dataSegmentSize seg = 0 := not_not.mp (hmap.fresh hblock seg)
      exact ⟨hread, hne,
        .inr (Bool.eq_false_iff.mpr fun halloc => hnot ⟨hfresh, halloc⟩)⟩
  case neg =>
    unfold mapped
    dsimp only
    rw [if_neg hblock]
    split
    next => exact ⟨mapSound_allocate hmap hblock hmax _, hblock, .inl (allocate_placed hmax _)⟩
    next hnot =>
      refine ⟨hmap, hblock, ?_⟩
      by_cases hplaced : s.dataSegmentSize seg = 0
      case pos => exact .inr (Bool.eq_false_iff.mpr fun halloc => hnot ⟨hplaced, halloc⟩)
      case neg => exact .inl hplaced

end

variable {s : Storage LinuxHal}

def fileSize {σ : Type} (s : Storage σ) (seg : IzotPersistentSegType) : UInt64 :=
  (s.segmentMap seg).maxDataSize + sizeofTransactionRecord

def opened (getMaxSize : IzotPersistentSegType → UInt32) (seg : IzotPersistentSegType)
    (uninit : EraseInfo) (s : Storage LinuxHal) : Storage LinuxHal :=
  { s.mapped getMaxSize seg uninit with
    hal := s.hal.initialized.opened seg ((s.mapped getMaxSize seg uninit).fileSize seg) }

theorem readStorageInfo_eq (hhealthy : s.hal.persistentMemError = .noError) :
    s.readStorageInfo linuxHal uninit =
      ((.noError, if s.storageBlockSize = 0 then ⟨false, 0⟩ else uninit),
        if s.storageBlockSize = 0 then
          { s with
            lowestUsedStorageDataOffset := LINUX_FLASH_OFFSET + FLASH_REGION_SIZE
            storageBlockSize := BLOCK_SIZE }
        else s) := by
  have hinfo : linuxHal.storageInfo s.hal = (.noError, s.hal) :=
    congrArg (fun status => (status, s.hal)) hhealthy
  unfold readStorageInfo
  rw [hinfo]
  by_cases hblock : s.storageBlockSize = 0
  case pos =>
    simp only [if_pos hblock]
    rfl
  case neg => simp only [if_neg hblock]

theorem initSegmentMap_eq (hhealthy : s.hal.persistentMemError = .noError) :
    s.initSegmentMap linuxHal getMaxSize seg uninit =
      (.noError, s.mapped getMaxSize seg uninit) := by
  have hplaced : (if s.storageBlockSize = 0 then
      { s with
        lowestUsedStorageDataOffset := LINUX_FLASH_OFFSET + FLASH_REGION_SIZE
        storageBlockSize := BLOCK_SIZE }
      else s).dataSegmentSize = s.dataSegmentSize := by
    split <;> rfl
  unfold initSegmentMap mapped
  rw [readStorageInfo_eq hhealthy]
  dsimp only
  rw [if_neg (not_not_intro rfl), hplaced]
  split <;> rfl

theorem mapped_withHal (h : LinuxHal) :
    ({ s with hal := h } : Storage LinuxHal).mapped getMaxSize seg uninit =
      { s.mapped getMaxSize seg uninit with hal := h } := by
  unfold mapped
  dsimp only
  split
  next => split <;> simp only [allocate]
  next => split <;> rfl

theorem openStorageSegment_of_eq {σ : Type} {hal : Hal σ} {s s' : Storage σ} {h h' : σ}
    (hinit : hal.initStorage s.hal = (.noError, h))
    (hmap : initSegmentMap hal getMaxSize seg { s with hal := h } uninit = (.noError, s'))
    (hopen : hal.openSegment seg ((s'.segmentMap seg).maxDataSize + sizeofTransactionRecord) s'.hal =
      (.noError, h')) :
    s.openStorageSegment hal getMaxSize seg uninit = (.noError, { s' with hal := h' }) := by
  simp only [openStorageSegment, hinit, hmap, hopen, ne_eq, not_true, if_false]

theorem openStorageSegment_eq (hw : s.hal.Working) :
    s.openStorageSegment linuxHal getMaxSize seg uninit =
      (.noError, s.opened getMaxSize seg uninit) := by
  have hmap : initSegmentMap linuxHal getMaxSize seg { s with hal := s.hal.initialized } uninit =
      (.noError, { s.mapped getMaxSize seg uninit with hal := s.hal.initialized }) := by
    rw [← mapped_withHal]
    exact initSegmentMap_eq hw.healthy
  have hopened := openStorageSegment_of_eq hw.halInitStorage hmap
    hw.initialized.halOpenStorageSegment
  exact hopened

theorem working_opened (hw : s.hal.Working) :
    (s.opened getMaxSize seg uninit).hal.Working := hw.initialized.opened

-- The segment is opened, something is done with its file, and it is closed.

structure Closed (getMaxSize : IzotPersistentSegType → UInt32) (seg : IzotPersistentSegType)
    (s : Storage LinuxHal) : Prop where
  map : s.MapSound getMaxSize
  settled : s.Settled seg
  working : s.hal.Working
  initialized : s.hal.persistentMemInitialized = true
  closed : s.hal.storageFd seg = none

def content (s : Storage LinuxHal) (seg : IzotPersistentSegType) : OsFileContent :=
  s.hal.os.content (.segment seg)

theorem Closed.usable (h : s.Closed getMaxSize seg) : s.hal.Usable seg :=
  fun hfd => absurd h.closed hfd

theorem initialized_opened :
    (s.opened getMaxSize seg uninit).hal.persistentMemInitialized = true :=
  LinuxHal.initialized_opened

theorem closed_opened (hmap : s.MapSound getMaxSize) (hmax : (getMaxSize seg).toNat + 24 < 2 ^ 31)
    {h : LinuxHal} (hw : h.Working) (hinit : h.persistentMemInitialized = true) :
    ({ s.opened getMaxSize seg uninit with hal := h.closed seg } : Storage LinuxHal).Closed
      getMaxSize seg where
  map := (mapSound_mapped hmap hmax).1.same ⟨rfl, rfl, rfl, rfl⟩
  settled := (mapSound_mapped hmap hmax).2
  working := hw.closed
  initialized := LinuxHal.initialized_closed.trans hinit
  closed := LinuxHal.storageFd_closed

theorem tx_opened (hmap : s.MapSound getMaxSize) (hmax : (getMaxSize seg).toNat + 24 < 2 ^ 31) :
    ((s.opened getMaxSize seg uninit).segmentMap seg).txOffset =
      ((s.opened getMaxSize seg uninit).segmentMap seg).segmentStart :=
  (mapSound_mapped hmap hmax).1.tx seg

theorem content_opened (hfd : s.hal.storageFd seg = none) :
    (s.opened getMaxSize seg uninit).content seg =
      (s.content seg).truncate ((s.mapped getMaxSize seg uninit).fileSize seg).toNat :=
  LinuxHal.content_opened (h := s.hal.initialized) hfd

theorem file_opened (hfd : s.hal.storageFd seg = none) :
    (s.opened getMaxSize seg uninit).hal.file seg = some (.segment seg) :=
  LinuxHal.file_opened (h := s.hal.initialized) hfd

theorem halClose_eq (hw : s.hal.Working) :
    s.halClose linuxHal seg = (.noError, { s with hal := s.hal.closed seg }) := by
  have hclose : linuxHal.closeSegment seg s.hal = (.noError, s.hal.closed seg) :=
    hw.halCloseStorageSegment
  unfold halClose
  rw [hclose]

theorem exists_file_opened (husable : s.hal.Usable seg) :
    ∃ f, (s.opened getMaxSize seg uninit).hal.file seg = some f ∧
      (s.opened getMaxSize seg uninit).hal.os.kind f ≠ .stream :=
  LinuxHal.Usable.opened (h := s.hal.initialized) husable

theorem writeRecord_eq (hmap : s.MapSound getMaxSize)
    (hmax : (getMaxSize seg).toNat + 24 < 2 ^ 31) (hw : s.hal.Working)
    (husable : s.hal.Usable seg) (r : TransactionRecord) :
    ∃ f, (s.opened getMaxSize seg uninit).hal.file seg = some f ∧
      s.writeRecord linuxHal getMaxSize seg uninit r =
        (.noError, { s.opened getMaxSize seg uninit with
          hal := ((s.opened getMaxSize seg uninit).hal.written f 0 r.bytes).closed seg }) := by
  obtain ⟨f, hfile, hkind⟩ :=
    @exists_file_opened getMaxSize seg uninit s husable
  refine ⟨f, hfile, ?_⟩
  have htx := @tx_opened getMaxSize seg uninit s hmap hmax
  generalize hs : s.opened getMaxSize seg uninit = s' at hfile hkind htx
  have hw' : s'.hal.Working := hs ▸ working_opened hw
  have hzero : ((s'.segmentMap seg).txOffset - (s'.segmentMap seg).segmentStart).toNat = 0 := by
    rw [htx, UInt64.sub_self]
    rfl
  have hwrite : linuxHal.writeSegment seg r.bytes (s'.segmentMap seg).segmentStart
      (s'.segmentMap seg).txOffset s'.hal = (.noError, s'.hal.written f
        ((s'.segmentMap seg).txOffset - (s'.segmentMap seg).segmentStart).toNat r.bytes) :=
    hw'.halWriteStorageSegment hfile hkind (by rw [hzero]; decide)
  rw [hzero] at hwrite
  unfold writeRecord
  rw [openStorageSegment_eq hw, hs]
  simp only [ne_eq, not_true, if_false, hwrite]
  exact halClose_eq (s := { s' with hal := s'.hal.written f 0 r.bytes }) (hw'.written 0)

theorem opened_of_settled (h : s.Settled seg) :
    s.opened getMaxSize seg uninit =
      { s with hal := s.hal.initialized.opened seg (s.fileSize seg) } := by
  rw [opened, mapped_of_settled h]

theorem toNat_fileSize (hmap : s.MapSound getMaxSize)
    (hmax : (getMaxSize seg).toNat + 24 < 2 ^ 31) (hplaced : s.Placed seg) :
    (s.fileSize seg).toNat = 24 + (getMaxSize seg).toNat := by
  have hsize := hmap.size seg hplaced
  rw [fileSize, UInt64.toNat_add, hsize]
  change (16 + (getMaxSize seg).toNat + 8) % 2 ^ 64 = _
  omega

theorem le_fileSize (hmap : s.MapSound getMaxSize)
    (hmax : (getMaxSize seg).toNat + 24 < 2 ^ 31) : 8 ≤ (s.fileSize seg).toNat := by
  by_cases hplaced : s.Placed seg
  case pos =>
    rw [toNat_fileSize hmap hmax hplaced]
    omega
  case neg =>
    rw [fileSize, hmap.blank seg hplaced]
    decide

theorem writeRecord_usable (hmap : s.MapSound getMaxSize)
    (hmax : (getMaxSize seg).toNat + 24 < 2 ^ 31) (hw : s.hal.Working)
    (husable : s.hal.Usable seg) (r : TransactionRecord) :
    ∃ s', s.writeRecord linuxHal getMaxSize seg uninit r = (.noError, s') ∧
      s'.Closed getMaxSize seg ∧ s'.segmentMap seg = (s.mapped getMaxSize seg uninit).segmentMap seg := by
  obtain ⟨f, -, heq⟩ := @writeRecord_eq getMaxSize seg uninit s hmap hmax hw husable r
  exact ⟨_, heq, closed_opened hmap hmax ((working_opened hw).written 0) initialized_opened, rfl⟩

structure Accessed (getMaxSize : IzotPersistentSegType → UInt32) (seg : IzotPersistentSegType)
    (s s' : Storage LinuxHal) (offset : Nat) (bytes : List UInt8) : Prop where
  closed : s'.Closed getMaxSize seg
  map : s'.segmentMap seg = s.segmentMap seg
  block : s'.storageBlockSize = s.storageBlockSize
  content : s'.content seg =
    ((s.content seg).truncate (s.fileSize seg).toNat).writeAt offset bytes
  others : ∀ f, f ≠ .segment seg → s'.hal.os.content f = s.hal.os.content f

theorem accessed_of_written (uninit : EraseInfo) (hmax : (getMaxSize seg).toNat + 24 < 2 ^ 31)
    (h : s.Closed getMaxSize seg) (offset : Nat) (bytes : List UInt8) :
    Accessed getMaxSize seg s { s.opened getMaxSize seg uninit with
      hal := ((s.opened getMaxSize seg uninit).hal.written (.segment seg) offset bytes).closed seg }
      offset bytes where
  closed := closed_opened h.map hmax ((working_opened h.working).written offset) initialized_opened
  map := by rw [opened_of_settled h.settled]
  block := by rw [opened_of_settled h.settled]
  content := by
    rw [content, LinuxHal.content_closed, LinuxHal.content_written]
    refine congrArg (OsFileContent.writeAt · offset bytes) ((content_opened h.closed).trans ?_)
    rw [mapped_of_settled h.settled]
  others f hne := by
    rw [LinuxHal.content_closed, LinuxHal.content_written_of_ne hne]
    exact LinuxHal.content_opened_of_ne hne

theorem writeRecord_closed (hmax : (getMaxSize seg).toNat + 24 < 2 ^ 31)
    (h : s.Closed getMaxSize seg) (r : TransactionRecord) :
    ∃ s', s.writeRecord linuxHal getMaxSize seg uninit r = (.noError, s') ∧
      Accessed getMaxSize seg s s' 0 r.bytes := by
  obtain ⟨f, hfile, heq⟩ := @writeRecord_eq getMaxSize seg uninit s h.map hmax h.working h.usable r
  have hown : f = .segment seg := Option.some.inj (hfile.symm.trans (file_opened h.closed))
  subst hown
  exact ⟨_, heq, accessed_of_written uninit hmax h 0 r.bytes⟩

def eraseBlock {σ : Type} (s : Storage σ) (seg : IzotPersistentSegType) : Nat :=
  if (s.segmentMap seg).erase.eraseRequired then s.storageBlockSize.toNat else 8

def erasedBytes {σ : Type} (s : Storage σ) (seg : IzotPersistentSegType) : List UInt8 :=
  List.replicate (s.eraseBlock seg) (s.segmentMap seg).erase.eraseValue

theorem blocksFor_eq_one {size blockSize : UInt64} (hpos : 0 < size.toNat)
    (hle : size.toNat ≤ blockSize.toNat) : blocksFor size blockSize = 1 := by
  have hblock : 0 < blockSize.toNat := Nat.lt_of_lt_of_le hpos hle
  exact Nat.div_eq_of_lt_le (by omega) (by omega)

theorem prepareStorageSegment_single (hblock : s.storageBlockSize = BLOCK_SIZE) {size : UInt64}
    (hfits : (s.segmentMap seg).erase.eraseRequired = true →
      0 < size.toNat ∧ size.toNat ≤ BLOCK_SIZE.toNat) :
    ∃ size', size'.toNat = s.eraseBlock seg ∧
      ∀ r, s.hal.halPrepareStorageSegment seg (s.segmentMap seg).segmentStart
          (s.segmentMap seg).segmentStart size' (s.segmentMap seg).erase.eraseValue = r →
        s.prepareStorageSegment linuxHal seg size = (r.1, { s with hal := r.2 }) := by
  have hblocks : blocksFor (if (s.segmentMap seg).erase.eraseRequired = true then size
      else sizeofTransactionRecord) s.storageBlockSize = 1 := by
    rw [hblock]
    split
    next hreq => exact blocksFor_eq_one (hfits hreq).1 (hfits hreq).2
    next => decide
  have hlength : (if (s.segmentMap seg).erase.eraseRequired = true then s.storageBlockSize
      else sizeofTransactionRecord).toNat = s.eraseBlock seg := by
    unfold eraseBlock
    split <;> rfl
  refine ⟨_, hlength, fun r hr => ?_⟩
  unfold prepareStorageSegment
  dsimp only
  rw [hblocks]
  generalize (if (s.segmentMap seg).erase.eraseRequired = true then s.storageBlockSize
      else sizeofTransactionRecord) = eraseBlockSize at hr ⊢
  have hprepare : linuxHal.prepareSegment seg (s.segmentMap seg).segmentStart
      (s.segmentMap seg).segmentStart eraseBlockSize (s.segmentMap seg).erase.eraseValue s.hal = r := hr
  obtain ⟨status, h⟩ := r
  simp only [prepareBlocks, hprepare]
  by_cases hstatus : status = .noError
  case pos =>
    subst hstatus
    exact if_neg (not_not_intro rfl)
  case neg => exact if_pos hstatus

theorem toNat_sub_start (seg : IzotPersistentSegType) (s : Storage LinuxHal) :
    ((s.segmentMap seg).segmentStart - (s.segmentMap seg).segmentStart).toNat = 0 := by
  rw [UInt64.sub_self]
  rfl

theorem prepareStorageSegment_one (hhealthy : s.hal.persistentMemError = .noError)
    (hfault : s.hal.fault = none) {f : OsFile} (hfile : s.hal.file seg = some f)
    (hkind : s.hal.os.kind f ≠ .stream)
    (hblock : s.storageBlockSize = BLOCK_SIZE) {size : UInt64}
    (hfits : (s.segmentMap seg).erase.eraseRequired = true →
      0 < size.toNat ∧ size.toNat ≤ BLOCK_SIZE.toNat) :
    s.prepareStorageSegment linuxHal seg size =
      (.noError, { s with hal := s.hal.taken.written f 0 (s.erasedBytes seg) }) := by
  have hzero := toNat_sub_start seg s
  obtain ⟨size', hsize, heq⟩ := prepareStorageSegment_single hblock hfits
  have hprepare := @LinuxHal.halPrepareStorageSegment_of_fault s.hal seg f
    (s.segmentMap seg).segmentStart (s.segmentMap seg).segmentStart size'
    (s.segmentMap seg).erase.eraseValue hhealthy hfile hkind (by rw [hzero]; decide) hfault
  rw [hzero, hsize] at hprepare
  exact heq _ hprepare

theorem openForWrite_closed (hmax : (getMaxSize seg).toNat + 24 < 2 ^ 31)
    (h : s.Closed getMaxSize seg) {dataSize : UInt64}
    (hle : dataSize ≤ (s.segmentMap seg).maxDataSize)
    (hfits : (s.segmentMap seg).erase.eraseRequired = true →
      dataSize.toNat + 8 ≤ BLOCK_SIZE.toNat) (hlt : dataSize.toNat < 2 ^ 32) :
    ∃ s', s.izotStorageOpenSegForWrite linuxHal getMaxSize seg uninit dataSize = (some seg, s') ∧
      Accessed getMaxSize seg s s' 0 (s.erasedBytes seg) := by
  have hopened := @opened_of_settled getMaxSize seg uninit s h.settled
  have hsize : (dataSize + sizeofTransactionRecord).toNat = dataSize.toNat + 8 := by
    rw [UInt64.toNat_add]
    change (dataSize.toNat + 8) % 2 ^ 64 = _
    omega
  have hprepare : (s.opened getMaxSize seg uninit).prepareStorageSegment linuxHal seg
      (dataSize + sizeofTransactionRecord) = (.noError, { s.opened getMaxSize seg uninit with
        hal := (s.opened getMaxSize seg uninit).hal.written (.segment seg) 0 (s.erasedBytes seg) }) := by
    have herased : (s.opened getMaxSize seg uninit).erasedBytes seg = s.erasedBytes seg := by
      rw [hopened]
      rfl
    have hw := @working_opened getMaxSize seg uninit s h.working
    rw [← herased, ← hw.taken]
    refine prepareStorageSegment_one hw.healthy hw.fault (file_opened h.closed)
      (LinuxHal.kind_segment _ seg) ?_ ?_
    · rw [hopened]
      exact h.map.block.resolve_left h.settled.1
    · rw [hopened, hsize]
      exact fun hreq => ⟨by omega, hfits hreq⟩
  have hle' : dataSize ≤ ((s.opened getMaxSize seg uninit).segmentMap seg).maxDataSize := by
    rw [hopened]
    exact hle
  refine ⟨_, ?_, accessed_of_written uninit hmax h 0 _⟩
  unfold izotStorageOpenSegForWrite
  rw [openStorageSegment_eq h.working]
  dsimp only
  rw [if_neg (not_not_intro rfl), if_pos hle', hprepare]
  dsimp only
  rw [halClose_eq ((working_opened h.working).written 0)]
  dsimp only
  rw [if_pos rfl]

theorem linux_prepareSegment_next (hw : s.hal.Working) {f : OsFile}
    (hfile : s.hal.file seg = some f) (segStart size : UInt64) (value : UInt8) :
    linuxHal.prepareSegment seg segStart (segStart + BLOCK_SIZE) size value s.hal =
      s.hal.fail .persistentDataAccessError := by
  have hsub : segStart - (segStart + BLOCK_SIZE) = 0 - BLOCK_SIZE := by grind
  change s.hal.halPrepareStorageSegment seg segStart (segStart + BLOCK_SIZE) size value = _
  rw [LinuxHal.halPrepareStorageSegment, LinuxHal.guarded_eq hw.healthy, LinuxHal.transfer, hfile,
    hsub]
  exact if_pos (.inr (by decide))

theorem prepareStorageSegment_more (hw : s.hal.Working) {f : OsFile}
    (hfile : s.hal.file seg = some f) (hkind : s.hal.os.kind f ≠ .stream)
    (hblock : s.storageBlockSize = BLOCK_SIZE) {size : UInt64}
    (hreq : (s.segmentMap seg).erase.eraseRequired = true)
    (hmore : BLOCK_SIZE.toNat < size.toNat) :
    s.prepareStorageSegment linuxHal seg size =
      (.persistentDataAccessError, { s with
        hal := ((s.hal.written f 0 (s.erasedBytes seg)).fail .persistentDataAccessError).2 }) := by
  obtain ⟨m, hm⟩ : ∃ m, blocksFor size s.storageBlockSize = m + 2 := by
    refine Nat.exists_eq_add_of_le' ?_
    have hsize : BLOCK_SIZE.toNat = 4096 := rfl
    rw [hblock, blocksFor, hsize]
    omega
  have hzero : ((s.segmentMap seg).segmentStart - (s.segmentMap seg).segmentStart).toNat = 0 := by
    rw [UInt64.sub_self]
    rfl
  have hfirst : linuxHal.prepareSegment seg (s.segmentMap seg).segmentStart
      (s.segmentMap seg).segmentStart s.storageBlockSize (s.segmentMap seg).erase.eraseValue s.hal =
      (.noError, s.hal.taken.written f ((s.segmentMap seg).segmentStart -
        (s.segmentMap seg).segmentStart).toNat
        (List.replicate s.storageBlockSize.toNat (s.segmentMap seg).erase.eraseValue)) :=
    LinuxHal.halPrepareStorageSegment_of_fault hw.healthy hfile hkind (by rw [hzero]; decide) hw.fault
  have herased : List.replicate s.storageBlockSize.toNat (s.segmentMap seg).erase.eraseValue =
      s.erasedBytes seg := by
    rw [erasedBytes, eraseBlock, if_pos hreq]
  rw [hzero, herased, hw.taken] at hfirst
  have hsecond := @linux_prepareSegment_next seg
    { s with hal := s.hal.written f 0 (s.erasedBytes seg) } (hw.written 0) f
    (LinuxHal.file_written.trans hfile) (s.segmentMap seg).segmentStart s.storageBlockSize
    (s.segmentMap seg).erase.eraseValue
  unfold prepareStorageSegment
  simp only [hreq, if_true, hm, prepareBlocks, hfirst, ne_eq, not_true, if_false]
  rw [hblock] at hsecond ⊢
  simp only [hsecond]
  rfl

theorem openForWrite_more (h : s.Closed getMaxSize seg) {dataSize : UInt64}
    (hle : dataSize ≤ (s.segmentMap seg).maxDataSize)
    (hreq : (s.segmentMap seg).erase.eraseRequired = true)
    (hmore : BLOCK_SIZE.toNat < dataSize.toNat + 8) (hlt : dataSize.toNat < 2 ^ 32) :
    ∃ s', s.izotStorageOpenSegForWrite linuxHal getMaxSize seg uninit dataSize = (none, s') ∧
      s'.hal.persistentMemError ≠ .noError ∧
      s'.content seg = ((s.content seg).truncate (s.fileSize seg).toNat).writeAt 0
        (s.erasedBytes seg) := by
  have hopened := @opened_of_settled getMaxSize seg uninit s h.settled
  have hsize : (dataSize + sizeofTransactionRecord).toNat = dataSize.toNat + 8 := by
    rw [UInt64.toNat_add]
    change (dataSize.toNat + 8) % 2 ^ 64 = _
    omega
  have hle' : dataSize ≤ ((s.opened getMaxSize seg uninit).segmentMap seg).maxDataSize := by
    rw [hopened]
    exact hle
  have hprepare := @prepareStorageSegment_more seg (s.opened getMaxSize seg uninit)
    (working_opened h.working) _ (file_opened h.closed) (LinuxHal.kind_segment _ seg)
    (by rw [hopened]; exact h.map.block.resolve_left h.settled.1)
    (dataSize + sizeofTransactionRecord) (by rw [hopened]; exact hreq) (by rw [hsize]; exact hmore)
  have hopen := @openStorageSegment_eq getMaxSize seg uninit s h.working
  have hcontent := @content_opened getMaxSize seg uninit s h.closed
  have herased : (s.opened getMaxSize seg uninit).erasedBytes seg = s.erasedBytes seg := by
    rw [hopened]
    rfl
  rw [herased] at hprepare
  rw [mapped_of_settled h.settled] at hcontent
  generalize s.opened getMaxSize seg uninit = s' at *
  refine ⟨{ s' with hal := ((s'.hal.written (.segment seg) 0 (s.erasedBytes seg)).fail
    .persistentDataAccessError).2 }, ?_, nofun, ?_⟩
  · unfold izotStorageOpenSegForWrite
    simp only [hopen, hprepare, ne_eq, not_true, if_false, if_pos hle']
    rfl
  · rw [← hcontent]
    exact LinuxHal.content_written

theorem written_nil {h : LinuxHal} {offset : Nat}
    (hle : offset ≤ (h.os.content (.segment seg)).size) :
    h.written (.segment seg) offset [] = h := by
  rw [LinuxHal.written, LinuxOs.writeAt_segment, OsFileContent.writeAt_of_le hle,
    List.length_nil, Nat.add_zero, Nat.max_eq_left hle]
  exact congrArg (fun content => { h with os := { h.os with content := content } })
    (Function.update_eq_self (OsFile.segment seg) h.os.content)

theorem written_append {h : LinuxHal} {offset : Nat} (bytes bytes' : List UInt8)
    (hle : offset ≤ (h.os.content (.segment seg)).size) :
    (h.written (.segment seg) offset bytes).written (.segment seg) (offset + bytes.length) bytes' =
      h.written (.segment seg) offset (bytes ++ bytes') := by
  unfold LinuxHal.written
  dsimp only
  simp only [LinuxOs.writeAt_segment, LinuxOs.content_setContent, OsFileContent.writeAt_append hle]
  unfold LinuxOs.setContent
  dsimp only
  rw [Function.update_idem]

theorem sizeToWrite_bounds {nextOffset blockSize : UInt64} {data : List UInt8} (hnil : data ≠ [])
    (hblock : blockSize ≠ 0) :
    ∃ k, (if (blockSize - nextOffset % blockSize).toNat < data.length then
        (blockSize - nextOffset % blockSize).toNat else data.length) = k ∧ 0 < k ∧
      k ≤ data.length := by
  have hpos : 0 < data.length := List.length_pos_iff.mpr hnil
  have hroom : 0 < (blockSize - nextOffset % blockSize).toNat := by
    have hsize : 0 < blockSize.toNat :=
      Nat.pos_of_ne_zero fun hzero => hblock (UInt64.toNat_inj.mp hzero)
    have hmod : (nextOffset % blockSize).toNat < blockSize.toNat := by
      rw [UInt64.toNat_mod]
      exact Nat.mod_lt _ hsize
    rw [UInt64.toNat_sub_of_le _ _ (UInt64.le_iff_toNat_le.mpr (Nat.le_of_lt hmod))]
    omega
  refine ⟨_, rfl, ?_, ?_⟩
  · split
    next => exact hroom
    next => exact hpos
  · split
    next hlt => exact Nat.le_of_lt hlt
    next => exact Nat.le_refl _

theorem toNat_next {nextOffset segStart : UInt64} {k : Nat}
    (hlt : (nextOffset - segStart).toNat + k < 2 ^ 63) :
    (nextOffset + .ofNat k - segStart).toNat = (nextOffset - segStart).toNat + k := by
  have hofNat : (UInt64.ofNat k).toNat = k :=
    UInt64.toNat_ofNat_of_lt' (Nat.lt_of_lt_of_le (by omega : k < 2 ^ 63) (by decide))
  have hsub : nextOffset + .ofNat k - segStart = nextOffset - segStart + .ofNat k := by grind
  rw [hsub, UInt64.toNat_add, hofNat]
  exact Nat.mod_eq_of_lt (by omega)

theorem writeBlocks_eq (segStart : UInt64) (n : Nat) :
    ∀ (data : List UInt8) (nextOffset : UInt64) (s : Storage LinuxHal),
      s.hal.Working → s.hal.file seg = some (.segment seg) → s.storageBlockSize ≠ 0 →
      data.length ≤ n → (nextOffset - segStart).toNat + data.length < 2 ^ 63 →
      (nextOffset - segStart).toNat ≤ (s.content seg).size →
      writeBlocks linuxHal seg segStart n nextOffset data s =
        (.noError, { s with
          hal := s.hal.written (.segment seg) (nextOffset - segStart).toNat data }) := by
  induction n with
  | zero =>
    intro data nextOffset s hw hfile hblock hlen hlt hle
    rw [List.eq_nil_of_length_eq_zero (Nat.le_zero.mp hlen), written_nil hle]
    rfl
  | succ n ih =>
    intro data nextOffset s hw hfile hblock hlen hlt hle
    by_cases hnil : data = []
    case pos =>
      subst hnil
      rw [written_nil hle]
      rfl
    case neg =>
      obtain ⟨k, hk, hkpos, hkle⟩ := @sizeToWrite_bounds nextOffset _ data hnil hblock
      have htake : (data.take k).length = k := by rw [List.length_take, Nat.min_eq_left hkle]
      have hwrite : linuxHal.writeSegment seg (data.take k) segStart nextOffset s.hal =
          (.noError, s.hal.written (.segment seg) (nextOffset - segStart).toNat (data.take k)) :=
        hw.halWriteStorageSegment hfile (LinuxHal.kind_segment _ seg) (by omega)
      have hnext := @toNat_next nextOffset segStart k (by omega)
      simp only [writeBlocks, if_neg hnil, hk, hwrite, ne_eq, not_true, if_false]
      have hrest := ih (data.drop k) (nextOffset + .ofNat k)
        { s with hal := s.hal.written (.segment seg) (nextOffset - segStart).toNat (data.take k) }
        (hw.written _) (LinuxHal.file_written.trans hfile) hblock
        (by rw [List.length_drop]; omega) (by rw [List.length_drop, hnext]; omega) ?_
      · rw [hrest, hnext]
        have happend := written_append (data.take k) (data.drop k) hle
        rw [htake, List.take_append_drop] at happend
        rw [happend]
      · have hle' : (nextOffset - segStart).toNat ≤ (s.hal.os.content (.segment seg)).size := hle
        rw [hnext, content, LinuxHal.content_written, OsFileContent.writeAt_of_le hle', htake]
        exact Nat.le_max_right _ _

theorem write_closed (hmax : (getMaxSize seg).toNat + 24 < 2 ^ 31)
    (h : s.Closed getMaxSize seg) {segmentOffset : UInt64} {data : List UInt8}
    (hle : segmentOffset.toNat ≤ (s.fileSize seg).toNat)
    (hlt : segmentOffset.toNat + data.length < 2 ^ 63) :
    ∃ s', s.izotStorageWriteSeg linuxHal getMaxSize seg uninit segmentOffset data =
        (.noError, s') ∧ Accessed getMaxSize seg s s' segmentOffset.toNat data := by
  have hopened := @opened_of_settled getMaxSize seg uninit s h.settled
  have hcancel (start : UInt64) : segmentOffset + start - start = segmentOffset :=
    UInt64.add_sub_cancel _ _
  have hblock : (s.opened getMaxSize seg uninit).storageBlockSize ≠ 0 := by
    rw [hopened]
    exact h.settled.1
  have hsize : ((s.opened getMaxSize seg uninit).content seg).size = (s.fileSize seg).toNat := by
    rw [content_opened h.closed, mapped_of_settled h.settled]
    rfl
  have hblocks := writeBlocks_eq ((s.opened getMaxSize seg uninit).segmentMap seg).segmentStart
    data.length data (segmentOffset + ((s.opened getMaxSize seg uninit).segmentMap seg).segmentStart)
    (s.opened getMaxSize seg uninit) (working_opened h.working) (file_opened h.closed) hblock
    (Nat.le_refl _) (by rw [hcancel]; exact hlt) (by rw [hcancel, hsize]; exact hle)
  rw [hcancel] at hblocks
  refine ⟨_, ?_, accessed_of_written uninit hmax h segmentOffset.toNat data⟩
  unfold izotStorageWriteSeg
  rw [openStorageSegment_eq h.working]
  dsimp only
  rw [if_neg (not_not_intro rfl), hblocks]
  dsimp only
  rw [if_neg (not_not_intro rfl)]
  exact halClose_eq ((working_opened h.working).written segmentOffset.toNat)

theorem isInvalid_of_read (hmap : s.MapSound getMaxSize)
    (hmax : (getMaxSize seg).toNat + 24 < 2 ^ 31) (hw : s.hal.Working) {f : OsFile}
    (hfile : (s.opened getMaxSize seg uninit).hal.file seg = some f)
    (hkind : (s.opened getMaxSize seg uninit).hal.os.kind f ≠ .stream)
    (hsize : 8 ≤ (s.opened getMaxSize seg uninit).hal.os.size f) :
    s.izotStorageSegIsInvalid linuxHal getMaxSize seg uninit =
      (!(TransactionRecord.ofBytes
          (((s.opened getMaxSize seg uninit).hal.os.content f).data.slice 0 8)).valid,
        { s.opened getMaxSize seg uninit with
          hal := (s.opened getMaxSize seg uninit).hal.closed seg }) := by
  have htx := @tx_opened getMaxSize seg uninit s hmap hmax
  have hopen := @openStorageSegment_eq getMaxSize seg uninit s hw
  have hw' := @working_opened getMaxSize seg uninit s hw
  generalize s.opened getMaxSize seg uninit = s' at *
  have hzero : ((s'.segmentMap seg).txOffset - (s'.segmentMap seg).segmentStart).toNat = 0 := by
    rw [htx, UInt64.sub_self]
    rfl
  have hread : linuxHal.readSegment seg (s'.segmentMap seg).segmentStart
      (s'.segmentMap seg).txOffset sizeofTransactionRecord s'.hal =
      ((.noError, (s'.hal.os.content f).data.slice
        ((s'.segmentMap seg).txOffset - (s'.segmentMap seg).segmentStart).toNat
        sizeofTransactionRecord.toNat), s'.hal) :=
    hw'.halReadStorageSegment hfile hkind (by rw [hzero]; exact Nat.le_trans (by decide) hsize)
  have height : sizeofTransactionRecord.toNat = 8 := rfl
  rw [hzero, height] at hread
  have hclose := @halClose_eq seg s' hw'
  unfold izotStorageSegIsInvalid
  simp only [hopen, hread, ne_eq, not_true, if_false]
  simp only [hclose, not_true, if_false]

theorem isInvalid_of_not_read (hw : s.hal.Working)
    (hbad : ∀ f, (s.opened getMaxSize seg uninit).hal.file seg = some f →
      (s.opened getMaxSize seg uninit).hal.os.kind f = .stream ∨
        (s.opened getMaxSize seg uninit).hal.os.size f < 8) :
    ∃ s', s.izotStorageSegIsInvalid linuxHal getMaxSize seg uninit = (true, s') ∧
      s'.hal.persistentMemError ≠ .noError ∧
      s'.hal.os = (s.opened getMaxSize seg uninit).hal.os := by
  have hopen := @openStorageSegment_eq getMaxSize seg uninit s hw
  have hw' := @working_opened getMaxSize seg uninit s hw
  generalize s.opened getMaxSize seg uninit = s' at *
  obtain ⟨h', hread, herror, hos⟩ : ∃ h', linuxHal.readSegment seg (s'.segmentMap seg).segmentStart
      (s'.segmentMap seg).txOffset sizeofTransactionRecord s'.hal =
      ((.persistentDataAccessError, []), h') ∧ h'.persistentMemError ≠ .noError ∧
        h'.os = s'.hal.os := by
    change ∃ h', s'.hal.halReadStorageSegment seg (s'.segmentMap seg).segmentStart
      (s'.segmentMap seg).txOffset sizeofTransactionRecord = _ ∧ _
    unfold LinuxHal.halReadStorageSegment
    rw [if_neg (not_not_intro hw'.healthy)]
    cases hfile : s'.hal.file seg with
    | none => exact ⟨_, rfl, nofun, rfl⟩
    | some f =>
      have hfail : s'.hal.os.kind f = .stream ∨ s'.hal.os.size f <
          ((s'.segmentMap seg).txOffset - (s'.segmentMap seg).segmentStart).toNat +
            sizeofTransactionRecord.toNat ∨ s'.hal.fault ≠ none := by
        cases hbad f hfile with
        | inl hstream => exact .inl hstream
        | inr hshort => exact .inr (.inl (Nat.lt_of_lt_of_le hshort (Nat.le_add_left 8 _)))
      dsimp only
      rw [if_pos hfail]
      exact ⟨_, rfl, nofun, rfl⟩
  refine ⟨{ s' with hal := h' }, ?_, herror, hos⟩
  unfold izotStorageSegIsInvalid
  simp only [hopen, hread, ne_eq, not_true, if_false, reduceCtorEq, not_false_eq_true, if_true]

end Storage

namespace OsFileContent

variable {c : OsFileContent} {n offset a k : Nat} {bytes : List UInt8}

theorem size_access (hle : offset ≤ n) :
    ((c.truncate n).writeAt offset bytes).size = max n (offset + bytes.length) := by
  rw [writeAt_of_le (c := c.truncate n) hle]
  rfl

theorem slice_access (hle : offset ≤ n) :
    ((c.truncate n).writeAt offset bytes).data.slice offset bytes.length = bytes := by
  rw [writeAt_of_le (c := c.truncate n) hle]
  exact Image.slice_write _ _ _

theorem slice_access_of_disjoint (hle : offset ≤ n) (hsize : a + k ≤ c.size)
    (hout : a + k ≤ offset ∨ offset + bytes.length ≤ a) :
    ((c.truncate n).writeAt offset bytes).data.slice a k = c.data.slice a k := by
  rw [writeAt_of_le (c := c.truncate n) hle]
  refine ((Image.OnlyIn.write _ offset bytes).slice_eq hout).trans ?_
  exact Image.slice_congr fun i hi => data_truncate (by omega)

def Stores (appSignature : UInt32) (image : List UInt8) (c : OsFileContent) : Prop :=
  24 + image.length ≤ c.size ∧ c.data.slice 0 (24 + image.length) =
    TransactionRecord.bytes ⟨TX_SIGNATURE, TX_DATA_VALID⟩ ++
      ((imageHeader appSignature image).bytes ++ image)

end OsFileContent

namespace Storage

variable {getMaxSize : IzotPersistentSegType → UInt32} {seg : IzotPersistentSegType}
  {s : Storage LinuxHal} {appSignature : UInt32} {images : SegImages} {image : List UInt8}
  {uninits : IzotPersistentSegType → EraseInfo}

theorem stores_of_accessed {s₂ s₃ s₄ s₅ : Storage LinuxHal} {n : Nat}
    (hn : 24 + image.length ≤ n)
    (h₃ : s₃.content seg = ((s₂.content seg).truncate n).writeAt 8
      (imageHeader appSignature image).bytes)
    (h₄ : s₄.content seg = ((s₃.content seg).truncate n).writeAt 24 image)
    (h₅ : s₅.content seg = ((s₄.content seg).truncate n).writeAt 0
      (TransactionRecord.bytes ⟨TX_SIGNATURE, TX_DATA_VALID⟩)) :
    (s₅.content seg).Stores appSignature image := by
  have hrecord : (TransactionRecord.bytes ⟨TX_SIGNATURE, TX_DATA_VALID⟩).length = 8 := rfl
  have hheader : (imageHeader appSignature image).bytes.length = 16 := rfl
  have hsize₃ : n ≤ (s₃.content seg).size := by
    rw [h₃, OsFileContent.size_access (by omega)]
    exact Nat.le_max_left _ _
  have hsize₄ : n ≤ (s₄.content seg).size := by
    rw [h₄, OsFileContent.size_access (by omega)]
    exact Nat.le_max_left _ _
  have hsize₅ : n ≤ (s₅.content seg).size := by
    rw [h₅, OsFileContent.size_access (Nat.zero_le n)]
    exact Nat.le_max_left _ _
  have hslice₁ : (s₅.content seg).data.slice 0 8 =
      TransactionRecord.bytes ⟨TX_SIGNATURE, TX_DATA_VALID⟩ := by
    rw [h₅]
    exact OsFileContent.slice_access (Nat.zero_le n)
  have hslice₂ : (s₅.content seg).data.slice 8 16 = (imageHeader appSignature image).bytes := by
    rw [h₅, OsFileContent.slice_access_of_disjoint (Nat.zero_le n) (by omega)
      (.inr (Nat.le_refl 8)), h₄, OsFileContent.slice_access_of_disjoint (by omega) (by omega)
      (.inl (Nat.le_refl 24)), h₃]
    exact OsFileContent.slice_access (by omega)
  have hslice₃ : (s₅.content seg).data.slice 24 image.length = image := by
    rw [h₅, OsFileContent.slice_access_of_disjoint (Nat.zero_le n) (by omega)
      (.inr (by rw [hrecord]; decide)), h₄]
    exact OsFileContent.slice_access (by omega)
  refine ⟨by omega, ?_⟩
  have hsplit : 24 + image.length = 8 + (16 + image.length) := by omega
  rw [hsplit, Image.slice_add, Image.slice_add, hslice₁, Nat.zero_add, hslice₂, hslice₃]

theorem Accessed.fileSize {s' : Storage LinuxHal} {offset : Nat} {bytes : List UInt8}
    (h : Accessed getMaxSize seg s s' offset bytes) : s'.fileSize seg = s.fileSize seg := by
  rw [Storage.fileSize, Storage.fileSize, h.map]

theorem length_imageHeader (hlt : image.length < 2 ^ 32) :
    (imageHeader appSignature image).length.toUInt64.toNat = image.length := by
  rw [UInt32.toNat_toUInt64]
  exact UInt32.toNat_ofNat_of_lt' hlt

theorem toNat_dataSize (hlt : image.length < 2 ^ 31) :
    (sizeofPersistenceHeader.toUInt64 +
      (imageHeader appSignature image).length.toUInt64).toNat = 16 + image.length := by
  rw [UInt64.toNat_add, length_imageHeader (by omega)]
  change (16 + image.length) % 2 ^ 64 = _
  omega

theorem writeImage_closed (hmax : (getMaxSize seg).toNat + 24 < 2 ^ 31)
    (h : s.Closed getMaxSize seg) (hlen : 24 + image.length ≤ (s.fileSize seg).toNat)
    (hlt : 24 + image.length < 2 ^ 63) :
    ∃ s' s'', writeImage (handlers linuxHal getMaxSize uninits) appSignature seg s image =
        (.noError, s'') ∧
      Accessed getMaxSize seg s s' 8 (imageHeader appSignature image).bytes ∧
      Accessed getMaxSize seg s' s'' 24 image := by
  have hheader : (imageHeader appSignature image).bytes.length = 16 := rfl
  have hrecord : sizeofTransactionRecord.toNat = 8 := rfl
  have hbehind : (sizeofTransactionRecord + sizeofPersistenceHeader.toUInt64).toNat = 24 := rfl
  obtain ⟨s', heq', haccess'⟩ := @write_closed getMaxSize seg (uninits seg) s hmax h
    sizeofTransactionRecord (imageHeader appSignature image).bytes (by omega) (by omega)
  obtain ⟨s'', heq'', haccess''⟩ := @write_closed getMaxSize seg (uninits seg) s' hmax
    haccess'.closed (sizeofTransactionRecord + sizeofPersistenceHeader.toUInt64) image
    (by rw [haccess'.fileSize]; omega) (by omega)
  refine ⟨s', s'', ?_, haccess', haccess''⟩
  have hwrite : (handlers linuxHal getMaxSize uninits).write seg sizeofTransactionRecord
      (imageHeader appSignature image).bytes s = (.noError, s') := heq'
  have hwrite' : (handlers linuxHal getMaxSize uninits).write seg
      (sizeofTransactionRecord + sizeofPersistenceHeader.toUInt64) image s' = (.noError, s'') := heq''
  unfold writeImage
  simp only [hwrite, hwrite', ne_eq, not_true, if_false]

structure Storable (getMaxSize : IzotPersistentSegType → UInt32) (images : SegImages)
    (seg : IzotPersistentSegType) (image : List UInt8) : Prop where
  allocated : seg.allocated = true
  serialized : images.serialize seg = (.noError, image)
  length : image.length = (getMaxSize seg).toNat

theorem store_eq (hmap : s.MapSound getMaxSize) (hmax : (getMaxSize seg).toNat + 24 < 2 ^ 31)
    (hw : s.hal.Working) (husable : s.hal.Usable seg) (himage : Storable getMaxSize images seg image)
    (hfits : (s.eraseOf seg (uninits seg)).eraseRequired = true →
      24 + image.length ≤ BLOCK_SIZE.toNat) :
    ∃ s', izotPersistentSegStore (handlers linuxHal getMaxSize uninits) appSignature seg s images =
        (.noError, s') ∧ s'.Closed getMaxSize seg ∧ (s'.content seg).Stores appSignature image := by
  have hlen := himage.length
  obtain ⟨s₁, henter, hclosed₁, hmap₁⟩ := @writeRecord_usable getMaxSize seg (uninits seg) s hmap hmax hw
    husable ⟨TX_SIGNATURE, TX_DATA_INVALID⟩
  have hplaced₁ : s₁.Placed seg :=
    hclosed₁.settled.2.resolve_right fun h => Bool.noConfusion (himage.allocated.symm.trans h)
  have hsize₁ := toNat_fileSize hclosed₁.map hmax hplaced₁
  have hmaxData := hclosed₁.map.size seg hplaced₁
  have hdata := @toNat_dataSize appSignature image (by omega)
  have herase : (s₁.segmentMap seg).erase = s.eraseOf seg (uninits seg) := by
    rw [hmap₁, erase_mapped]
  obtain ⟨s₂, hopen, haccess₂⟩ := @openForWrite_closed getMaxSize seg (uninits seg) s₁ hmax hclosed₁
    (sizeofPersistenceHeader.toUInt64 + (imageHeader appSignature image).length.toUInt64)
    (UInt64.le_iff_toNat_le.mpr (by omega))
    (by rw [herase, hdata]; intro hreq; have := hfits hreq; omega) (by omega)
  obtain ⟨s₃, s₄, hwrite, haccess₃, haccess₄⟩ := @writeImage_closed getMaxSize seg s₂ appSignature
    image uninits hmax haccess₂.closed (by rw [haccess₂.fileSize]; omega) (by omega)
  obtain ⟨s₅, hexit, haccess₅⟩ := @writeRecord_closed getMaxSize seg (uninits seg) s₄ hmax
    haccess₄.closed ⟨TX_SIGNATURE, TX_DATA_VALID⟩
  refine ⟨s₅, ?_, haccess₅.closed, ?_⟩
  · have henter' : (handlers linuxHal getMaxSize uninits).enterTransaction seg s =
        (.noError, s₁) := henter
    have hopen' : (handlers linuxHal getMaxSize uninits).openForWrite seg
        (sizeofPersistenceHeader.toUInt64 + (imageHeader appSignature image).length.toUInt64) s₁ =
        (some seg, s₂) := hopen
    have hexit' : (handlers linuxHal getMaxSize uninits).exitTransaction seg s₄ =
        (.noError, s₅) := hexit
    unfold izotPersistentSegStore
    simp only [henter', himage.serialized, hopen', hwrite, hexit', ne_eq, not_true, if_false,
      Option.some_ne_none]
  · have hsize : (s₂.fileSize seg).toNat = 24 + image.length := by
      rw [haccess₂.fileSize]
      omega
    have h₃ := haccess₃.content
    have h₄ := haccess₄.content
    have h₅ := haccess₅.content
    rw [haccess₄.fileSize] at h₅
    rw [haccess₃.fileSize] at h₄ h₅
    rw [hsize] at h₃ h₄ h₅
    exact stores_of_accessed (Nat.le_refl _) h₃ h₄ h₅

theorem openStorageSegment_of_error {uninit : EraseInfo}
    (herror : s.hal.persistentMemError ≠ .noError) :
    s.openStorageSegment linuxHal getMaxSize seg uninit = (s.hal.persistentMemError, s) := by
  have hinit : linuxHal.initStorage s.hal = (s.hal.persistentMemError, s.hal) := if_pos herror
  unfold openStorageSegment
  simp only [hinit, ne_eq, if_pos herror]

theorem writeRecord_of_error {uninit : EraseInfo} {r : TransactionRecord}
    (herror : s.hal.persistentMemError ≠ .noError) :
    s.writeRecord linuxHal getMaxSize seg uninit r = (s.hal.persistentMemError, s) := by
  unfold writeRecord
  rw [openStorageSegment_of_error herror]
  exact if_pos herror

theorem openForWrite_of_error {uninit : EraseInfo} {dataSize : UInt64}
    (herror : s.hal.persistentMemError ≠ .noError) :
    s.izotStorageOpenSegForWrite linuxHal getMaxSize seg uninit dataSize = (none, s) := by
  unfold izotStorageOpenSegForWrite
  rw [openStorageSegment_of_error herror]
  exact if_pos herror

theorem store_of_not_opened {s₁ s₂ : Storage LinuxHal} {status : LonStatusCode}
    (henter : s.writeRecord linuxHal getMaxSize seg (uninits seg) ⟨TX_SIGNATURE, TX_DATA_INVALID⟩ =
      (status, s₁))
    (hserialize : images.serialize seg = (.noError, image))
    (hopen : s₁.izotStorageOpenSegForWrite linuxHal getMaxSize seg (uninits seg)
        (sizeofPersistenceHeader.toUInt64 + (imageHeader appSignature image).length.toUInt64) =
      (none, s₂))
    (herror : s₂.hal.persistentMemError ≠ .noError) :
    (izotPersistentSegStore (handlers linuxHal getMaxSize uninits) appSignature seg s images).2 =
      s₂ := by
  have henter' : (handlers linuxHal getMaxSize uninits).enterTransaction seg s =
      (status, s₁) := henter
  have hopen' : (handlers linuxHal getMaxSize uninits).openForWrite seg
      (sizeofPersistenceHeader.toUInt64 + (imageHeader appSignature image).length.toUInt64) s₁ =
      (none, s₂) := hopen
  have hexit' : (handlers linuxHal getMaxSize uninits).exitTransaction seg s₂ =
      (s₂.hal.persistentMemError, s₂) := writeRecord_of_error herror
  unfold izotPersistentSegStore
  simp only [henter', hserialize, hopen', hexit', ne_eq, not_true, if_false, if_true]

theorem store_of_entered {s₁ : Storage LinuxHal} {status : LonStatusCode}
    (henter : s.writeRecord linuxHal getMaxSize seg (uninits seg) ⟨TX_SIGNATURE, TX_DATA_INVALID⟩ =
      (status, s₁))
    (hserialize : images.serialize seg = (.noError, image))
    (herror : s₁.hal.persistentMemError ≠ .noError) :
    (izotPersistentSegStore (handlers linuxHal getMaxSize uninits) appSignature seg s images).2 =
      s₁ :=
  store_of_not_opened henter hserialize (openForWrite_of_error herror) herror

theorem store_of_error (hserialize : images.serialize seg = (.noError, image))
    (herror : s.hal.persistentMemError ≠ .noError) :
    (izotPersistentSegStore (handlers linuxHal getMaxSize uninits) appSignature seg s images).2 =
      s :=
  store_of_entered (writeRecord_of_error herror) hserialize herror

theorem writeRecord_of_not_usable {uninit : EraseInfo} {r : TransactionRecord} (hw : s.hal.Working)
    (husable : ¬s.hal.Usable seg) :
    ∃ status s', s.writeRecord linuxHal getMaxSize seg uninit r = (status, s') ∧
      s'.hal.persistentMemError ≠ .noError ∧ s'.hal.os = s.hal.os := by
  obtain ⟨hfd, hbad⟩ := not_forall.mp husable
  obtain ⟨d, hd⟩ := Option.ne_none_iff_exists'.mp hfd
  have hhal : (s.opened getMaxSize seg uninit).hal = s.hal.initialized :=
    LinuxHal.opened_of_some (h := s.hal.initialized) hd
  have hopen := @openStorageSegment_eq getMaxSize seg uninit s hw
  generalize s.opened getMaxSize seg uninit = s' at *
  have hnot : ∀ f, s'.hal.file seg = some f → s'.hal.os.kind f = .stream := by
    intro f hfile
    rw [hhal] at hfile ⊢
    by_contra hkind
    exact hbad ⟨f, hfile, hkind⟩
  have hwrite : linuxHal.writeSegment seg r.bytes (s'.segmentMap seg).segmentStart
      (s'.segmentMap seg).txOffset s'.hal = s'.hal.fail .persistentDataAccessError :=
    LinuxHal.halWriteStorageSegment_of_bad (hhal ▸ hw.healthy) hnot
  have hclose : halClose linuxHal seg { s' with hal := (s'.hal.fail .persistentDataAccessError).2 } =
      (.persistentDataAccessError,
        { s' with hal := (s'.hal.fail .persistentDataAccessError).2 }) := rfl
  have hos : s'.hal.os = s.hal.os := by
    rw [hhal]
    rfl
  refine ⟨.persistentDataAccessError,
    { s' with hal := (s'.hal.fail .persistentDataAccessError).2 }, ?_, nofun, hos⟩
  unfold writeRecord
  simp only [hopen, hwrite, hclose, ne_eq, not_true, if_false]

end Storage

end LonStack
