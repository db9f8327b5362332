import LonStack.Persist.Separate

namespace LonStack

open Lib

namespace Storage

variable {σ : Type}

def reach (info : StorageInfo) (s : Storage σ) (seg : IzotPersistentSegType) : Nat :=
  s.start seg + roundUp (8 + (s.segmentMap seg).maxDataSize.toNat) info.blockSize.toNat

structure Orderly (info : StorageInfo) (getMaxSize : IzotPersistentSegType → UInt32)
    (s : Storage (σ × List HalCall)) : Prop where
  laid : s.Laid info getMaxSize
  inward : ∀ c ∈ s.hal.2, s.Placed c.seg ∧ s.start c.seg ≤ c.start ∧
    c.start + c.size ≤ s.reach info c.seg

structure Silent (s s' : Storage (σ × List HalCall)) : Prop where
  same : SameMap s s'
  log : s'.hal.2 = s.hal.2

variable {hal : Hal σ} {getMaxSize : IzotPersistentSegType → UInt32} {info : StorageInfo}
  {s s' : Storage (σ × List HalCall)} {seg : IzotPersistentSegType} {uninit : EraseInfo}

theorem le_roundUp (size : Nat) {blockSize : Nat} (h : 0 < blockSize) :
    size ≤ roundUp size blockSize := by
  have hmod := Nat.mod_lt (size + blockSize - 1) h
  have hdiv := Nat.div_add_mod (size + blockSize - 1) blockSize
  rw [roundUp, Nat.mul_comm]
  omega

theorem roundUp_le_of_dvd {size blockSize n : Nat} (hsize : size ≤ n) (hn : blockSize ∣ n)
    (h : 0 < blockSize) : roundUp size blockSize ≤ n := by
  obtain ⟨k, rfl⟩ := hn
  rw [roundUp, Nat.mul_comm blockSize k]
  refine Nat.mul_le_mul_right _ ?_
  rw [Nat.le_iff_lt_add_one, Nat.div_lt_iff_lt_mul h, Nat.add_mul, Nat.one_mul,
    Nat.mul_comm k blockSize]
  omega

theorem roundUp_lt (size : Nat) {blockSize : Nat} (h : 0 < blockSize) :
    roundUp size blockSize < size + blockSize := by
  have hle := Nat.div_mul_le_self (size + blockSize - 1) blockSize
  rw [roundUp]
  omega

theorem roundUp_mono {size size' blockSize : Nat} (h : size ≤ size') :
    roundUp size blockSize ≤ roundUp size' blockSize :=
  Nat.mul_le_mul_right _ (Nat.div_le_div_right (by omega))

section

variable {s : Storage σ}

theorem Laid.reach_le (hsound : info.Sound) (hlaid : s.Laid info getMaxSize) {a b : IzotPersistentSegType}
    (ha : s.Placed a) (hb : s.Placed b) (hstop : s.stop a ≤ s.start b) :
    s.reach info a ≤ s.start b := by
  have hsize : 8 + (s.segmentMap a).maxDataSize.toNat ≤ s.start b - s.start a := by
    rw [stop] at hstop
    omega
  have hle := roundUp_le_of_dvd hsize
    (Nat.dvd_sub (hlaid.separate.aligned b hb) (hlaid.separate.aligned a ha)) hsound.blocks
  rw [stop] at hstop
  rw [reach]
  omega

theorem Laid.reach_lt (hsound : info.Sound) (hlaid : s.Laid info getMaxSize) (hplaced : s.Placed seg) :
    s.reach info seg < 2 ^ 64 := by
  have haddresses := hsound.addresses
  have hblock := UInt64.toNat_lt info.blockSize
  have hinside := (hlaid.separate.inside seg hplaced).2
  have hlt := roundUp_lt (8 + (s.segmentMap seg).maxDataSize.toNat) hsound.blocks
  rw [stop] at hinside
  rw [reach]
  by_cases hlarge : info.blockSize.toNat < 2 ^ 32
  case pos => omega
  case neg =>
    -- the segment starts at the first of the blocks and ends in it
    have hzero : s.start seg = 0 :=
      Nat.eq_zero_of_dvd_of_lt (hlaid.separate.aligned seg hplaced) (by omega)
    have hfits : 8 + (s.segmentMap seg).maxDataSize.toNat ≤ info.blockSize.toNat := by omega
    have hle := roundUp_le_of_dvd hfits (Nat.dvd_refl info.blockSize.toNat) hsound.blocks
    omega

end

theorem SameMap.reach {s s' : Storage σ} (h : SameMap s s') : s'.reach info = s.reach info := by
  funext seg
  rw [Storage.reach, start, h.segmentMap, Storage.reach, start]

theorem Orderly.confined (hsound : info.Sound) (h : s.Orderly info getMaxSize) : s.Confined := by
  intro c hc seg hplaced hne
  obtain ⟨hself, hlow, hhigh⟩ := h.inward c hc
  rcases h.laid.separate.disjoint c.seg seg hself hplaced (Ne.symm hne) with hstop | hstop
  · exact .inl (Nat.le_trans hhigh (h.laid.reach_le hsound hself hplaced hstop))
  · exact .inr (Nat.le_trans hstop hlow)

theorem Orderly.extend (h : s.Orderly info getMaxSize) (hlaid : s'.Laid info getMaxSize)
    (hextends : Extends s s') (hlog : s'.hal.2 = s.hal.2) : s'.Orderly info getMaxSize where
  laid := hlaid
  inward c hc := by
    rw [hlog] at hc
    obtain ⟨hplaced, hlow, hhigh⟩ := h.inward c hc
    obtain ⟨hplaced', hmap⟩ := hextends c.seg hplaced
    rw [start, Storage.reach, start, hmap]
    exact ⟨hplaced', hlow, hhigh⟩

theorem Orderly.silent (h : s.Orderly info getMaxSize) (hsilent : Silent s s') :
    s'.Orderly info getMaxSize :=
  h.extend (h.laid.same hsilent.same) hsilent.same.extends hsilent.log

theorem Orderly.call (h : s.Orderly info getMaxSize) (hsame : SameMap s s') {c : HalCall}
    (hlog : s'.hal.2 = s.hal.2 ++ [c]) (hplaced : s.Placed c.seg) (hlow : s.start c.seg ≤ c.start)
    (hhigh : c.start + c.size ≤ s.reach info c.seg) : s'.Orderly info getMaxSize where
  laid := h.laid.same hsame
  inward d hd := by
    rw [Placed, hsame.dataSegmentSize, start, hsame.segmentMap, hsame.reach]
    rw [hlog, List.mem_append, List.mem_singleton] at hd
    rcases hd with hd | rfl
    · exact h.inward d hd
    · exact ⟨hplaced, hlow, hhigh⟩

theorem sameMap_hal {s : Storage σ} (h : σ) : SameMap s { s with hal := h } := ⟨rfl, rfl, rfl, rfl⟩

theorem silent_hal {h : σ × List HalCall} (hlog : h.2 = s.hal.2) : Silent s { s with hal := h } :=
  ⟨sameMap_hal h, hlog⟩

theorem Silent.trans {s'' : Storage (σ × List HalCall)} (h : Silent s s') (h' : Silent s' s'') :
    Silent s s'' :=
  ⟨h.same.trans h'.same, h'.log.trans h.log⟩

theorem silent_halClose : Silent s (s.halClose hal.logged seg).2 := silent_hal rfl

theorem SameMap.room {s s' : Storage σ} {maxSize : UInt32} (h : SameMap s s')
    (hroom : s.Room info maxSize uninit) : s'.Room info maxSize uninit := by
  have hlowest : s'.lowest info = s.lowest info := by
    rw [Storage.lowest, h.storageBlockSize, h.lowest, Storage.lowest]
  refine ⟨hroom.size, ?_, ?_, ?_⟩
  · rw [hlowest]
    exact hroom.fits
  · rw [hlowest]
    exact hroom.above
  · rw [h.storageBlockSize]
    exact hroom.erase

theorem lowest_of_ne {s : Storage σ} (h : s.storageBlockSize ≠ 0) :
    s.lowest info = s.lowestUsedStorageDataOffset.toNat :=
  if_neg h

theorem orderly_readStorageInfo (uninit : EraseInfo) (hsound : hal.info.Sound) (h : s.Orderly hal.info getMaxSize) :
    let r := s.readStorageInfo hal.logged uninit
    r.2.Orderly hal.info getMaxSize ∧ (∀ seg, r.2.Placed seg ↔ s.Placed seg) ∧
      (r.1.1 = .noError → r.2.storageBlockSize = hal.info.blockSize ∧
        r.2.lowest hal.info = s.lowest hal.info ∧
        r.1.2 = if s.storageBlockSize = 0 then hal.info.erase else uninit) := by
  have hblocks : hal.info.blockSize ≠ 0 := by
    intro hzero
    have hblocks := hsound.blocks
    rw [hzero] at hblocks
    exact absurd hblocks (by decide)
  rw [readStorageInfo]
  by_cases hzero : s.storageBlockSize = 0
  case neg =>
    rw [if_neg hzero, if_neg hzero]
    exact ⟨h, fun _ => Iff.rfl, fun _ => ⟨h.laid.block.resolve_left hzero, rfl, rfl⟩⟩
  case pos =>
    rw [if_pos hzero, if_pos hzero]
    dsimp only
    have hsilent := silent_hal (s := s) (h := (hal.logged.storageInfo s.hal).2) rfl
    by_cases hstatus : (hal.logged.storageInfo s.hal).1 = .noError
    case neg =>
      rw [if_pos hstatus]
      exact ⟨h.silent hsilent, fun _ => Iff.rfl, fun hstatus' => absurd hstatus' hstatus⟩
    case pos =>
      rw [if_neg (not_not_intro hstatus), if_pos (show 1 ≤ hal.logged.info.numberOfRegions from hsound.regions)]
      have hlowest : s.lowest hal.info =
          hal.info.regionOffset.toNat + hal.info.regionSize.toNat := if_pos hzero
      have hsum : (hal.info.regionOffset + hal.info.regionSize).toNat =
          hal.info.regionOffset.toNat + hal.info.regionSize.toNat := by
        have haddresses := hsound.addresses
        rw [UInt64.toNat_add]
        exact Nat.mod_eq_of_lt (by omega)
      have hfresh := h.laid.fresh hzero
      refine ⟨⟨⟨⟨?_, ?_, ?_, ?_⟩, .inr rfl, fun hz => absurd hz hblocks, ?_, ?_, ?_, ?_, ?_⟩, ?_⟩,
        fun _ => Iff.rfl, fun _ => ⟨rfl, ?_, rfl⟩⟩
      · exact fun seg hplaced => absurd hplaced (hfresh seg)
      · exact fun seg hplaced => absurd hplaced (hfresh seg)
      · exact fun seg _ hplaced => absurd hplaced (hfresh seg)
      · exact fun seg hplaced => absurd hplaced (hfresh seg)
      · exact Nat.le_of_eq ((lowest_of_ne hblocks).trans hsum)
      · exact fun seg hplaced => absurd hplaced (hfresh seg)
      · exact fun seg hplaced => absurd hplaced (hfresh seg)
      · exact fun seg hplaced => absurd hplaced (hfresh seg)
      · exact h.laid.blank
      · exact fun c hc => absurd (h.inward c hc).1 (hfresh c.seg)
      · rw [hlowest]
        exact (lowest_of_ne hblocks).trans hsum

theorem orderly_initSegmentMap (seg : IzotPersistentSegType) (uninit : EraseInfo)
    (hsound : hal.info.Sound) (h : s.Orderly hal.info getMaxSize)
    (hroom : ¬s.Placed seg → seg.allocated = true → s.Room hal.info (getMaxSize seg) uninit) :
    let r := s.initSegmentMap hal.logged getMaxSize seg uninit
    r.2.Orderly hal.info getMaxSize ∧
      (r.1 = .noError → r.2.storageBlockSize = hal.info.blockSize ∧
        (seg.allocated = true → r.2.Placed seg) ∧ (s.Placed seg → r.2.Placed seg)) := by
  have hread := orderly_readStorageInfo uninit hsound h
  dsimp only at hread
  rw [initSegmentMap]
  generalize s.readStorageInfo hal.logged uninit = r at hread ⊢
  obtain ⟨⟨status, erase⟩, s'⟩ := r
  obtain ⟨horderly, hplaced, hok⟩ := hread
  dsimp only at horderly hplaced hok ⊢
  by_cases hstatus : status = .noError
  case neg =>
    rw [if_pos hstatus]
    exact ⟨horderly, fun hstatus' => absurd hstatus' hstatus⟩
  case pos =>
    rw [if_neg (not_not_intro hstatus)]
    obtain ⟨hblock, hlowest, herase⟩ := hok hstatus
    by_cases hnew : s'.dataSegmentSize seg = 0 ∧ seg.allocated = true
    case neg =>
      rw [if_neg hnew]
      exact ⟨horderly, fun _ => ⟨hblock, fun hallocated hzero => hnew ⟨hzero, hallocated⟩,
        (hplaced seg).mpr⟩⟩
    case pos =>
      rw [if_pos hnew]
      have hnot : ¬s'.Placed seg := not_not_intro hnew.1
      have hroom := hroom (fun hp => hnot ((hplaced seg).mpr hp)) hnew.2
      have herase : erase = hal.info.erase := by
        rw [herase]
        by_cases hzero : s.storageBlockSize = 0
        case pos => exact if_pos hzero
        case neg => exact (if_neg hzero).trans (hroom.erase hzero)
      rw [herase]
      have hroom' : s'.Room hal.info (getMaxSize seg) hal.info.erase := by
        refine ⟨hroom.size, ?_, ?_, fun _ => rfl⟩
        · rw [hlowest]
          exact hroom.fits
        · rw [hlowest]
          exact hroom.above
      obtain ⟨hlaid, hextends, hself⟩ := laid_allocate hsound horderly.laid hblock hnot hroom'
      exact ⟨horderly.extend hlaid hextends rfl, fun _ => ⟨hblock, fun _ => hself, fun _ => hself⟩⟩

theorem orderly_openStorageSegment (hsound : hal.info.Sound) (h : s.Orderly hal.info getMaxSize)
    (hroom : ¬s.Placed seg → seg.allocated = true → s.Room hal.info (getMaxSize seg) uninit) :
    let r := s.openStorageSegment hal.logged getMaxSize seg uninit
    r.2.Orderly hal.info getMaxSize ∧
      (r.1 = .noError → r.2.storageBlockSize = hal.info.blockSize ∧
        (seg.allocated = true → r.2.Placed seg)) := by
  rw [openStorageSegment]
  dsimp only
  have hsilent := silent_hal (s := s) (h := (hal.logged.initStorage s.hal).2) rfl
  by_cases hstatus : (hal.logged.initStorage s.hal).1 = .noError
  case neg =>
    rw [if_pos hstatus]
    exact ⟨h.silent hsilent, fun hstatus' => absurd hstatus' hstatus⟩
  case pos =>
    rw [if_neg (not_not_intro hstatus)]
    have hinit := orderly_initSegmentMap seg uninit hsound (h.silent hsilent)
      (fun hplaced hallocated => hsilent.same.room (hroom hplaced hallocated))
    generalize initSegmentMap _ getMaxSize seg _ uninit = r at hinit ⊢
    obtain ⟨status, s'⟩ := r
    obtain ⟨horderly, hok⟩ := hinit
    dsimp only at horderly hok ⊢
    by_cases hstatus' : status = .noError
    case neg =>
      rw [if_pos hstatus']
      exact ⟨horderly, fun hstatus'' => absurd hstatus'' hstatus'⟩
    case pos =>
      rw [if_neg (not_not_intro hstatus')]
      obtain ⟨hblock, hself, -⟩ := hok hstatus'
      exact ⟨horderly.silent (silent_hal rfl), fun _ => ⟨hblock, hself⟩⟩

theorem orderly_prepareBlocks {segStart size : UInt64} {value : UInt8} {n : Nat} {offset : UInt64}
    (hsound : info.Sound) (h : s.Orderly info getMaxSize) (hplaced : s.Placed seg)
    (hblock : s.storageBlockSize = info.blockSize) (hlow : s.start seg ≤ offset.toNat)
    (hhigh : ∀ k < n, offset.toNat + k * info.blockSize.toNat + size.toNat ≤ s.reach info seg) :
    (prepareBlocks hal.logged seg segStart size value n offset s).2.Orderly info getMaxSize := by
  induction n generalizing s offset with
  | zero => exact h
  | succ n ih =>
    rw [prepareBlocks]
    dsimp only
    generalize hs' : { s with
      hal := (hal.logged.prepareSegment seg segStart offset size value s.hal).2 } = s'
    have hsame : SameMap s s' := by
      rw [← hs']
      exact sameMap_hal _
    have hfirst := hhigh 0 (Nat.succ_pos n)
    rw [Nat.zero_mul, Nat.add_zero] at hfirst
    have hcall : s'.Orderly info getMaxSize :=
      h.call (c := ⟨seg, offset.toNat, size.toNat⟩) hsame (by rw [← hs']; rfl) hplaced hlow hfirst
    by_cases hstatus : (hal.logged.prepareSegment seg segStart offset size value s.hal).1 = .noError
    case neg =>
      rw [if_pos hstatus]
      exact hcall
    case pos =>
      rw [if_neg (not_not_intro hstatus), hblock]
      cases n with
      | zero => exact hcall
      | succ n =>
        have hnext := hhigh 1 (Nat.succ_lt_succ (Nat.succ_pos n))
        have hlt := h.laid.reach_lt hsound hplaced
        have hoffset : (offset + info.blockSize).toNat = offset.toNat + info.blockSize.toNat := by
          rw [UInt64.toNat_add]
          exact Nat.mod_eq_of_lt (by omega)
        refine ih hcall (hsame.extends seg hplaced).1 (hsame.storageBlockSize.trans hblock) ?_ ?_
        · rw [start, hsame.segmentMap, hoffset]
          exact Nat.le_trans hlow (Nat.le_add_right _ _)
        · intro k hk
          have hk := hhigh (k + 1) (Nat.succ_lt_succ hk)
          rw [Nat.add_mul, Nat.one_mul] at hk
          rw [hsame.reach, hoffset]
          omega

theorem orderly_prepareStorageSegment {size : UInt64} (hsound : info.Sound)
    (h : s.Orderly info getMaxSize) (hplaced : s.Placed seg)
    (hblock : s.storageBlockSize = info.blockSize)
    (hsize : size.toNat ≤ 8 + (s.segmentMap seg).maxDataSize.toNat) :
    (s.prepareStorageSegment hal.logged seg size).2.Orderly info getMaxSize := by
  have hblocks := hsound.blocks
  have hmax := h.laid.size seg hplaced
  have hround := le_roundUp (8 + (s.segmentMap seg).maxDataSize.toNat) hblocks
  refine orderly_prepareBlocks hsound h hplaced hblock (Nat.le_refl _) ?_
  rw [hblock]
  intro k hk
  replace hk : k + 1 ≤ blocksFor _ _ := hk
  have hstart : (s.segmentMap seg).segmentStart.toNat = s.start seg := rfl
  rw [hstart, reach]
  generalize (s.segmentMap seg).erase.eraseRequired = eraseRequired at hk ⊢
  cases eraseRequired with
  | true =>
    -- whole blocks that hold no more than the segment
    rw [if_pos rfl] at hk ⊢
    have hmul := Nat.mul_le_mul_right info.blockSize.toNat hk
    have hmono : blocksFor size info.blockSize * info.blockSize.toNat ≤ _ := roundUp_mono hsize
    rw [Nat.add_mul, Nat.one_mul] at hmul
    omega
  | false =>
    -- the blocks that hold the transaction record, eight bytes in each
    rw [if_neg Bool.false_ne_true] at hk ⊢
    have hmul := Nat.mul_le_mul_right info.blockSize.toNat hk
    have hlt : roundUp 8 info.blockSize.toNat < 8 + info.blockSize.toNat := roundUp_lt 8 hblocks
    have hblocksFor : blocksFor sizeofTransactionRecord info.blockSize * info.blockSize.toNat =
        roundUp 8 info.blockSize.toNat := rfl
    have height : sizeofTransactionRecord.toNat = 8 := rfl
    rw [hblocksFor, Nat.add_mul, Nat.one_mul] at hmul
    rw [height]
    omega

theorem orderly_writeBlocks {segStart nextOffset : UInt64} {data : List UInt8} {n : Nat}
    (hsound : info.Sound) (h : s.Orderly info getMaxSize) (hplaced : s.Placed seg)
    (hlow : s.start seg ≤ nextOffset.toNat)
    (hhigh : nextOffset.toNat + data.length ≤ s.reach info seg) :
    (writeBlocks hal.logged seg segStart n nextOffset data s).2.Orderly info getMaxSize := by
  induction n generalizing s nextOffset data with
  | zero => exact h
  | succ n ih =>
    rw [writeBlocks]
    by_cases hdata : data = []
    case pos =>
      rw [if_pos hdata]
      exact h
    case neg =>
      rw [if_neg hdata]
      dsimp only
      generalize hsize : (if (s.storageBlockSize - nextOffset % s.storageBlockSize).toNat < data.length
        then (s.storageBlockSize - nextOffset % s.storageBlockSize).toNat else data.length) = size
      have hle : size ≤ data.length := by
        rw [← hsize]
        split
        next hlt => exact Nat.le_of_lt hlt
        next => exact Nat.le_refl _
      generalize hs' : { s with
        hal := (hal.logged.writeSegment seg (data.take size) segStart nextOffset s.hal).2 } = s'
      have hsame : SameMap s s' := by
        rw [← hs']
        exact sameMap_hal _
      have hcall : s'.Orderly info getMaxSize := by
        refine h.call (c := ⟨seg, nextOffset.toNat, (data.take size).length⟩) hsame
          (by rw [← hs']; rfl) hplaced hlow ?_
        rw [List.length_take]
        dsimp only
        omega
      by_cases hstatus : (hal.logged.writeSegment seg (data.take size) segStart nextOffset s.hal).1 =
          .noError
      case neg =>
        rw [if_pos hstatus]
        exact hcall
      case pos =>
        rw [if_neg (not_not_intro hstatus)]
        have hlt := h.laid.reach_lt hsound hplaced
        have hoffset : (nextOffset + .ofNat size).toNat = nextOffset.toNat + size := by
          rw [UInt64.toNat_add, UInt64.toNat_ofNat_of_lt' (show size < 2 ^ 64 by omega)]
          exact Nat.mod_eq_of_lt (by omega)
        refine ih hcall (hsame.extends seg hplaced).1 ?_ ?_
        · rw [start, hsame.segmentMap, hoffset]
          exact Nat.le_trans hlow (Nat.le_add_right _ _)
        · rw [hsame.reach, hoffset, List.length_drop]
          omega

variable {e : StorageEvent}

theorem orderly_openForWrite {dataSize : UInt64} (hsound : hal.info.Sound)
    (h : s.Orderly hal.info getMaxSize)
    (hroom : ¬s.Placed seg → seg.allocated = true → s.Room hal.info (getMaxSize seg) uninit)
    (hkeeps : seg.allocated = true ∨ dataSize ≠ 0) :
    (s.izotStorageOpenSegForWrite hal.logged getMaxSize seg uninit dataSize).2.Orderly hal.info
      getMaxSize := by
  have hopen := orderly_openStorageSegment hsound h hroom
  dsimp only at hopen
  rw [izotStorageOpenSegForWrite]
  generalize s.openStorageSegment hal.logged getMaxSize seg uninit = r at hopen ⊢
  obtain ⟨status, s'⟩ := r
  obtain ⟨horderly, hok⟩ := hopen
  dsimp only at horderly hok ⊢
  by_cases hstatus : status = .noError
  case neg =>
    rw [if_pos hstatus]
    exact horderly
  case pos =>
    rw [if_neg (not_not_intro hstatus)]
    obtain ⟨hblock, hplaced⟩ := hok hstatus
    refine Orderly.silent ?_ silent_halClose
    by_cases hfits : dataSize ≤ (s'.segmentMap seg).maxDataSize
    case neg =>
      rw [if_neg hfits]
      exact horderly
    case pos =>
      rw [if_pos hfits]
      by_cases hself : s'.Placed seg
      case neg =>
        rcases hkeeps with hallocated | hdata
        · exact absurd (hplaced hallocated) hself
        · -- a segment without a place has no room for data
          rw [horderly.laid.blank seg hself, UInt64.le_iff_toNat_le] at hfits
          exact absurd (UInt64.toNat_inj.mp (Nat.le_zero.mp hfits)) hdata
      case pos =>
        have hmax := horderly.laid.size seg hself
        have hlt := horderly.laid.reach_lt hsound hself
        rw [UInt64.le_iff_toNat_le] at hfits
        refine orderly_prepareStorageSegment hsound horderly hself hblock ?_
        have hge := le_roundUp (8 + (s'.segmentMap seg).maxDataSize.toNat) hsound.blocks
        rw [reach] at hlt
        have height : sizeofTransactionRecord.toNat = 8 := rfl
        rw [UInt64.toNat_add, height, Nat.mod_eq_of_lt (by omega)]
        omega

theorem orderly_write {segmentOffset : UInt64} {data : List UInt8} (hsound : hal.info.Sound)
    (h : s.Orderly hal.info getMaxSize)
    (hroom : ¬s.Placed seg → seg.allocated = true → s.Room hal.info (getMaxSize seg) uninit)
    (hallocated : seg.allocated = true)
    (hfits : segmentOffset.toNat + data.length ≤
      roundUp (24 + (getMaxSize seg).toNat) hal.info.blockSize.toNat) :
    (s.izotStorageWriteSeg hal.logged getMaxSize seg uninit segmentOffset data).2.Orderly hal.info
      getMaxSize := by
  have hopen := orderly_openStorageSegment hsound h hroom
  dsimp only at hopen
  rw [izotStorageWriteSeg]
  generalize s.openStorageSegment hal.logged getMaxSize seg uninit = r at hopen ⊢
  obtain ⟨status, s'⟩ := r
  obtain ⟨horderly, hok⟩ := hopen
  dsimp only at horderly hok ⊢
  by_cases hstatus : status = .noError
  case neg =>
    rw [if_pos hstatus]
    exact horderly
  case pos =>
    rw [if_neg (not_not_intro hstatus)]
    obtain ⟨hblock, hplaced⟩ := hok hstatus
    have hself := hplaced hallocated
    have hlt := horderly.laid.reach_lt hsound hself
    have hreach : s'.reach hal.info seg =
        s'.start seg + roundUp (24 + (getMaxSize seg).toNat) hal.info.blockSize.toNat := by
      rw [reach, horderly.laid.size seg hself, ← Nat.add_assoc]
    have hstart : (s'.segmentMap seg).segmentStart.toNat = s'.start seg := rfl
    have hoffset : (segmentOffset + (s'.segmentMap seg).segmentStart).toNat =
        segmentOffset.toNat + s'.start seg := by
      rw [UInt64.toNat_add, hstart]
      exact Nat.mod_eq_of_lt (by omega)
    have hwritten := @orderly_writeBlocks σ hal getMaxSize hal.info s' seg
      (s'.segmentMap seg).segmentStart (segmentOffset + (s'.segmentMap seg).segmentStart) data
      data.length hsound horderly hself (by omega) (by omega)
    split
    · exact hwritten
    · exact hwritten.silent silent_halClose

theorem orderly_writeRecord {record : TransactionRecord} (hsound : hal.info.Sound)
    (h : s.Orderly hal.info getMaxSize)
    (hroom : ¬s.Placed seg → seg.allocated = true → s.Room hal.info (getMaxSize seg) uninit)
    (hallocated : seg.allocated = true) :
    (s.writeRecord hal.logged getMaxSize seg uninit record).2.Orderly hal.info getMaxSize := by
  have hopen := orderly_openStorageSegment hsound h hroom
  dsimp only at hopen
  rw [writeRecord]
  generalize s.openStorageSegment hal.logged getMaxSize seg uninit = r at hopen ⊢
  obtain ⟨status, s'⟩ := r
  obtain ⟨horderly, hok⟩ := hopen
  dsimp only at horderly hok ⊢
  by_cases hstatus : status = .noError
  case neg =>
    rw [if_pos hstatus]
    exact horderly
  case pos =>
    rw [if_neg (not_not_intro hstatus)]
    have hself := (hok hstatus).2 hallocated
    have hmax := horderly.laid.size seg hself
    have hle := le_roundUp (8 + (s'.segmentMap seg).maxDataSize.toNat) hsound.blocks
    have hstart : (s'.segmentMap seg).segmentStart.toNat = s'.start seg := rfl
    refine Orderly.silent ?_ silent_halClose
    refine horderly.call (c := ⟨seg, (s'.segmentMap seg).txOffset.toNat, record.bytes.length⟩)
      (sameMap_hal _) rfl hself ?_ ?_
    · rw [horderly.laid.tx seg hself]
      exact Nat.le_refl _
    · have hlength : record.bytes.length = 8 := rfl
      rw [horderly.laid.tx seg hself, hlength, reach]
      dsimp only
      omega

theorem orderly_access (hsound : hal.info.Sound) (h : s.Orderly hal.info getMaxSize)
    (hfits : Storage.Fits hal.info getMaxSize (s, e)) :
    (s.access hal.logged getMaxSize e).Orderly hal.info getMaxSize := by
  obtain ⟨seg, uninit, op⟩ := e
  obtain ⟨hroom, hkeeps⟩ := hfits
  dsimp only at hroom hkeeps
  cases op with
  | openForRead => exact (orderly_openStorageSegment hsound h fun hplaced hallocated =>
      hroom hplaced hallocated nofun).1
  | openForWrite dataSize => exact orderly_openForWrite hsound h (fun hplaced hallocated =>
      hroom hplaced hallocated nofun) hkeeps
  | read segmentOffset dataSize =>
    have hopen := orderly_openStorageSegment hsound h fun hplaced hallocated =>
      hroom hplaced hallocated nofun
    dsimp only [access] at hopen ⊢
    rw [izotStorageReadSeg]
    generalize s.openStorageSegment hal.logged getMaxSize seg uninit = r at hopen ⊢
    dsimp only
    split
    · exact hopen.1
    split
    · exact hopen.1.silent (silent_hal rfl)
    · refine Orderly.silent (Orderly.silent hopen.1 ?_) silent_halClose
      exact silent_hal rfl
  | write segmentOffset data => exact orderly_write hsound h (fun hplaced hallocated =>
      hroom hplaced hallocated nofun) hkeeps.1 hkeeps.2
  | isInvalid =>
    have hopen := orderly_openStorageSegment hsound h fun hplaced hallocated =>
      hroom hplaced hallocated nofun
    dsimp only [access] at hopen ⊢
    rw [izotStorageSegIsInvalid]
    generalize s.openStorageSegment hal.logged getMaxSize seg uninit = r at hopen ⊢
    dsimp only
    split
    · exact hopen.1
    split
    · exact hopen.1.silent (silent_hal rfl)
    · refine Orderly.silent (Orderly.silent hopen.1 ?_) silent_halClose
      exact silent_hal rfl
  | startUpdate => exact orderly_writeRecord hsound h (fun hplaced hallocated =>
      hroom hplaced hallocated nofun) hkeeps
  | finishUpdate => exact orderly_writeRecord hsound h (fun hplaced hallocated =>
      hroom hplaced hallocated nofun) hkeeps
  | erase =>
    have herase : ∀ seg, s.Placed seg →
        (s.prepareStorageSegment hal.logged seg (s.segmentMap seg).maxDataSize).2.Orderly hal.info
          getMaxSize := by
      intro seg hplaced
      have hblock : s.storageBlockSize = hal.info.blockSize :=
        h.laid.block.resolve_left fun hzero => h.laid.fresh hzero seg hplaced
      exact orderly_prepareStorageSegment hsound h hplaced hblock (Nat.le_add_left _ _)
    dsimp only [access]
    split
    next hseg => exact herase _ (hseg ▸ hkeeps (.inl hseg))
    next =>
      split
      next hseg => exact herase _ (hseg ▸ hkeeps (.inr hseg))
      next => exact h

end Storage

/-- In every run of accesses that fit, the segments keep apart and what is prepared or written for one
keeps out of the others. -/
theorem segments_separate {σ : Type} {hal : Hal σ} {getMaxSize : IzotPersistentSegType → UInt32}
    (hsound : hal.info.Sound) {start : σ} {s : Storage (σ × List HalCall)}
    {h : List (Storage (σ × List HalCall) × StorageEvent)}
    (hrun : Run (fun e s => s.access hal.logged getMaxSize e) (.init (start, [])) h s)
    (hfits : ∀ x ∈ h, Storage.Fits hal.info getMaxSize x) :
    Always (fun _ s => s.Separate hal.info ∧ s.Confined) h s := by
  have horderly : ∀ {h s}, Run (fun e s => s.access hal.logged getMaxSize e) (.init (start, [])) h s →
      (∀ x ∈ h, Storage.Fits hal.info getMaxSize x) → s.Orderly hal.info getMaxSize := by
    intro h s hrun hfits
    exact hrun.invariant (fun e t hfit horderly => Storage.orderly_access hsound horderly hfit) hfits
      ⟨Storage.laid_init _ _ _, nofun⟩
  have hgood : ∀ s : Storage (σ × List HalCall), s.Orderly hal.info getMaxSize →
      s.Separate hal.info ∧ s.Confined := by
    intro s h
    exact ⟨h.laid.separate, h.confined hsound⟩
  induction hrun with
  | refl => exact hgood _ (horderly .refl hfits)
  | next e hrun ih =>
    exact ⟨hgood _ (horderly (.next e hrun) hfits), ih (List.forall_mem_cons.mp hfits).2⟩

def sixBlocks : Hal Unit where
  info := ⟨0, 0x6000, 0x1000, 1, ⟨false, 0⟩⟩
  persistentMemError _ := .noError
  initStorage h := (.noError, h)
  storageInfo h := (.noError, h)
  openSegment _ _ h := (.noError, h)
  closeSegment _ h := (.noError, h)
  prepareSegment _ _ _ _ _ h := (.noError, h)
  writeSegment _ _ _ _ h := (.noError, h)
  readSegment _ _ _ _ h := ((.noError, []), h)

def storeTwo (uninit : EraseInfo) : List StorageEvent :=
  [⟨.networkImage, uninit, .openForWrite 0x1200⟩,
    ⟨.networkImage, uninit, .write 8 (.replicate 16 0)⟩,
    ⟨.applicationData, uninit, .openForWrite 0x20⟩,
    ⟨.applicationData, uninit, .write 8 (.replicate 32 0)⟩,
    ⟨.applicationData, uninit, .finishUpdate⟩]

theorem segments_separate_storeTwo :
    Always (fun _ s => s.Separate sixBlocks.info ∧ s.Confined)
      (history (fun e s => Storage.access sixBlocks.logged (fun _ => 0x1200) s e) (.init ((), []))
        (storeTwo ⟨false, 0⟩))
      ((storeTwo ⟨false, 0⟩).foldl
        (fun s e => s.access sixBlocks.logged (fun _ => 0x1200) e) (.init ((), []))) :=
  segments_separate (by decide) (Run.history _ _ (storeTwo ⟨false, 0⟩)) (by decide +kernel)

theorem not_segments_separate :
    ¬∀ (hal : Hal Unit) (getMaxSize : IzotPersistentSegType → UInt32)
      (s : Storage (Unit × List HalCall)) (h : List (Storage (Unit × List HalCall) × StorageEvent)),
      Run (fun e s => s.access hal.logged getMaxSize e) (.init ((), [])) h s →
        Always (fun _ s => s.Separate hal.info ∧ s.Confined) h s := by
  intro hall
  have halways := hall sixBlocks (fun _ => 0x1200) _ _ (Run.history _ _ (storeTwo ⟨true, 0xA5⟩))
  have herase := (halways.head _ _).1.erase .applicationData (by decide +kernel)
  exact absurd herase (by decide +kernel)

end LonStack
