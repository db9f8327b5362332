import LonStack.Persist.LinuxStore

namespace LonStack

open Lib

-- Nothing ensures here that the segment map is filled or that the segment is open. Without a block
-- size the loop makes no progress, so it is given fuel, and returns nothing when that runs out.

namespace Storage

section

variable {σ : Type} (hal : Hal σ) (seg : IzotPersistentSegType) (s : Storage σ)

/-- `for (bytes_erased = 0; bytes_erased < size; bytes_erased += storage_block_size)` -/
def prepareLoop (segStart eraseBlockSize size : UInt64) (value : UInt8) :
    Nat → (bytesErased offset : UInt64) → Storage σ → Option (LonStatusCode × Storage σ)
  | 0, _, _, _ => none
  | n + 1, bytesErased, offset, s =>
    if bytesErased < size then
      let (status, h) := hal.prepareSegment seg segStart offset eraseBlockSize value s.hal
      let s := { s with hal := h }
      if status ≠ .noError then some (status, s)
      else prepareLoop segStart eraseBlockSize size value n (bytesErased + s.storageBlockSize)
        (offset + s.storageBlockSize) s
    else some (.noError, s)

def prepareStorageSegmentIn (fuel : Nat) (size : UInt64) : Option (LonStatusCode × Storage σ) :=
  let m := s.segmentMap seg
  let size := if m.erase.eraseRequired then size else sizeofTransactionRecord
  let eraseBlockSize := if m.erase.eraseRequired then s.storageBlockSize else sizeofTransactionRecord
  prepareLoop hal seg m.segmentStart eraseBlockSize size m.erase.eraseValue fuel 0 m.segmentStart s

def erasePersistentAppDataIn (fuel : Nat) : Option (LonStatusCode × Storage σ) :=
  s.prepareStorageSegmentIn hal .applicationData fuel (s.segmentMap .applicationData).maxDataSize

def erasePersistentNetworkConfigIn (fuel : Nat) : Option (LonStatusCode × Storage σ) :=
  s.prepareStorageSegmentIn hal .networkImage fuel (s.segmentMap .networkImage).maxDataSize

end

theorem prepareLoop_eq {σ : Type} (hal : Hal σ) (seg : IzotPersistentSegType)
    (segStart eraseBlockSize size : UInt64) (value : UInt8) {blockSize : UInt64}
    (hblock : 0 < blockSize.toNat) (hlt : size.toNat + blockSize.toNat < 2 ^ 64) (m : Nat) :
    ∀ (bytesErased offset : UInt64) (s : Storage σ), s.storageBlockSize = blockSize →
      bytesErased.toNat < size.toNat + blockSize.toNat →
      (size.toNat - bytesErased.toNat + blockSize.toNat - 1) / blockSize.toNat = m →
      prepareLoop hal seg segStart eraseBlockSize size value (m + 1) bytesErased offset s =
        some (prepareBlocks hal seg segStart eraseBlockSize value m offset s) := by
  induction m with
  | zero =>
    intro bytesErased offset s hs herased hm
    have hdone : ¬bytesErased < size := by
      rw [UInt64.lt_iff_toNat_lt]
      intro hlt'
      have hpos : 1 ≤ (size.toNat - bytesErased.toNat + blockSize.toNat - 1) / blockSize.toNat :=
        (Nat.one_le_div_iff hblock).mpr (by omega)
      omega
    rw [prepareLoop, if_neg hdone]
    rfl
  | succ m ih =>
    intro bytesErased offset s hs herased hm
    have hmore : bytesErased.toNat < size.toNat := by
      by_contra hge
      have hzero : (size.toNat - bytesErased.toNat + blockSize.toNat - 1) / blockSize.toNat = 0 :=
        Nat.div_eq_of_lt (by omega)
      omega
    rw [prepareLoop, if_pos (UInt64.lt_iff_toNat_lt.mpr hmore), prepareBlocks]
    generalize hal.prepareSegment seg segStart offset eraseBlockSize value s.hal = r
    obtain ⟨status, h⟩ := r
    dsimp only
    split
    next => rfl
    next =>
      have hadd : (bytesErased + blockSize).toNat = bytesErased.toNat + blockSize.toNat := by
        rw [UInt64.toNat_add]
        exact Nat.mod_eq_of_lt (by omega)
      subst hs
      refine ih _ _ { s with hal := h } rfl (by omega) ?_
      rw [hadd]
      -- one block less is left
      have hleft : size.toNat - bytesErased.toNat + s.storageBlockSize.toNat - 1 =
          size.toNat - bytesErased.toNat - 1 + s.storageBlockSize.toNat := by omega
      rw [hleft, Nat.add_div_right _ hblock] at hm
      have hm' := Nat.succ.inj hm
      cases Nat.lt_or_ge (size.toNat - bytesErased.toNat) s.storageBlockSize.toNat with
      | inl hless =>
        rw [Nat.div_eq_of_lt (by omega)] at hm'
        rw [← hm']
        exact Nat.div_eq_of_lt (by omega)
      | inr hmore =>
        rw [← hm']
        congr 1
        omega

theorem prepareStorageSegmentIn_eq {σ : Type} (hal : Hal σ) (seg : IzotPersistentSegType)
    {s : Storage σ} {size : UInt64} (hblock : 0 < s.storageBlockSize.toNat)
    (hlt : size.toNat + s.storageBlockSize.toNat < 2 ^ 64)
    (hlt' : 8 + s.storageBlockSize.toNat < 2 ^ 64) :
    ∃ fuel, s.prepareStorageSegmentIn hal seg fuel size =
      some (s.prepareStorageSegment hal seg size) := by
  have hsize : (if (s.segmentMap seg).erase.eraseRequired = true then size
      else sizeofTransactionRecord).toNat + s.storageBlockSize.toNat < 2 ^ 64 := by
    split
    next => exact hlt
    next => exact hlt'
  refine ⟨blocksFor (if (s.segmentMap seg).erase.eraseRequired = true then size
    else sizeofTransactionRecord) s.storageBlockSize + 1, ?_⟩
  unfold prepareStorageSegmentIn prepareStorageSegment
  exact prepareLoop_eq hal seg _ _ _ _ hblock hsize _ 0 _ s rfl (Nat.add_pos_right _ hblock) rfl

end Storage

inductive EraseFunction
  | appData
  | networkConfig
  deriving DecidableEq, Repr

namespace EraseFunction

def seg : EraseFunction → IzotPersistentSegType
  | appData => .applicationData
  | networkConfig => .networkImage

def run {σ : Type} (hal : Hal σ) (fuel : Nat) (s : Storage σ) :
    EraseFunction → Option (LonStatusCode × Storage σ)
  | appData => s.erasePersistentAppDataIn hal fuel
  | networkConfig => s.erasePersistentNetworkConfigIn hal fuel

theorem run_eq {σ : Type} (hal : Hal σ) (fuel : Nat) (s : Storage σ) (e : EraseFunction) :
    e.run hal fuel s =
      s.prepareStorageSegmentIn hal e.seg fuel (s.segmentMap e.seg).maxDataSize := by
  cases e <;> rfl

end EraseFunction

namespace Storage

def holding (s : Storage LinuxHal) (content : OsFile → OsFileContent) : Storage LinuxHal :=
  { s with hal := { s.hal with os := { s.hal.os with content := content } } }

def repaired (s : Storage LinuxHal) : Storage LinuxHal :=
  { s with hal := { s.hal with faults := [] } }

section

variable (getMaxSize : IzotPersistentSegType → UInt32) (uninits : IzotPersistentSegType → EraseInfo)
  (appSignature : UInt32)

def reportsInvalid (seg : IzotPersistentSegType) (s : Storage LinuxHal) : Bool :=
  (s.izotStorageSegIsInvalid linuxHal getMaxSize seg (uninits seg)).1

def asked (seg : IzotPersistentSegType) (s : Storage LinuxHal) : Nat → Storage LinuxHal
  | 0 => s
  | n + 1 =>
    ((asked seg s n).izotStorageSegIsInvalid linuxHal getMaxSize seg (uninits seg)).2

def CanStore (images : SegImages) (seg : IzotPersistentSegType) (image : List UInt8)
    (s : Storage LinuxHal) : Prop :=
  (izotPersistentSegStore (handlers linuxHal getMaxSize uninits) appSignature seg s images).1 =
      .noError ∧
    ((izotPersistentSegStore (handlers linuxHal getMaxSize uninits) appSignature seg s
      images).2.content seg).Stores appSignature image

structure Erased (seg : IzotPersistentSegType) (s : Storage LinuxHal) (status : LonStatusCode)
    (s' : Storage LinuxHal) : Prop where
  invalid : status = .noError →
    ∀ n, (s'.repaired.asked getMaxSize uninits seg n).reportsInvalid getMaxSize uninits seg = true
  reports : status = .noError → ∀ other, other ≠ seg →
    s'.repaired.reportsInvalid getMaxSize uninits other =
      s.repaired.reportsInvalid getMaxSize uninits other
  kept : ∀ other, other ≠ seg → s'.content other = s.content other
  usable : ∀ n other images image, Storable getMaxSize images other image →
    CanStore getMaxSize uninits appSignature images other image
      (s'.repaired.asked getMaxSize uninits seg n)

def ErasesWith (e : EraseFunction) (s : Storage LinuxHal) : Prop :=
  ∀ content, ∃ fuel status s', e.run linuxHal fuel (s.holding content) = some (status, s') ∧
    Erased getMaxSize uninits appSignature e.seg (s.holding content) status s'

/-- The segment is open on its own file, and nothing else is; no error is remembered and none occurs
while it is erased; and what is stored needs no more than one block to be erased. -/
structure ReadyToErase (seg : IzotPersistentSegType) (s : Storage LinuxHal) : Prop where
  healthy : s.hal.persistentMemError = .noError
  mapped : s.storageBlockSize ≠ 0
  works : s.hal.fault = none
  own : s.hal.file seg = some (.segment seg)
  alone : ∀ other, other ≠ seg → s.hal.file other ≠ some (.segment seg)
  usable : ∀ other, other = .networkImage ∨ other = .applicationData → s.hal.Usable other
  fits : ∀ other, other = .networkImage ∨ other = .applicationData →
    (s.eraseOf other (uninits other)).eraseRequired = true →
      24 + (getMaxSize other).toNat ≤ BLOCK_SIZE.toNat

end

variable {getMaxSize : IzotPersistentSegType → UInt32} {uninits : IzotPersistentSegType → EraseInfo}
  {appSignature : UInt32} {images : SegImages} {image : List UInt8}
  {seg other : IzotPersistentSegType} {s t : Storage LinuxHal}

theorem eraseOf_of_settled {uninit : EraseInfo} (h : s.Settled seg) :
    s.eraseOf seg uninit = (s.segmentMap seg).erase := by
  refine if_neg fun hplace => ?_
  cases h.2 with
  | inl hplaced => exact hplaced hplace.1
  | inr hnot => exact Bool.noConfusion (hplace.2.symm.trans hnot)

theorem eraseOf_mapped (hmap : s.MapSound getMaxSize)
    (hmax : (getMaxSize seg).toNat + 24 < 2 ^ 31) (hblock : s.storageBlockSize ≠ 0) :
    (s.mapped getMaxSize seg (uninits seg)).eraseOf other (uninits other) =
      s.eraseOf other (uninits other) := by
  by_cases heq : other = seg
  case pos =>
    subst heq
    rw [eraseOf_of_settled (mapSound_mapped hmap hmax).2, erase_mapped]
  case neg =>
    unfold mapped eraseOf
    dsimp only
    rw [if_neg hblock, if_neg hblock]
    split
    next =>
      unfold allocate
      simp only [Function.update_of_ne heq, if_neg hblock]
    next => rfl

theorem stored_seg (h : Storable getMaxSize images seg image) :
    seg = .networkImage ∨ seg = .applicationData := by
  have hserialized := h.serialized
  cases seg with
  | networkImage => exact .inl rfl
  | applicationData => exact .inr rfl
  | _ => exact absurd (congrArg Prod.fst hserialized) nofun

structure Invalidated (getMaxSize : IzotPersistentSegType → UInt32)
    (uninits : IzotPersistentSegType → EraseInfo) (seg : IzotPersistentSegType)
    (t : Storage LinuxHal) : Prop where
  map : t.MapSound getMaxSize
  working : t.hal.Working
  mapped : t.storageBlockSize ≠ 0
  own : t.hal.storageFd seg ≠ none → t.hal.file seg = some (.segment seg)
  size : 8 ≤ (t.content seg).size
  invalid : (TransactionRecord.ofBytes ((t.content seg).data.slice 0 8)).valid = false
  others : ∀ other, other = .networkImage ∨ other = .applicationData → other ≠ seg →
    t.hal.storageFd other ≠ none →
      ∃ f, t.hal.file other = some f ∧ t.hal.os.kind f ≠ .stream ∧ f ≠ .segment seg
  fits : ∀ other, other = .networkImage ∨ other = .applicationData →
    (t.eraseOf other (uninits other)).eraseRequired = true →
      24 + (getMaxSize other).toNat ≤ BLOCK_SIZE.toNat

namespace Invalidated

variable (h : Invalidated getMaxSize uninits seg t)

include h

theorem usable (hother : other = .networkImage ∨ other = .applicationData) :
    t.hal.Usable other := by
  intro hfd
  by_cases heq : other = seg
  case pos =>
    subst heq
    exact ⟨_, h.own hfd, LinuxHal.kind_segment _ _⟩
  case neg =>
    obtain ⟨f, hfile, hkind, -⟩ := h.others other hother heq hfd
    exact ⟨f, hfile, hkind⟩

theorem canStore (hmax : ∀ seg, (getMaxSize seg).toNat + 24 < 2 ^ 31)
    (himage : Storable getMaxSize images other image) :
    CanStore getMaxSize uninits appSignature images other image t := by
  have hother := stored_seg himage
  have hfits : (t.eraseOf other (uninits other)).eraseRequired = true →
      24 + image.length ≤ BLOCK_SIZE.toNat := by
    rw [himage.length]
    exact h.fits other hother
  obtain ⟨t', heq, -, hstores⟩ := @store_eq getMaxSize other t appSignature images image uninits
    h.map (hmax other) h.working (h.usable hother) himage hfits
  unfold CanStore
  rw [heq]
  exact ⟨rfl, hstores⟩

theorem file_opened (uninit : EraseInfo) :
    (t.opened getMaxSize seg uninit).hal.file seg = some (.segment seg) := by
  cases hfd : t.hal.storageFd seg with
  | none => exact Storage.file_opened hfd
  | some d =>
    have hopened : (t.opened getMaxSize seg uninit).hal = t.hal.initialized :=
      LinuxHal.opened_of_some (h := t.hal.initialized) hfd
    rw [hopened]
    exact h.own (hfd ▸ Option.some_ne_none d)

theorem content_opened (hmax : (getMaxSize seg).toNat + 24 < 2 ^ 31) (uninit : EraseInfo) :
    8 ≤ ((t.opened getMaxSize seg uninit).content seg).size ∧
      ((t.opened getMaxSize seg uninit).content seg).data.slice 0 8 =
        (t.content seg).data.slice 0 8 := by
  cases hfd : t.hal.storageFd seg with
  | none =>
    have hcontent := @Storage.content_opened getMaxSize seg uninit t hfd
    have hle : 8 ≤ ((t.mapped getMaxSize seg uninit).fileSize seg).toNat :=
      le_fileSize (mapSound_mapped h.map hmax).1 hmax
    rw [hcontent]
    exact ⟨hle, Image.slice_congr fun i hi =>
      OsFileContent.data_truncate (by have := h.size; omega)⟩
  | some d =>
    have hopened : (t.opened getMaxSize seg uninit).hal = t.hal.initialized :=
      LinuxHal.opened_of_some (h := t.hal.initialized) hfd
    have hcontent : (t.opened getMaxSize seg uninit).content seg = t.content seg := by
      rw [content, hopened]
      rfl
    rw [hcontent]
    exact ⟨h.size, rfl⟩

theorem asked (hmax : ∀ seg, (getMaxSize seg).toNat + 24 < 2 ^ 31) :
    t.reportsInvalid getMaxSize uninits seg = true ∧
      Invalidated getMaxSize uninits seg
        (t.izotStorageSegIsInvalid linuxHal getMaxSize seg (uninits seg)).2 := by
  have hfile := h.file_opened (uninits seg)
  obtain ⟨hsize, hslice⟩ := h.content_opened (hmax seg) (uninits seg)
  have hasked := @isInvalid_of_read getMaxSize seg (uninits seg) t h.map (hmax seg) h.working _ hfile
    (LinuxHal.kind_segment _ seg) (by rw [LinuxOs.size, if_pos (by rfl)]; exact hsize)
  have hmapped := @mapSound_mapped getMaxSize seg (uninits seg) _ t h.map (hmax seg)
  have hblock := @storageBlockSize_mapped getMaxSize seg (uninits seg) _ t h.map
  have hcontent : ((t.opened getMaxSize seg (uninits seg)).hal.os.content (.segment seg)).data =
      ((t.opened getMaxSize seg (uninits seg)).content seg).data := rfl
  rw [hcontent, hslice, h.invalid] at hasked
  have hne : BLOCK_SIZE ≠ 0 := by decide
  unfold reportsInvalid
  rw [hasked]
  refine ⟨rfl, ?_⟩
  exact
    { map := hmapped.1.same ⟨rfl, rfl, rfl, rfl⟩
      working := (working_opened h.working).closed
      mapped := by
        rw [← hblock] at hne
        exact hne
      own := fun hfd => absurd LinuxHal.storageFd_closed hfd
      size := by
        rw [content, LinuxHal.content_closed]
        exact hsize
      invalid := by
        rw [content, LinuxHal.content_closed, ← h.invalid, ← hslice]
        rfl
      others := by
        intro other hother hother' hfd
        have hsameFd : (t.opened getMaxSize seg (uninits seg)).hal.storageFd other =
            t.hal.storageFd other :=
          LinuxHal.storageFd_opened_of_ne (h := t.hal.initialized) hother'
        have hfd' : t.hal.storageFd other ≠ none := by
          rwa [LinuxHal.storageFd_closed_of_ne hother', hsameFd] at hfd
        obtain ⟨f, hfile', hkind, hnot⟩ := h.others other hother hother' hfd'
        have hopened : (t.opened getMaxSize seg (uninits seg)).hal.file other = some f :=
          LinuxHal.file_opened_of_ne (h := t.hal.initialized) hother' hfile'
        refine ⟨f, ?_, ?_, hnot⟩
        · rw [LinuxHal.file_closed_of_ne hother', hopened]
          intro heq
          have hsame : (t.opened getMaxSize seg (uninits seg)).hal.file other =
              (t.opened getMaxSize seg (uninits seg)).hal.file seg := by
            unfold LinuxHal.file
            rw [heq]
          rw [hopened, hfile] at hsame
          exact hnot (Option.some.inj hsame)
        · have hsameKind : (t.opened getMaxSize seg (uninits seg)).hal.os.kind f =
              t.hal.os.kind f := LinuxHal.kind_opened (h := t.hal.initialized)
          rwa [LinuxHal.kind_closed, hsameKind]
      fits := by
        intro other hother hreq
        refine h.fits other hother ?_
        rw [← @eraseOf_mapped getMaxSize uninits seg other t h.map (hmax seg) h.mapped]
        exact hreq }

theorem asked_n (hmax : ∀ seg, (getMaxSize seg).toNat + 24 < 2 ^ 31) (n : Nat) :
    Invalidated getMaxSize uninits seg (t.asked getMaxSize uninits seg n) := by
  induction n with
  | zero => exact h
  | succ n ih => exact (ih.asked hmax).2

end Invalidated

/-- The signature is not four times one byte. -/
theorem word_replicate_ne (value : UInt8) :
    TransactionRecord.word (List.replicate 4 value) 0 ≠ TX_SIGNATURE := by
  intro h
  have hlt := value.toNat_lt
  have hword : (TransactionRecord.word (List.replicate 4 value) 0).toNat =
      value.toNat + 256 * value.toNat + 256 ^ 2 * value.toNat + 256 ^ 3 * value.toNat := by
    refine UInt32.toNat_ofNat_of_lt' ?_
    change value.toNat + 256 * value.toNat + 256 ^ 2 * value.toNat + 256 ^ 3 * value.toNat < 2 ^ 32
    omega
  have hsignature : TX_SIGNATURE.toNat = 0x89ABCDEF := rfl
  rw [h, hsignature] at hword
  omega

theorem not_valid_replicate (value : UInt8) :
    (TransactionRecord.ofBytes (List.replicate 8 value)).valid = false :=
  decide_eq_false fun hvalid => word_replicate_ne value hvalid.1

theorem maxDataSize_lt (hmap : s.MapSound getMaxSize)
    (hmax : (getMaxSize seg).toNat + 24 < 2 ^ 31) :
    (s.segmentMap seg).maxDataSize.toNat < 2 ^ 31 := by
  by_cases hplaced : s.Placed seg
  case pos =>
    rw [hmap.size seg hplaced]
    omega
  case neg =>
    rw [hmap.blank seg hplaced]
    decide

def erasedState (s : Storage LinuxHal) (seg : IzotPersistentSegType) : Storage LinuxHal :=
  { s with hal := s.hal.taken.written (.segment seg) 0 (s.erasedBytes seg) }

theorem ReadyToErase.holding (h : ReadyToErase getMaxSize uninits seg s)
    (content : OsFile → OsFileContent) :
    ReadyToErase getMaxSize uninits seg (s.holding content) where
  healthy := h.healthy
  mapped := h.mapped
  works := h.works
  own := h.own
  alone := h.alone
  usable := by
    intro other hother hfd
    obtain ⟨f, hfile, hkind⟩ := h.usable other hother hfd
    refine ⟨f, hfile, ?_⟩
    cases f <;> exact hkind
  fits := h.fits

theorem ReadyToErase.run_eq {e : EraseFunction} (h : ReadyToErase getMaxSize uninits e.seg s)
    (hmap : s.MapSound getMaxSize) (hmax : ∀ seg, (getMaxSize seg).toNat + 24 < 2 ^ 31) :
    ∃ fuel, e.run linuxHal fuel s = some (.noError, s.erasedState e.seg) := by
  have hblock : s.storageBlockSize = BLOCK_SIZE := hmap.block.resolve_left h.mapped
  have hsize : BLOCK_SIZE.toNat = 4096 := rfl
  have hlt := maxDataSize_lt hmap (hmax e.seg)
  obtain ⟨fuel, hfuel⟩ := @prepareStorageSegmentIn_eq _ linuxHal e.seg s
    (s.segmentMap e.seg).maxDataSize (by rw [hblock]; omega) (by rw [hblock]; omega)
    (by rw [hblock]; omega)
  refine ⟨fuel, (e.run_eq _ _ _).trans (hfuel.trans (congrArg some ?_))⟩
  refine prepareStorageSegment_one h.healthy h.works h.own (LinuxHal.kind_segment _ _) hblock ?_
  intro hreq
  have hplaced : s.Placed e.seg := by
    by_contra hnot
    rw [hmap.blank e.seg hnot] at hreq
    exact Bool.noConfusion hreq
  have herase : s.eraseOf e.seg (uninits e.seg) = (s.segmentMap e.seg).erase :=
    eraseOf_of_settled ⟨h.mapped, .inl hplaced⟩
  have hfits := h.fits e.seg (by cases e; exacts [.inr rfl, .inl rfl]) (by rw [herase]; exact hreq)
  rw [hmap.size e.seg hplaced]
  omega

theorem length_erasedBytes (hblock : s.storageBlockSize = BLOCK_SIZE) :
    8 ≤ (s.erasedBytes seg).length := by
  rw [erasedBytes, List.length_replicate, eraseBlock, hblock]
  split
  next => decide
  next => exact Nat.le_refl 8

theorem slice_writeAt_erased (hblock : s.storageBlockSize = BLOCK_SIZE) (c : OsFileContent) :
    (c.writeAt 0 (s.erasedBytes seg)).data.slice 0 8 =
      List.replicate 8 (s.segmentMap seg).erase.eraseValue := by
  have hlen := @length_erasedBytes seg s hblock
  have hsplit : s.erasedBytes seg = List.replicate 8 (s.segmentMap seg).erase.eraseValue ++
      List.replicate (s.eraseBlock seg - 8) (s.segmentMap seg).erase.eraseValue := by
    rw [List.replicate_append_replicate, erasedBytes]
    congr 1
    rw [erasedBytes, List.length_replicate] at hlen
    omega
  rw [OsFileContent.writeAt_of_le (Nat.zero_le _)]
  dsimp only
  rw [hsplit, Image.write_append, List.length_replicate]
  refine ((Image.OnlyIn.write _ _ _).slice_eq (.inl (Nat.le_refl _))).trans ?_
  have hslice := Image.slice_write c.data 0
    (List.replicate 8 (s.segmentMap seg).erase.eraseValue)
  rwa [List.length_replicate] at hslice

theorem content_erasedState (hblock : s.storageBlockSize = BLOCK_SIZE) :
    8 ≤ ((s.erasedState seg).content seg).size ∧
      ((s.erasedState seg).content seg).data.slice 0 8 =
        List.replicate 8 (s.segmentMap seg).erase.eraseValue := by
  have hlen := @length_erasedBytes seg s hblock
  have hcontent : (s.erasedState seg).content seg =
      (s.content seg).writeAt 0 (s.erasedBytes seg) := LinuxHal.content_written
  rw [hcontent]
  refine ⟨?_, slice_writeAt_erased hblock _⟩
  rw [OsFileContent.writeAt_of_le (Nat.zero_le _)]
  exact Nat.le_trans (by omega) (Nat.le_max_right _ _)

theorem ReadyToErase.invalidated (h : ReadyToErase getMaxSize uninits seg s)
    (hmap : s.MapSound getMaxSize) :
    Invalidated getMaxSize uninits seg (s.erasedState seg).repaired where
  map := hmap.same ⟨rfl, rfl, rfl, rfl⟩
  working := ⟨h.healthy, rfl⟩
  mapped := h.mapped
  own _ := by
    have hfile : (s.hal.taken.written (.segment seg) 0 (s.erasedBytes seg)).file seg =
        some (.segment seg) := LinuxHal.file_written.trans h.own
    exact hfile
  size := (content_erasedState (hmap.block.resolve_left h.mapped)).1
  invalid := by
    have hslice := (@content_erasedState seg s (hmap.block.resolve_left h.mapped)).2
    have hsame : (s.erasedState seg).repaired.content seg = (s.erasedState seg).content seg := rfl
    rw [hsame, hslice]
    exact not_valid_replicate _
  others other hother hne hfd := by
    obtain ⟨f, hfile, hkind⟩ := h.usable other hother hfd
    have hfile' : (s.hal.taken.written (.segment seg) 0 (s.erasedBytes seg)).file other = some f :=
      LinuxHal.file_written.trans hfile
    have hkind' : (s.hal.taken.written (.segment seg) 0 (s.erasedBytes seg)).os.kind f =
        s.hal.taken.os.kind f := LinuxHal.kind_written
    refine ⟨f, hfile', fun hstream => hkind (hkind'.symm.trans hstream), ?_⟩
    rintro rfl
    exact h.alone other hne hfile
  fits := h.fits

theorem opened_written {h : LinuxHal} {offset : Nat} {bytes : List UInt8} (hne : other ≠ seg)
    (halone : h.file other ≠ some (.segment seg)) (maxDataSize : UInt64) {f : OsFile} :
    ((h.written (.segment seg) offset bytes).opened other maxDataSize).file other =
        (h.opened other maxDataSize).file other ∧
      ((h.opened other maxDataSize).file other = some f →
        ((h.written (.segment seg) offset bytes).opened other maxDataSize).os.content f =
          (h.opened other maxDataSize).os.content f) := by
  cases hfd : h.storageFd other with
  | none =>
    have hfd' : (h.written (.segment seg) offset bytes).storageFd other = none := hfd
    have hsegment : OsFile.segment other ≠ .segment seg := fun heq => hne (OsFile.segment.inj heq)
    rw [LinuxHal.file_opened hfd, LinuxHal.file_opened hfd']
    refine ⟨rfl, fun hfile => ?_⟩
    cases hfile
    rw [LinuxHal.content_opened hfd, LinuxHal.content_opened hfd',
      LinuxHal.content_written_of_ne hsegment]
  | some d =>
    have hfd' : (h.written (.segment seg) offset bytes).storageFd other = some d := hfd
    rw [LinuxHal.opened_of_some hfd, LinuxHal.opened_of_some hfd']
    refine ⟨LinuxHal.file_written, fun hfile => LinuxHal.content_written_of_ne ?_⟩
    rintro rfl
    exact halone hfile

theorem reportsInvalid_eq (hmap : s.MapSound getMaxSize)
    (hmax : (getMaxSize seg).toNat + 24 < 2 ^ 31) (hw : s.hal.Working) :
    s.reportsInvalid getMaxSize uninits seg = false ↔
      ∃ f, (s.opened getMaxSize seg (uninits seg)).hal.file seg = some f ∧
        (s.opened getMaxSize seg (uninits seg)).hal.os.kind f ≠ .stream ∧
        8 ≤ (s.opened getMaxSize seg (uninits seg)).hal.os.size f ∧
        (TransactionRecord.ofBytes (((s.opened getMaxSize seg (uninits seg)).hal.os.content
          f).data.slice 0 8)).valid = true := by
  unfold reportsInvalid
  constructor
  · intro hreport
    by_contra hnot
    have hbad : ∀ f, (s.opened getMaxSize seg (uninits seg)).hal.file seg = some f →
        (s.opened getMaxSize seg (uninits seg)).hal.os.kind f = .stream ∨
          (s.opened getMaxSize seg (uninits seg)).hal.os.size f < 8 := by
      intro f hfile
      by_contra hgood
      obtain ⟨hkind, hsize⟩ := not_or.mp hgood
      rw [isInvalid_of_read hmap hmax hw hfile hkind (Nat.le_of_not_lt hsize)] at hreport
      exact hnot ⟨f, hfile, hkind, Nat.le_of_not_lt hsize, by simpa using hreport⟩
    obtain ⟨s', heq, -⟩ := isInvalid_of_not_read hw hbad
    rw [heq] at hreport
    exact Bool.noConfusion hreport
  · rintro ⟨f, hfile, hkind, hsize, hvalid⟩
    rw [isInvalid_of_read hmap hmax hw hfile hkind hsize, hvalid]
    rfl

theorem ReadyToErase.reports (h : ReadyToErase getMaxSize uninits seg s)
    (hmap : s.MapSound getMaxSize) (hmax : ∀ seg, (getMaxSize seg).toNat + 24 < 2 ^ 31)
    (hne : other ≠ seg) :
    (s.erasedState seg).repaired.reportsInvalid getMaxSize uninits other =
      s.repaired.reportsInvalid getMaxSize uninits other := by
  have hsame : (s.erasedState seg).repaired.MapSound getMaxSize := hmap.same ⟨rfl, rfl, rfl, rfl⟩
  have hsame' : s.repaired.MapSound getMaxSize := hmap.same ⟨rfl, rfl, rfl, rfl⟩
  have hw : (s.erasedState seg).repaired.hal.Working := ⟨h.healthy, rfl⟩
  have hw' : s.repaired.hal.Working := ⟨h.healthy, rfl⟩
  have hiff := @reportsInvalid_eq getMaxSize uninits other _ hsame (hmax other) hw
  have hiff' := @reportsInvalid_eq getMaxSize uninits other _ hsame' (hmax other) hw'
  have hwritten := @opened_written seg other s.repaired.hal.initialized 0 (s.erasedBytes seg) hne
    (h.alone other hne) ((s.repaired.mapped getMaxSize other (uninits other)).fileSize other)
  have hhal : ((s.erasedState seg).repaired.opened getMaxSize other (uninits other)).hal =
      (s.repaired.hal.initialized.written (.segment seg) 0 (s.erasedBytes seg)).opened other
        ((s.repaired.mapped getMaxSize other (uninits other)).fileSize other) := by
    have hmapped := @mapped_withHal getMaxSize other (uninits other) s.repaired
      (s.erasedState seg).repaired.hal
    have hfileSize := congrArg (fun t : Storage LinuxHal => t.fileSize other) hmapped
    exact congrArg ((s.erasedState seg).repaired.hal.initialized.opened other) hfileSize
  have hkind (f : OsFile) : ((s.erasedState seg).repaired.opened getMaxSize other
      (uninits other)).hal.os.kind f =
      (s.repaired.opened getMaxSize other (uninits other)).hal.os.kind f := by
    rw [hhal, LinuxHal.kind_opened, LinuxHal.kind_written]
    exact LinuxHal.kind_opened.symm
  refine Bool.eq_iff_iff.mpr (not_iff_not.mp ?_)
  rw [Bool.not_eq_true, Bool.not_eq_true, hiff, hiff']
  refine exists_congr fun f => ?_
  obtain ⟨hfile, hcontent⟩ := @hwritten f
  rw [← hhal] at hfile hcontent
  rw [hkind f, LinuxOs.size, LinuxOs.size, hkind f, hfile]
  refine and_congr_right fun hopen => ?_
  rw [hcontent hopen]
  rfl

theorem ReadyToErase.erased (h : ReadyToErase getMaxSize uninits seg s)
    (hmap : s.MapSound getMaxSize) (hmax : ∀ seg, (getMaxSize seg).toNat + 24 < 2 ^ 31) :
    Erased getMaxSize uninits appSignature seg s .noError (s.erasedState seg) where
  invalid _ n := (((h.invalidated hmap).asked_n hmax n).asked hmax).1
  reports _ other hne := h.reports hmap hmax hne
  kept other hne := by
    have hsegment : OsFile.segment other ≠ .segment seg := fun heq => hne (OsFile.segment.inj heq)
    exact LinuxHal.content_written_of_ne hsegment
  usable n other images image himage :=
    ((h.invalidated hmap).asked_n hmax n).canStore hmax himage

end Storage

end LonStack
