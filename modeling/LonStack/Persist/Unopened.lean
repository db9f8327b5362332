import LonStack.Persist.EraseReady
import LonStack.Persist.PowerLost

namespace LonStack

open Lib

namespace Storage

variable {getMaxSize : IzotPersistentSegType → UInt32} {uninits : IzotPersistentSegType → EraseInfo}
  {appSignature : UInt32} {images : SegImages} {image : List UInt8} {seg : IzotPersistentSegType}
  {uninit : EraseInfo} {s : Storage LinuxHal} {faults : List (Option Nat)} {n : Nat}

theorem usable_of_writeRecord {r : TransactionRecord} (h : ((s.withFaults faults).writeRecord linuxHal
    getMaxSize seg uninit r).2.hal.persistentMemError = .noError) : s.hal.Usable seg := by
  have hhealthy : s.hal.persistentMemError = .noError := by
    by_contra herror
    rw [writeRecord_of_error (s := s.withFaults faults) herror] at h
    exact herror h
  by_contra husable
  obtain ⟨hfd, hbad⟩ := not_forall.mp husable
  obtain ⟨d, hd⟩ := Option.ne_none_iff_exists'.mp hfd
  have hhal : (s.opened getMaxSize seg uninit).hal = s.hal.initialized :=
    LinuxHal.opened_of_some (h := s.hal.initialized) hd
  unfold writeRecord at h
  cases @openStorageSegment_attempt getMaxSize seg uninit s hhealthy faults with
  | inr hlost =>
    obtain ⟨-, hstatus, hlost⟩ := hlost
    generalize (s.withFaults faults).openStorageSegment linuxHal getMaxSize seg uninit = r at *
    simp only [ne_eq, hstatus, not_false_eq_true, if_true] at h
    exact hlost.error h
  | inl hok =>
    obtain ⟨-, hok⟩ := hok
    generalize faults.drop (s.openCalls seg) = faults' at hok
    generalize s.opened getMaxSize seg uninit = s' at *
    have hnot : ∀ f, (s'.withFaults faults').hal.file seg = some f →
        (s'.withFaults faults').hal.os.kind f = .stream := by
      intro f hfile
      change s'.hal.file seg = some f at hfile
      change s'.hal.os.kind f = .stream
      rw [hhal] at hfile ⊢
      by_contra hkind
      exact hbad ⟨f, hfile, hkind⟩
    have hhealthy' : (s'.withFaults faults').hal.persistentMemError = .noError := by
      change s'.hal.persistentMemError = _
      rw [hhal]
      exact hhealthy
    have hwrite : linuxHal.writeSegment seg r.bytes ((s'.withFaults faults').segmentMap seg).segmentStart
        ((s'.withFaults faults').segmentMap seg).txOffset (s'.withFaults faults').hal =
        (s'.withFaults faults').hal.fail .persistentDataAccessError :=
      LinuxHal.halWriteStorageSegment_of_bad hhealthy' hnot
    have hclose := @halClose_of_error seg { s'.withFaults faults' with
      hal := ((s'.withFaults faults').hal.fail .persistentDataAccessError).2 }
      LinuxHal.persistentDataAccessError_ne
    simp only [hok, ne_eq, not_true, if_false, hwrite, hclose] at h
    exact LinuxHal.persistentDataAccessError_ne h

theorem prepareStorageSegment_of_more (hblock : s.storageBlockSize = BLOCK_SIZE) {size : UInt64}
    (hreq : (s.segmentMap seg).erase.eraseRequired = true) (hmore : BLOCK_SIZE.toNat < size.toNat) :
    (s.prepareStorageSegment linuxHal seg size).2.hal.persistentMemError ≠ .noError := by
  obtain ⟨m, hm⟩ : ∃ m, blocksFor size s.storageBlockSize = m + 2 := by
    refine Nat.exists_eq_add_of_le' ?_
    have hsize : BLOCK_SIZE.toNat = 4096 := rfl
    rw [hblock, blocksFor, hsize]
    omega
  have hcall (offset : UInt64) (h : LinuxHal) : linuxHal.prepareSegment seg
      (s.segmentMap seg).segmentStart offset s.storageBlockSize (s.segmentMap seg).erase.eraseValue h =
      h.halPrepareStorageSegment seg (s.segmentMap seg).segmentStart offset s.storageBlockSize
        (s.segmentMap seg).erase.eraseValue := rfl
  have hfirst := LinuxHal.halPrepareStorageSegment_cases s.hal seg (s.segmentMap seg).segmentStart
    (s.segmentMap seg).segmentStart s.storageBlockSize (s.segmentMap seg).erase.eraseValue
  have hsecond (h : LinuxHal) := LinuxHal.halPrepareStorageSegment_cases h seg
    (s.segmentMap seg).segmentStart ((s.segmentMap seg).segmentStart + BLOCK_SIZE) s.storageBlockSize
    (s.segmentMap seg).erase.eraseValue
  have hsub : (s.segmentMap seg).segmentStart - ((s.segmentMap seg).segmentStart + BLOCK_SIZE) =
      0 - BLOCK_SIZE := by grind
  rw [hsub] at hsecond
  unfold prepareStorageSegment
  simp only [hreq, if_true, hm, prepareBlocks, hcall]
  cases hfirst with
  | inl hgood =>
    obtain ⟨hhealthy, hfault, hlt, f, hfile, hkind⟩ := hgood
    rw [LinuxHal.halPrepareStorageSegment_of_fault hhealthy hfile hkind hlt hfault,
      if_neg (not_not_intro rfl)]
    dsimp only
    rw [hblock] at hsecond ⊢
    generalize s.hal.taken.written f _ _ = h
    obtain ⟨hstatus, herror⟩ := (hsecond h).resolve_left fun hgood => absurd hgood.2.2.1 (by decide)
    rw [if_pos hstatus]
    exact herror
  | inr hbad =>
    rw [if_pos hbad.1]
    exact hbad.2

theorem fits_of_openForWrite (h : s.Closed getMaxSize seg) {dataSize : UInt64}
    (hle : dataSize ≤ (s.segmentMap seg).maxDataSize) (hlt : dataSize.toNat < 2 ^ 32)
    (hopened : ((s.withFaults faults).izotStorageOpenSegForWrite linuxHal getMaxSize seg uninit
      dataSize).1 ≠ none) (hreq : (s.segmentMap seg).erase.eraseRequired = true) :
    dataSize.toNat + 8 ≤ BLOCK_SIZE.toNat := by
  by_contra hmore
  have hsize : (dataSize + sizeofTransactionRecord).toNat = dataSize.toNat + 8 := by
    rw [UInt64.toNat_add]
    change (dataSize.toNat + 8) % 2 ^ 64 = _
    omega
  apply hopened
  unfold izotStorageOpenSegForWrite
  cases @openStorageSegment_attempt getMaxSize seg uninit s h.working.healthy faults with
  | inr hlost =>
    obtain ⟨-, hstatus, -⟩ := hlost
    generalize (s.withFaults faults).openStorageSegment linuxHal getMaxSize seg uninit = r at *
    simp only [ne_eq, hstatus, not_false_eq_true, if_true]
  | inl hok =>
    obtain ⟨-, hok⟩ := hok
    rw [opened_of_settled h.settled] at hok
    generalize faults.drop (s.openCalls seg) = faults' at hok
    generalize hs' : (({ s with hal := s.hal.initialized.opened seg (s.fileSize seg) } :
      Storage LinuxHal).withFaults faults') = s' at hok
    have hle' : dataSize ≤ (s'.segmentMap seg).maxDataSize := by
      rw [← hs']
      exact hle
    have herror := @prepareStorageSegment_of_more seg s'
      (by rw [← hs']; exact h.map.block.resolve_left h.settled.1) (dataSize + sizeofTransactionRecord)
      (by rw [← hs']; exact hreq) (by rw [hsize]; omega)
    simp only [hok, ne_eq, not_true, if_false, if_pos hle', halClose_of_error herror, if_neg herror]

theorem quiet_of_opened (hmap : s.MapSound getMaxSize) (hmax : (getMaxSize seg).toNat + 24 < 2 ^ 31)
    (himage : Storable getMaxSize images seg image)
    (hopened : (((s.withFaults faults).writeRecord linuxHal getMaxSize seg (uninits seg)
      ⟨TX_SIGNATURE, TX_DATA_INVALID⟩).2.izotStorageOpenSegForWrite linuxHal getMaxSize seg
        (uninits seg) (sizeofPersistenceHeader.toUInt64 +
          (imageHeader appSignature image).length.toUInt64)).1 ≠ none) :
    s.hal.persistentMemError = .noError ∧ s.hal.Usable seg ∧
      ((s.eraseOf seg (uninits seg)).eraseRequired = true →
        24 + (getMaxSize seg).toNat ≤ BLOCK_SIZE.toNat) ∧
      Quiet (s.firstCalls seg) faults := by
  have hlen := himage.length
  have hdata := @toNat_dataSize appSignature image (by omega)
  have hentered : ((s.withFaults faults).writeRecord linuxHal getMaxSize seg (uninits seg)
      ⟨TX_SIGNATURE, TX_DATA_INVALID⟩).2.hal.persistentMemError = .noError := by
    by_contra herror
    rw [openForWrite_of_error herror] at hopened
    exact hopened rfl
  have hhealthy : s.hal.persistentMemError = .noError := by
    by_contra herror
    rw [writeRecord_of_error (s := s.withFaults faults) herror] at hentered
    exact herror hentered
  have husable := usable_of_writeRecord hentered
  have hmap' : (s.withFaults []).MapSound getMaxSize := hmap.same ⟨rfl, rfl, rfl, rfl⟩
  have hsize : (((s.withFaults []).mapped getMaxSize seg (uninits seg)).fileSize seg).toNat =
      24 + (getMaxSize seg).toNat := fileSize_mapped hmap' hmax himage.allocated
  have hattempt := @enter_attempt getMaxSize seg (uninits seg) (s.withFaults []) _ hmap' hmax
    ⟨hhealthy, rfl⟩ husable hsize faults ⟨TX_SIGNATURE, TX_DATA_INVALID⟩
  cases hattempt with
  | inr hlost => exact absurd hentered hlost.2.1
  | inl hdone =>
    obtain ⟨s₁, hquiet, henter, hclosed, hmap₁, -⟩ := hdone
    have henter' : ((s.withFaults faults).writeRecord linuxHal getMaxSize seg (uninits seg)
      ⟨TX_SIGNATURE, TX_DATA_INVALID⟩).2 = _ := henter
    have hplaced : s₁.Placed seg :=
      hclosed.settled.2.resolve_right fun h => Bool.noConfusion (himage.allocated.symm.trans h)
    have hmaxData := hclosed.map.size seg hplaced
    have hle := UInt64.le_iff_toNat_le.mpr (show (sizeofPersistenceHeader.toUInt64 +
      (imageHeader appSignature image).length.toUInt64).toNat ≤ (s₁.segmentMap seg).maxDataSize.toNat
        by omega)
    have herase : (s₁.segmentMap seg).erase = s.eraseOf seg (uninits seg) := by
      rw [hmap₁, erase_mapped]
      rfl
    rw [henter'] at hopened
    have hfits := fits_of_openForWrite hclosed hle (by omega) hopened
    rw [herase] at hfits
    refine ⟨hhealthy, husable, fun hreq => by have := hfits hreq; omega, quiet_add.mpr ⟨hquiet, ?_⟩⟩
    cases @openForWrite_attempt getMaxSize seg (uninits seg) s₁ _ hmax hclosed rfl _ hle
      (by rw [herase]; exact hfits) (by omega) (faults.drop (s.openCalls seg + 1)) with
    | inl hdone =>
      obtain ⟨-, hquiet', -⟩ := hdone
      exact hquiet'
    | inr hlost => exact absurd hlost.2.1 hopened

/-- A store that does not open its segment reports success all the same, whatever was to be stored. -/
theorem stored_cases (hmap : s.MapSound getMaxSize) (hmax : (getMaxSize seg).toNat + 24 < 2 ^ 31)
    (hsome : ∃ images image, Storable getMaxSize images seg image) :
    (s.hal.persistentMemError = .noError ∧ s.hal.Usable seg ∧
        ((s.eraseOf seg (uninits seg)).eraseRequired = true →
          24 + (getMaxSize seg).toNat ≤ BLOCK_SIZE.toNat) ∧
        Quiet (s.firstCalls seg) faults) ∨
      ∃ s', ∀ images image, Storable getMaxSize images seg image →
        izotPersistentSegStore (handlers linuxHal getMaxSize uninits) appSignature seg
          (s.withFaults faults) images = (.noError, s') := by
  obtain ⟨images₀, image₀, himage₀⟩ := hsome
  -- the size that is asked for depends on the length only
  have hsize {images : SegImages} {image : List UInt8} (himage : Storable getMaxSize images seg image) :
      (imageHeader appSignature image).length = (imageHeader appSignature image₀).length := by
    change UInt32.ofNat image.length = UInt32.ofNat image₀.length
    rw [himage.length, himage₀.length]
  generalize henter : (s.withFaults faults).writeRecord linuxHal getMaxSize seg (uninits seg)
    ⟨TX_SIGNATURE, TX_DATA_INVALID⟩ = r
  obtain ⟨status, s₁⟩ := r
  generalize hopen : s₁.izotStorageOpenSegForWrite linuxHal getMaxSize seg (uninits seg)
    (sizeofPersistenceHeader.toUInt64 + (imageHeader appSignature image₀).length.toUInt64) = r
  obtain ⟨opened, s₂⟩ := r
  by_cases hnone : opened = none
  case pos =>
    refine .inr ⟨((handlers linuxHal getMaxSize uninits).exitTransaction seg s₂).2,
      fun images image himage => ?_⟩
    have henter' : (handlers linuxHal getMaxSize uninits).enterTransaction seg
      (s.withFaults faults) = (status, s₁) := henter
    have hopen' : (handlers linuxHal getMaxSize uninits).openForWrite seg
        (sizeofPersistenceHeader.toUInt64 + (imageHeader appSignature image).length.toUInt64) s₁ =
        (opened, s₂) := by
      rw [hsize himage]
      exact hopen
    unfold izotPersistentSegStore
    simp only [henter', himage.serialized, hopen', hnone, ne_eq, not_true, if_false, if_true]
  case neg =>
    refine .inl (@quiet_of_opened getMaxSize uninits appSignature _ _ seg s faults hmap hmax himage₀ ?_)
    rw [henter, hopen]
    exact hnone

end Storage

end LonStack
