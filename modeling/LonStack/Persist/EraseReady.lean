import LonStack.Lib.Run
import LonStack.Persist.Erase

namespace LonStack

open Lib

namespace EraseFunction

def spared : EraseFunction → IzotPersistentSegType
  | appData => .networkImage
  | networkConfig => .applicationData

theorem spared_ne (e : EraseFunction) : e.spared ≠ e.seg := by cases e <;> decide

theorem spared_mem (e : EraseFunction) :
    e.spared = .networkImage ∨ e.spared = .applicationData := by cases e <;> decide

end EraseFunction

namespace Storage

variable {getMaxSize : IzotPersistentSegType → UInt32} {uninits : IzotPersistentSegType → EraseInfo}
  {appSignature : UInt32} {images : SegImages} {image : List UInt8}
  {seg other : IzotPersistentSegType} {s t t' : Storage LinuxHal} {e : EraseFunction} {f : OsFile}

theorem prepareLoop_of_block_zero {segStart eraseBlockSize size : UInt64} {value : UInt8}
    (hpos : 0 < size) (n : Nat) :
    ∀ (offset : UInt64) (s : Storage LinuxHal) {status : LonStatusCode} {s' : Storage LinuxHal},
      s.storageBlockSize = 0 →
      prepareLoop linuxHal seg segStart eraseBlockSize size value n 0 offset s =
        some (status, s') → s'.hal.persistentMemError ≠ .noError := by
  induction n with
  | zero =>
    intro offset s status s' _ hrun
    cases hrun
  | succ n ih =>
    intro offset s status s' hblock hrun
    have hprepare : linuxHal.prepareSegment seg segStart offset eraseBlockSize value s.hal =
        s.hal.halPrepareStorageSegment seg segStart offset eraseBlockSize value := rfl
    rw [prepareLoop, if_pos hpos, hprepare] at hrun
    cases LinuxHal.halPrepareStorageSegment_cases s.hal seg segStart offset eraseBlockSize value with
    | inl hgood =>
      obtain ⟨hhealthy, hfault, hlt, f, hfile, hkind⟩ := hgood
      rw [LinuxHal.halPrepareStorageSegment_of_fault hhealthy hfile hkind hlt hfault] at hrun
      simp only [ne_eq, not_true, if_false, hblock] at hrun
      exact ih _ _ rfl hrun
    | inr hbad =>
      generalize s.hal.halPrepareStorageSegment seg segStart offset eraseBlockSize value = r at *
      simp only [ne_eq, hbad.1, not_false_eq_true, if_true, Option.some.injEq, Prod.mk.injEq] at hrun
      rw [← hrun.2]
      exact hbad.2

/-- A further block cannot be looked up: its virtual offset is subtracted the wrong way round. -/
theorem prepareLoop_of_next {segStart eraseBlockSize size : UInt64} {value : UInt8} (n : Nat)
    {bytesErased : UInt64} {status : LonStatusCode} {s' : Storage LinuxHal}
    (hmore : bytesErased < size)
    (hrun : prepareLoop linuxHal seg segStart eraseBlockSize size value n bytesErased
      (segStart + BLOCK_SIZE) s = some (status, s')) :
    s'.hal.persistentMemError ≠ .noError := by
  have hprepare : linuxHal.prepareSegment seg segStart (segStart + BLOCK_SIZE) eraseBlockSize value
      s.hal = s.hal.halPrepareStorageSegment seg segStart (segStart + BLOCK_SIZE) eraseBlockSize
        value := rfl
  cases n with
  | zero => cases hrun
  | succ n =>
    rw [prepareLoop, if_pos hmore, hprepare] at hrun
    cases LinuxHal.halPrepareStorageSegment_cases s.hal seg segStart (segStart + BLOCK_SIZE)
      eraseBlockSize value with
    | inl hgood =>
      have hsub : segStart - (segStart + BLOCK_SIZE) = 0 - BLOCK_SIZE := by grind
      have hlt := hgood.2.2.1
      rw [hsub] at hlt
      exact absurd hlt (by decide)
    | inr hbad =>
      generalize s.hal.halPrepareStorageSegment seg segStart (segStart + BLOCK_SIZE) eraseBlockSize
        value = r at *
      simp only [ne_eq, hbad.1, not_false_eq_true, if_true, Option.some.injEq, Prod.mk.injEq] at hrun
      rw [← hrun.2]
      exact hbad.2

theorem run_inv {e : EraseFunction} {fuel : Nat} {status : LonStatusCode}
    {s' : Storage LinuxHal} (hmap : s.MapSound getMaxSize)
    (hrun : e.run linuxHal fuel s = some (status, s'))
    (hok : s'.hal.persistentMemError = .noError) :
    s.hal.persistentMemError = .noError ∧ s.storageBlockSize ≠ 0 ∧ s.hal.fault = none ∧
      status = .noError ∧
      ∃ f, s.hal.file e.seg = some f ∧ s.hal.os.kind f ≠ .stream ∧
        s' = { s with hal := s.hal.taken.written f 0 (s.erasedBytes e.seg) } := by
  rw [e.run_eq] at hrun
  generalize e.seg = seg at *
  unfold prepareStorageSegmentIn at hrun
  dsimp only at hrun
  have hpos : 0 < (if (s.segmentMap seg).erase.eraseRequired = true then
      (s.segmentMap seg).maxDataSize else sizeofTransactionRecord) := by
    split
    next hreq =>
      have hplaced : s.Placed seg := by
        by_contra hnot
        rw [hmap.blank seg hnot] at hreq
        exact Bool.noConfusion hreq
      rw [UInt64.lt_iff_toNat_lt, hmap.size seg hplaced]
      exact Nat.add_pos_left (by decide) _
    next => decide
  have hlength : (if (s.segmentMap seg).erase.eraseRequired = true then s.storageBlockSize
      else sizeofTransactionRecord).toNat = s.eraseBlock seg := by
    unfold eraseBlock
    split <;> rfl
  generalize (if (s.segmentMap seg).erase.eraseRequired = true then
      (s.segmentMap seg).maxDataSize else sizeofTransactionRecord) = size at *
  generalize (if (s.segmentMap seg).erase.eraseRequired = true then s.storageBlockSize
      else sizeofTransactionRecord) = eraseBlockSize at *
  have hblock : s.storageBlockSize ≠ 0 := by
    intro hzero
    exact prepareLoop_of_block_zero hpos fuel _ s hzero hrun hok
  have hblock' : s.storageBlockSize = BLOCK_SIZE := hmap.block.resolve_left hblock
  have hzero : ((s.segmentMap seg).segmentStart - (s.segmentMap seg).segmentStart).toNat = 0 := by
    rw [UInt64.sub_self]
    rfl
  have hprepare : linuxHal.prepareSegment seg (s.segmentMap seg).segmentStart
      (s.segmentMap seg).segmentStart eraseBlockSize (s.segmentMap seg).erase.eraseValue s.hal =
      s.hal.halPrepareStorageSegment seg (s.segmentMap seg).segmentStart
        (s.segmentMap seg).segmentStart eraseBlockSize (s.segmentMap seg).erase.eraseValue := rfl
  cases fuel with
  | zero => cases hrun
  | succ n =>
    rw [prepareLoop, if_pos hpos, hprepare] at hrun
    cases LinuxHal.halPrepareStorageSegment_cases s.hal seg (s.segmentMap seg).segmentStart
      (s.segmentMap seg).segmentStart eraseBlockSize (s.segmentMap seg).erase.eraseValue with
    | inl hgood =>
      obtain ⟨hhealthy, hfault, hlt, f, hfile, hkind⟩ := hgood
      rw [LinuxHal.halPrepareStorageSegment_of_fault hhealthy hfile hkind hlt hfault, hzero,
        hlength] at hrun
      simp only [ne_eq, not_true, if_false] at hrun
      refine ⟨hhealthy, hblock, hfault, ?_⟩
      by_cases hmore : 0 + s.storageBlockSize < size
      case pos =>
        rw [hblock'] at hmore hrun
        exact absurd hok (prepareLoop_of_next n hmore hrun)
      case neg =>
        cases n with
        | zero => cases hrun
        | succ n =>
          rw [prepareLoop, if_neg hmore] at hrun
          obtain ⟨rfl, rfl⟩ := Prod.mk.inj (Option.some.inj hrun)
          exact ⟨rfl, f, hfile, hkind, rfl⟩
    | inr hbad =>
      generalize s.hal.halPrepareStorageSegment seg (s.segmentMap seg).segmentStart
        (s.segmentMap seg).segmentStart eraseBlockSize (s.segmentMap seg).erase.eraseValue = r at *
      simp only [ne_eq, hbad.1, not_false_eq_true, if_true, Option.some.injEq, Prod.mk.injEq] at hrun
      rw [← hrun.2] at hok
      exact absurd hok hbad.2

theorem exists_storable (getMaxSize : IzotPersistentSegType → UInt32)
    (hseg : seg = .networkImage ∨ seg = .applicationData) :
    ∃ images image, Storable getMaxSize images seg image := by
  refine ⟨⟨List.replicate (getMaxSize seg).toNat 0,
    some (.noError, List.replicate (getMaxSize seg).toNat 0)⟩,
    List.replicate (getMaxSize seg).toNat 0, ?_, ?_, List.length_replicate⟩
  · cases hseg with
    | inl h => subst h; rfl
    | inr h => subst h; rfl
  · cases hseg with
    | inl h => subst h; rfl
    | inr h => subst h; rfl

theorem not_canStore (hstored : Storable getMaxSize images seg image)
    (herror : t.hal.persistentMemError ≠ .noError) (hsize : (t.content seg).size < 24) :
    ¬CanStore getMaxSize uninits appSignature images seg image t := by
  rintro ⟨-, hlen, -⟩
  rw [store_of_error hstored.serialized herror] at hlen
  omega

theorem not_canStore_of_not_usable (hstored : Storable getMaxSize images seg image)
    (hw : t.hal.Working) (husable : ¬t.hal.Usable seg) (hsize : (t.content seg).size < 24) :
    ¬CanStore getMaxSize uninits appSignature images seg image t := by
  rintro ⟨-, hlen, -⟩
  obtain ⟨status, t', henter, herror, hos⟩ := @writeRecord_of_not_usable getMaxSize seg t (uninits seg)
    ⟨TX_SIGNATURE, TX_DATA_INVALID⟩ hw husable
  rw [store_of_entered henter hstored.serialized herror, content, hos] at hlen
  change 24 + image.length ≤ (t.content seg).size at hlen
  omega

theorem slice_of_stores {c : OsFileContent} (h : c.Stores appSignature image) :
    c.data.slice 0 8 = TransactionRecord.bytes ⟨TX_SIGNATURE, TX_DATA_VALID⟩ := by
  have hslice := h.2
  have hsplit : 24 + image.length = 8 + (16 + image.length) := by omega
  rw [hsplit, Image.slice_add] at hslice
  exact (List.append_inj hslice (by rw [Image.length_slice]; rfl)).1

theorem not_canStore_of_more (hstored : Storable getMaxSize images seg image)
    (hmap : t.MapSound getMaxSize) (hmax : (getMaxSize seg).toNat + 24 < 2 ^ 31)
    (hw : t.hal.Working) (husable : t.hal.Usable seg)
    (hreq : (t.eraseOf seg (uninits seg)).eraseRequired = true)
    (hmore : BLOCK_SIZE.toNat < 24 + (getMaxSize seg).toNat) :
    ¬CanStore getMaxSize uninits appSignature images seg image t := by
  rintro ⟨-, hstores⟩
  have hlen := hstored.length
  obtain ⟨t₁, henter, hclosed, hmap₁⟩ := @writeRecord_usable getMaxSize seg (uninits seg) t hmap hmax
    hw husable ⟨TX_SIGNATURE, TX_DATA_INVALID⟩
  have hplaced : t₁.Placed seg :=
    hclosed.settled.2.resolve_right fun h => Bool.noConfusion (hstored.allocated.symm.trans h)
  have hmaxData := hclosed.map.size seg hplaced
  have hdata := @toNat_dataSize appSignature image (by omega)
  have herase : (t₁.segmentMap seg).erase = t.eraseOf seg (uninits seg) := by
    rw [hmap₁, erase_mapped]
  obtain ⟨t₂, hopen, herror, hcontent⟩ := @openForWrite_more getMaxSize seg (uninits seg) t₁ hclosed
    (sizeofPersistenceHeader.toUInt64 + (imageHeader appSignature image).length.toUInt64)
    (UInt64.le_iff_toNat_le.mpr (by omega)) (by rw [herase]; exact hreq) (by omega) (by omega)
  rw [store_of_not_opened henter hstored.serialized hopen herror, hcontent] at hstores
  have hslice := slice_of_stores hstores
  rw [slice_writeAt_erased (hclosed.map.block.resolve_left hclosed.settled.1)] at hslice
  have hinvalid := not_valid_replicate (t₁.segmentMap seg).erase.eraseValue
  rw [hslice] at hinvalid
  exact absurd hinvalid (by decide)

def recordOnly : OsFileContent :=
  ⟨8, Image.write (fun _ => 0) 0 (TransactionRecord.bytes ⟨TX_SIGNATURE, TX_DATA_VALID⟩)⟩

theorem slice_recordOnly :
    recordOnly.data.slice 0 8 = TransactionRecord.bytes ⟨TX_SIGNATURE, TX_DATA_VALID⟩ :=
  Image.slice_write _ _ _

theorem valid_recordOnly :
    (TransactionRecord.ofBytes (recordOnly.data.slice 0 8)).valid = true := by
  rw [slice_recordOnly]
  decide

def erasedOn (s : Storage LinuxHal) (seg : IzotPersistentSegType) (f : OsFile) : Storage LinuxHal :=
  { s with hal := s.hal.taken.written f 0 (s.erasedBytes seg) }

theorem ReadyToErase.of_holding {content : OsFile → OsFileContent}
    (h : ReadyToErase getMaxSize uninits seg (s.holding content)) :
    ReadyToErase getMaxSize uninits seg s := by
  have hsame : (s.holding content).holding s.hal.os.content = s := rfl
  rw [← hsame]
  exact h.holding _

theorem healthy_of_erased {status : LonStatusCode} (hrecord : ∀ f, t.hal.os.content f = recordOnly)
    (h : Erased getMaxSize uninits appSignature seg t status t') (hne : other ≠ seg)
    (hother : other = .networkImage ∨ other = .applicationData) :
    t'.hal.persistentMemError = .noError := by
  by_contra herror
  obtain ⟨images, image, hstored⟩ := exists_storable getMaxSize hother
  have hkept : (t'.content other).size = 8 := by
    rw [h.kept other hne, content, hrecord]
    rfl
  have hcan := h.usable 0 other images image hstored
  have hsize : ((t'.repaired.asked getMaxSize uninits seg 0).content other).size < 24 := by
    have hsame : (t'.repaired.asked getMaxSize uninits seg 0).content other = t'.content other := rfl
    rw [hsame, hkept]
    decide
  have herror' : (t'.repaired.asked getMaxSize uninits seg 0).hal.persistentMemError ≠ .noError := herror
  exact not_canStore hstored herror' hsize hcan

theorem slice_erasedOn (hblock : t.storageBlockSize = BLOCK_SIZE) (hkind : t.hal.os.kind f = .regular) :
    ((t.erasedOn seg f).hal.os.content f).data.slice 0 8 =
      List.replicate 8 (t.segmentMap seg).erase.eraseValue ∧
      8 ≤ ((t.erasedOn seg f).hal.os.content f).size := by
  have hcontent : (t.erasedOn seg f).hal.os.content f =
      (t.hal.os.content f).writeAt 0 (t.erasedBytes seg) := by
    exact (congrArg (fun os : LinuxOs => os.content f) (if_pos hkind)).trans
      (LinuxOs.content_setContent _)
  rw [hcontent]
  refine ⟨slice_writeAt_erased hblock _, ?_⟩
  have hlen := @length_erasedBytes seg t hblock
  rw [OsFileContent.writeAt_of_le (Nat.zero_le _)]
  exact Nat.le_trans (by omega) (Nat.le_max_right _ _)

theorem hal_opened_of_file {uninit : EraseInfo} (hfile : s.hal.file seg = some f) :
    (s.opened getMaxSize seg uninit).hal = s.hal.initialized := by
  obtain ⟨d, hfd, -⟩ := Option.bind_eq_some_iff.mp hfile
  exact LinuxHal.opened_of_some (h := s.hal.initialized) hfd

theorem not_invalid_of_other (hmap : t.MapSound getMaxSize)
    (hmax : ∀ seg, (getMaxSize seg).toNat + 24 < 2 ^ 31) (hw : t.hal.Working)
    (hfile : t.hal.file seg = some f) (hkind : t.hal.os.kind f = .regular) (hsize : 8 ≤ (t.hal.os.content f).size)
    (hown : t.content seg = recordOnly) :
    (t.asked getMaxSize uninits seg 1).reportsInvalid getMaxSize uninits seg = false := by
  have hhal := @hal_opened_of_file getMaxSize seg t f (uninits seg) hfile
  have hasked := @isInvalid_of_read getMaxSize seg (uninits seg) t hmap (hmax seg) hw f
    (by rw [hhal]; exact hfile) (by rw [hhal]; exact fun hstream => nomatch hkind.symm.trans hstream)
    (by rw [hhal, LinuxOs.size, if_pos (by exact hkind)]; exact hsize)
  obtain ⟨u, hu, hclosed, hcontent⟩ : ∃ u, t.asked getMaxSize uninits seg 1 = u ∧
      u.Closed getMaxSize seg ∧ u.content seg = recordOnly := by
    refine ⟨_, congrArg Prod.snd hasked, closed_opened hmap (hmax seg) (working_opened hw) initialized_opened, ?_⟩
    rw [content, LinuxHal.content_closed, hhal]
    exact hown
  rw [hu]
  have hopened := @opened_of_settled getMaxSize seg (uninits seg) u hclosed.settled
  have hle := le_fileSize hclosed.map (hmax seg)
  have hcontent' : (u.opened getMaxSize seg (uninits seg)).content seg =
      recordOnly.truncate (u.fileSize seg).toNat := by
    rw [content_opened hclosed.closed, hcontent, mapped_of_settled hclosed.settled]
  refine (reportsInvalid_eq hclosed.map (hmax seg) hclosed.working).mpr
    ⟨.segment seg, file_opened hclosed.closed, LinuxHal.kind_segment _ seg, ?_, ?_⟩
  · rw [LinuxOs.size, if_pos (by rfl)]
    exact Nat.le_trans hle (Nat.le_of_eq (congrArg OsFileContent.size hcontent').symm)
  · have hslice : ((u.opened getMaxSize seg (uninits seg)).hal.os.content
        (.segment seg)).data.slice 0 8 = recordOnly.data.slice 0 8 := by
      refine (congrArg (fun c : OsFileContent => c.data.slice 0 8) hcontent').trans ?_
      exact Image.slice_congr fun i hi => OsFileContent.data_truncate (by
        have hsize : recordOnly.size = 8 := rfl
        omega)
    rw [hslice]
    exact valid_recordOnly

theorem own_of_erased (hmap : t.MapSound getMaxSize)
    (hmax : ∀ seg, (getMaxSize seg).toNat + 24 < 2 ^ 31) (hblock : t.storageBlockSize = BLOCK_SIZE)
    (hhealthy : t.hal.persistentMemError = .noError) (hfile : t.hal.file seg = some f)
    (hkind : t.hal.os.kind f ≠ .stream) (hrecord : ∀ f, t.hal.os.content f = recordOnly)
    (h : Erased getMaxSize uninits appSignature seg t .noError (t.erasedOn seg f))
    (hother : other = .networkImage ∨ other = .applicationData) : f = .segment seg := by
  by_contra hf
  have hmapu : (t.erasedOn seg f).repaired.MapSound getMaxSize := hmap.same ⟨rfl, rfl, rfl, rfl⟩
  have hwu : (t.erasedOn seg f).repaired.hal.Working := ⟨hhealthy, rfl⟩
  have hfileu : (t.erasedOn seg f).repaired.hal.file seg = some f := by
    have hwritten : (t.hal.taken.written f 0 (t.erasedBytes seg)).file seg = some f :=
      LinuxHal.file_written.trans hfile
    exact hwritten
  have hkindu : (t.erasedOn seg f).repaired.hal.os.kind f = t.hal.os.kind f :=
    LinuxOs.kind_writeAt _ _ _
  have hcontentu (f' : OsFile) (hf' : f' ≠ f) :
      (t.erasedOn seg f).repaired.hal.os.content f' = recordOnly :=
    (LinuxOs.content_writeAt_of_ne _ _ hf').trans (hrecord f')
  cases hregular : t.hal.os.kind f with
  | stream => exact hkind hregular
  | regular =>
    have hsize := (@slice_erasedOn seg t f hblock hregular).2
    have hvalid := @not_invalid_of_other getMaxSize uninits seg _ f hmapu hmax hwu hfileu
      (hkindu.trans hregular) hsize (hcontentu _ (Ne.symm hf))
    exact Bool.noConfusion (hvalid.symm.trans (h.invalid rfl 1))
  | sink =>
    have hhal := @hal_opened_of_file getMaxSize seg _ f (uninits seg) hfileu
    obtain ⟨u, hu, herror, hos⟩ := @isInvalid_of_not_read getMaxSize seg (uninits seg) _ hwu (by
      rw [hhal]
      intro f' hfile'
      have hsame : f' = f := Option.some.inj (hfile'.symm.trans hfileu)
      have hnot : (t.erasedOn seg f).repaired.hal.initialized.os.kind f ≠ .regular := by
        intro hreg
        cases (hkindu.trans hregular).symm.trans hreg
      have hzero : (t.erasedOn seg f).repaired.hal.initialized.os.size f = 0 := if_neg hnot
      rw [hsame, hzero]
      exact .inr (by decide))
    have hother' : OsFile.segment other ≠ f := by
      rintro rfl
      cases hregular
    have hcontent : (u.content other).size < 24 := by
      rw [content, hos, hhal]
      have hkept := hcontentu _ hother'
      exact lt_of_eq_of_lt (congrArg OsFileContent.size hkept) (by decide)
    obtain ⟨images, image, hstored⟩ := exists_storable getMaxSize hother
    have hasked : (t.erasedOn seg f).repaired.asked getMaxSize uninits seg 1 = u :=
      congrArg Prod.snd hu
    have hcan := h.usable 1 other images image hstored
    rw [hasked] at hcan
    exact not_canStore hstored herror hcontent hcan

theorem alone_of_erased (hmap : t.MapSound getMaxSize)
    (hmax : ∀ seg, (getMaxSize seg).toNat + 24 < 2 ^ 31) (hblock : t.storageBlockSize = BLOCK_SIZE)
    (hhealthy : t.hal.persistentMemError = .noError) (hrecord : ∀ f, t.hal.os.content f = recordOnly)
    (h : Erased getMaxSize uninits appSignature seg t .noError (t.erasedOn seg (.segment seg)))
    (hne : other ≠ seg) : t.hal.file other ≠ some (.segment seg) := by
  intro hfile
  have hmap' : t.repaired.MapSound getMaxSize := hmap.same ⟨rfl, rfl, rfl, rfl⟩
  have hmapu : (t.erasedOn seg (.segment seg)).repaired.MapSound getMaxSize :=
    hmap.same ⟨rfl, rfl, rfl, rfl⟩
  have hfileu : (t.erasedOn seg (.segment seg)).repaired.hal.file other = some (.segment seg) := by
    have hwritten : (t.hal.taken.written (.segment seg) 0 (t.erasedBytes seg)).file other =
        some (.segment seg) := LinuxHal.file_written.trans hfile
    exact hwritten
  have hfile' : t.repaired.hal.file other = some (.segment seg) := hfile
  have hhal := @hal_opened_of_file getMaxSize other t.repaired _ (uninits other) hfile'
  have hhalu := @hal_opened_of_file getMaxSize other _ _ (uninits other) hfileu
  have hvalid : t.repaired.reportsInvalid getMaxSize uninits other = false := by
    refine (reportsInvalid_eq hmap' (hmax other) ⟨hhealthy, rfl⟩).mpr ⟨.segment seg, ?_, ?_, ?_, ?_⟩
    · rw [hhal]
      exact hfile'
    · exact LinuxHal.kind_segment _ seg
    · rw [hhal, LinuxOs.size, if_pos (by rfl)]
      exact le_of_le_of_eq (by decide : 8 ≤ recordOnly.size)
        (congrArg OsFileContent.size (hrecord (.segment seg))).symm
    · have hcontent : t.repaired.hal.initialized.os.content (.segment seg) = recordOnly := hrecord _
      rw [hhal, hcontent]
      exact valid_recordOnly
  rw [← h.reports rfl other hne] at hvalid
  obtain ⟨f, hopened, -, -, hrecordValid⟩ :=
    (reportsInvalid_eq hmapu (hmax other) ⟨hhealthy, rfl⟩).mp hvalid
  rw [hhalu] at hopened hrecordValid
  have hsame : f = .segment seg := Option.some.inj (hopened.symm.trans hfileu)
  have hslice := (@slice_erasedOn seg t (.segment seg) hblock rfl).1
  rw [hsame] at hrecordValid
  have herased : ((t.erasedOn seg (.segment seg)).repaired.hal.initialized.os.content
      (.segment seg)).data.slice 0 8 =
      List.replicate 8 (t.segmentMap seg).erase.eraseValue := hslice
  rw [herased, not_valid_replicate] at hrecordValid
  cases hrecordValid

theorem usable_erasedOn : (t.erasedOn seg f).repaired.hal.Usable other ↔ t.hal.Usable other := by
  have hfile : (t.erasedOn seg f).repaired.hal.file other = t.hal.file other :=
    LinuxHal.file_written (h := t.hal.taken)
  have hkind (f' : OsFile) : (t.erasedOn seg f).repaired.hal.os.kind f' = t.hal.os.kind f' :=
    LinuxOs.kind_writeAt _ _ _
  unfold LinuxHal.Usable
  simp only [hfile, hkind]
  rfl

theorem ready_of_erased {fuel : Nat} {status : LonStatusCode} (hmap : t.MapSound getMaxSize)
    (hmax : ∀ seg, (getMaxSize seg).toNat + 24 < 2 ^ 31)
    (hrecord : ∀ f, t.hal.os.content f = recordOnly)
    (hrun : e.run linuxHal fuel t = some (status, t'))
    (h : Erased getMaxSize uninits appSignature e.seg t status t') :
    ReadyToErase getMaxSize uninits e.seg t := by
  have hok := healthy_of_erased hrecord h e.spared_ne e.spared_mem
  obtain ⟨hhealthy, hmapped, hfault, rfl, f, hfile, hkind, hstate⟩ := run_inv hmap hrun hok
  have hblock : t.storageBlockSize = BLOCK_SIZE := hmap.block.resolve_left hmapped
  obtain rfl : t' = t.erasedOn e.seg f := hstate
  obtain rfl := own_of_erased hmap hmax hblock hhealthy hfile hkind hrecord h e.spared_mem
  have hmapu : (t.erasedOn e.seg (.segment e.seg)).repaired.MapSound getMaxSize :=
    hmap.same ⟨rfl, rfl, rfl, rfl⟩
  have hwu : (t.erasedOn e.seg (.segment e.seg)).repaired.hal.Working := ⟨hhealthy, rfl⟩
  have husable : ∀ other, other = .networkImage ∨ other = .applicationData → t.hal.Usable other := by
    intro other hother
    by_cases heq : other = e.seg
    case pos =>
      subst heq
      exact fun _ => ⟨_, hfile, hkind⟩
    case neg =>
      by_contra hnot
      obtain ⟨images, image, hstored⟩ := exists_storable getMaxSize hother
      have hkept : (t.erasedOn e.seg (.segment e.seg)).repaired.content other = recordOnly :=
        (h.kept other heq).trans (hrecord _)
      exact not_canStore_of_not_usable hstored hwu (fun hu => hnot (usable_erasedOn.mp hu))
        (lt_of_eq_of_lt (congrArg OsFileContent.size hkept) (by decide))
        (h.usable 0 other images image hstored)
  exact
    { healthy := hhealthy
      mapped := hmapped
      works := hfault
      own := hfile
      alone := fun other hne => alone_of_erased hmap hmax hblock hhealthy hrecord h hne
      usable := husable
      fits := by
        intro other hother hreq
        by_contra hmore
        obtain ⟨images, image, hstored⟩ := exists_storable getMaxSize hother
        exact not_canStore_of_more hstored hmapu (hmax other) hwu
          (usable_erasedOn.mpr (husable other hother)) hreq (Nat.lt_of_not_le hmore)
          (h.usable 0 other images image hstored) }

theorem ready_of_erasesWith (hmap : s.MapSound getMaxSize)
    (hmax : ∀ seg, (getMaxSize seg).toNat + 24 < 2 ^ 31)
    (h : ErasesWith getMaxSize uninits appSignature e s) :
    ReadyToErase getMaxSize uninits e.seg s := by
  obtain ⟨fuel, status, s', hrun, herased⟩ := h fun _ => recordOnly
  have hmap' : (s.holding fun _ => recordOnly).MapSound getMaxSize := hmap.same ⟨rfl, rfl, rfl, rfl⟩
  exact (ready_of_erased hmap' hmax (fun _ => rfl) hrun herased).of_holding

inductive LinuxEvent
  | access (e : StorageEvent)
  | platform (h : LinuxHal)

def linuxStep (getMaxSize : IzotPersistentSegType → UInt32) (e : LinuxEvent)
    (s : Storage LinuxHal) : Storage LinuxHal :=
  match e with
  | .access e => s.access linuxHal getMaxSize e
  | .platform h => { s with hal := h }

section

variable {σ : Type} {hal : Hal σ} {s : Storage σ} {uninit : EraseInfo}

theorem sameMap_prepareBlocks (segStart eraseBlockSize : UInt64) (value : UInt8) (n : Nat) :
    ∀ (offset : UInt64) (s : Storage σ),
      SameMap s (prepareBlocks hal seg segStart eraseBlockSize value n offset s).2 := by
  induction n with
  | zero => exact fun _ _ => ⟨rfl, rfl, rfl, rfl⟩
  | succ n ih =>
    intro offset s
    rw [prepareBlocks]
    generalize hal.prepareSegment seg segStart offset eraseBlockSize value s.hal = r
    obtain ⟨status, h⟩ := r
    have hsame : SameMap s { s with hal := h } := ⟨rfl, rfl, rfl, rfl⟩
    dsimp only
    split
    next => exact hsame
    next => exact hsame.trans (ih _ _)

theorem sameMap_writeBlocks (segStart : UInt64) (n : Nat) :
    ∀ (nextOffset : UInt64) (data : List UInt8) (s : Storage σ),
      SameMap s (writeBlocks hal seg segStart n nextOffset data s).2 := by
  induction n with
  | zero => exact fun _ _ _ => ⟨rfl, rfl, rfl, rfl⟩
  | succ n ih =>
    intro nextOffset data s
    by_cases hnil : data = []
    case pos =>
      rw [writeBlocks, if_pos hnil]
      exact ⟨rfl, rfl, rfl, rfl⟩
    case neg =>
      simp only [writeBlocks, if_neg hnil]
      generalize (if (s.storageBlockSize - nextOffset % s.storageBlockSize).toNat < data.length then
          (s.storageBlockSize - nextOffset % s.storageBlockSize).toNat
        else data.length) = k
      have hsame (h : σ) : SameMap s { s with hal := h } := ⟨rfl, rfl, rfl, rfl⟩
      split
      next => exact hsame _
      next => exact (hsame _).trans (ih _ _ _)

end

theorem halInitStorage_healthy {h h' : LinuxHal} (heq : h.halInitStorage = (.noError, h')) :
    h'.persistentMemError = .noError := by
  unfold LinuxHal.halInitStorage LinuxHal.guarded at heq
  split at heq
  next herror => exact absurd (congrArg Prod.fst heq) herror
  next hhealthy =>
    rw [not_not] at hhealthy
    dsimp only at heq
    split at heq
    next =>
      rw [← (Prod.mk.inj heq).2]
      exact hhealthy
    next =>
      split at heq
      next =>
        rw [← (Prod.mk.inj heq).2]
        exact hhealthy
      next => exact absurd (congrArg Prod.fst heq) nofun

theorem mapSound_openStorageSegment {uninit : EraseInfo} (hmap : s.MapSound getMaxSize)
    (hmax : (getMaxSize seg).toNat + 24 < 2 ^ 31) :
    (s.openStorageSegment linuxHal getMaxSize seg uninit).2.MapSound getMaxSize := by
  unfold openStorageSegment
  generalize hinit : linuxHal.initStorage s.hal = r
  obtain ⟨status, h⟩ := r
  dsimp only
  split
  next => exact hmap.same ⟨rfl, rfl, rfl, rfl⟩
  next hstatus =>
    rw [not_not] at hstatus
    subst hstatus
    have hhealthy : h.persistentMemError = .noError := halInitStorage_healthy hinit
    rw [initSegmentMap_eq (s := { s with hal := h }) hhealthy, mapped_withHal]
    dsimp only
    rw [if_neg (not_not_intro rfl)]
    exact (mapSound_mapped hmap hmax).1.same ⟨rfl, rfl, rfl, rfl⟩

theorem mapSound_writeRecord {uninit : EraseInfo} {r : TransactionRecord}
    (hopen : (s.openStorageSegment linuxHal getMaxSize seg uninit).2.MapSound getMaxSize) :
    (s.writeRecord linuxHal getMaxSize seg uninit r).2.MapSound getMaxSize := by
  unfold writeRecord
  generalize s.openStorageSegment linuxHal getMaxSize seg uninit = r at *
  obtain ⟨status, s⟩ := r
  dsimp only
  split
  next => exact hopen
  next => exact hopen.same ⟨rfl, rfl, rfl, rfl⟩

theorem mapSound_prepareStorageSegment (hmap : s.MapSound getMaxSize) (size : UInt64) :
    (s.prepareStorageSegment linuxHal seg size).2.MapSound getMaxSize :=
  hmap.same (sameMap_prepareBlocks _ _ _ _ _ s)

theorem mapSound_access (hmax : ∀ seg, (getMaxSize seg).toNat + 24 < 2 ^ 31) (e : StorageEvent)
    (hmap : s.MapSound getMaxSize) : (s.access linuxHal getMaxSize e).MapSound getMaxSize := by
  have hopen := @mapSound_openStorageSegment getMaxSize e.seg s e.uninit hmap (hmax e.seg)
  rw [access]
  cases e.op with
  | openForRead => exact hopen
  | openForWrite dataSize =>
    unfold izotStorageOpenSegForWrite
    generalize s.openStorageSegment linuxHal getMaxSize e.seg e.uninit = r at *
    obtain ⟨status, s⟩ := r
    dsimp only
    split
    next => exact hopen
    next =>
      split
      next => exact (mapSound_prepareStorageSegment hopen _).same ⟨rfl, rfl, rfl, rfl⟩
      next => exact hopen.same ⟨rfl, rfl, rfl, rfl⟩
  | read segmentOffset dataSize =>
    unfold izotStorageReadSeg
    generalize s.openStorageSegment linuxHal getMaxSize e.seg e.uninit = r at *
    obtain ⟨status, s⟩ := r
    dsimp only
    split
    next => exact hopen
    next =>
      split
      next => exact hopen.same ⟨rfl, rfl, rfl, rfl⟩
      next => exact hopen.same ⟨rfl, rfl, rfl, rfl⟩
  | write segmentOffset data =>
    unfold izotStorageWriteSeg
    generalize s.openStorageSegment linuxHal getMaxSize e.seg e.uninit = r at *
    obtain ⟨status, s⟩ := r
    have hblocks := hopen.same (@sameMap_writeBlocks e.seg _ linuxHal
      (s.segmentMap e.seg).segmentStart data.length
      (segmentOffset + (s.segmentMap e.seg).segmentStart) data s)
    dsimp only
    split
    next => exact hopen
    next =>
      split
      next => exact hblocks
      next => exact hblocks.same ⟨rfl, rfl, rfl, rfl⟩
  | isInvalid =>
    unfold izotStorageSegIsInvalid
    generalize s.openStorageSegment linuxHal getMaxSize e.seg e.uninit = r at *
    obtain ⟨status, s⟩ := r
    dsimp only
    split
    next => exact hopen
    next =>
      split
      next => exact hopen.same ⟨rfl, rfl, rfl, rfl⟩
      next => exact hopen.same ⟨rfl, rfl, rfl, rfl⟩
  | startUpdate => exact mapSound_writeRecord hopen
  | finishUpdate => exact mapSound_writeRecord hopen
  | erase =>
    dsimp only
    split
    next => exact mapSound_prepareStorageSegment hmap _
    next =>
      split
      next => exact mapSound_prepareStorageSegment hmap _
      next => exact hmap

theorem mapSound_of_run (hmax : ∀ seg, (getMaxSize seg).toNat + 24 < 2 ^ 31) {h : LinuxHal}
    {history : List (Storage LinuxHal × LinuxEvent)}
    (hrun : Run (linuxStep getMaxSize) (init h) history s) : s.MapSound getMaxSize := by
  have hstep : ∀ e t, True → MapSound getMaxSize t → MapSound getMaxSize (linuxStep getMaxSize e t) := by
    intro e t _ hmap
    cases e with
    | access e => exact mapSound_access hmax e hmap
    | platform h => exact hmap.same ⟨rfl, rfl, rfl, rfl⟩
  exact hrun.invariant hstep (fun _ _ => trivial) (mapSound_init getMaxSize h)

/-- In every state that the storage reaches, erasing works exactly if the segment is ready. -/
theorem erasesWith_iff (hmax : ∀ seg, (getMaxSize seg).toNat + 24 < 2 ^ 31) {h : LinuxHal}
    {history : List (Storage LinuxHal × LinuxEvent)}
    (hrun : Run (linuxStep getMaxSize) (init h) history s) (e : EraseFunction) :
    ErasesWith getMaxSize uninits appSignature e s ↔ ReadyToErase getMaxSize uninits e.seg s := by
  have hmap := mapSound_of_run hmax hrun
  refine ⟨ready_of_erasesWith hmap hmax, fun hready content => ?_⟩
  have hready' := hready.holding content
  have hmap' : (s.holding content).MapSound getMaxSize := hmap.same ⟨rfl, rfl, rfl, rfl⟩
  obtain ⟨fuel, hfuel⟩ := hready'.run_eq hmap' hmax
  exact ⟨fuel, .noError, _, hfuel, hready'.erased hmap' hmax⟩

def daemonHal : LinuxHal where
  persistentMemError := .noError
  persistentMemInitialized := false
  storageFd seg := if seg = .networkImage then none else some 0
  os :=
    { descriptors := [some (.other 0), some (.other 0), some (.other 0)]
      content := fun _ => ⟨0, fun _ => 0⟩
      otherKind := fun _ => .sink }
  faults := []

theorem erasesWith_iff_opened :
    ErasesWith (fun _ => 100) (fun _ => ⟨false, 0⟩) 7 .networkConfig
      ((init daemonHal).access linuxHal (fun _ => 100) ⟨.networkImage, ⟨false, 0⟩, .openForRead⟩) :=
  (erasesWith_iff (fun _ => by decide) (.next (.access ⟨.networkImage, ⟨false, 0⟩, .openForRead⟩) .refl)
    .networkConfig).mpr
    { healthy := rfl
      mapped := by decide
      works := rfl
      own := rfl
      alone := by
        intro other hne
        cases other with
        | networkImage => exact absurd rfl hne
        | _ => decide
      usable := by
        intro other hother _
        rcases hother with rfl | rfl
        · exact ⟨.segment .networkImage, rfl, OsFileKind.noConfusion⟩
        · exact ⟨.other 0, rfl, OsFileKind.noConfusion⟩
      fits := by
        intro other hother hreq
        rcases hother with rfl | rfl <;> cases hreq }

theorem not_erasesWith :
    ¬ErasesWith (fun _ => 100) (fun _ => ⟨false, 0⟩) 7 .networkConfig
      ((init daemonHal).access linuxHal (fun _ => 100) ⟨.networkImage, ⟨false, 0⟩, .isInvalid⟩) := by
  intro herases
  have hmap : ((init daemonHal).access linuxHal (fun _ => 100)
      ⟨.networkImage, ⟨false, 0⟩, .isInvalid⟩).MapSound (fun _ => 100) :=
    mapSound_access (fun _ => by decide) _ (mapSound_init _ _)
  have hclosed := (ready_of_erasesWith hmap (fun _ => by decide) herases).own
  cases hclosed

end Storage

end LonStack
