import LonStack.Persist.ReadBack
import LonStack.Persist.Restart
import LonStack.Persist.Unopened

namespace LonStack

open Lib

namespace Storage

section

variable (getMaxSize : IzotPersistentSegType → UInt32) (uninits uninits' : IzotPersistentSegType → EraseInfo)
  (appSignature : UInt32) (deserialize : Option (List UInt8 → LonStatusCode))
  (seg : IzotPersistentSegType)

def restoredFrom (others : OsFile → OsFileContent) (later : Storage LinuxHal) (c : OsFileContent) :
    SegRestored × List LonStatusCode :=
  let r := izotPersistentSegRestore (handlers linuxHal getMaxSize uninits').reporting appSignature seg
    (later.holding (Function.update others (.segment seg) c), []) ⟨getMaxSize, deserialize⟩
  (r.1, r.2.2)

def storedWith (s : Storage LinuxHal) (faults : List (Option Nat)) (images : SegImages) :
    LonStatusCode × Storage LinuxHal :=
  izotPersistentSegStore (handlers linuxHal getMaxSize uninits) appSignature seg
    (s.withFaults faults) images

/-- Wherever the power is lost, a restore in `later` fails and changes nothing, or gives what it gave
before the store, or the new image. If the store has reported success, with these failures, it gives the
new image. -/
structure PowerSafe (s later : Storage LinuxHal) (faults : List (Option Nat)) : Prop where
  lost : ∀ others images image lost, Storable getMaxSize images seg image →
    ∀ r, r = restoredFrom getMaxSize uninits' appSignature deserialize seg others later
        ((storedWith getMaxSize uninits appSignature seg s lost images).2.content seg) →
      (∀ log : EventLog, r.1.FailsQuietly log r.2) ∨
        r.1.copied ≠ none ∧ r.1.copied = (restoredFrom getMaxSize uninits' appSignature deserialize seg
          others later (s.content seg)).1.copied ∨
        r.1.copied = some image
  stored : ∀ others images image, Storable getMaxSize images seg image →
    (storedWith getMaxSize uninits appSignature seg s faults images).1 = .noError →
      (restoredFrom getMaxSize uninits' appSignature deserialize seg others later
        ((storedWith getMaxSize uninits appSignature seg s faults images).2.content seg)).1.copied =
          some image

def Steady (size : Nat) (new : List UInt8) (m : Image) : Prop :=
  ∀ k ≤ 8, (TransactionRecord.ofBytes (new.take k ++ (m.slice 0 8).drop k)).valid = true →
    (segJournal appSignature size).shown m ≠ none

end

def firstBytes (seg : IzotPersistentSegType) (erase : EraseInfo) (s : Storage LinuxHal) : List UInt8 :=
  if s.Own seg then invalidRecord else List.replicate 8 erase.eraseValue

def Ended (erase : EraseInfo) (faults : List (Option Nat)) : Prop :=
  (TransactionRecord.ofBytes (validRecord.take (recordBytes faults) ++
    (List.replicate 8 erase.eraseValue).drop (recordBytes faults))).valid = true

instance (erase : EraseInfo) (faults : List (Option Nat)) : Decidable (Ended erase faults) :=
  inferInstanceAs (Decidable (_ = _))

/-- The network image, whose file can be opened and erased in one go, by a process and for a process in
which no error is remembered, and over a record that is valid only before an image. No call fails before
the header is written, and the last record reaches the file if header and image have. -/
structure SafeToStore (getMaxSize : IzotPersistentSegType → UInt32)
    (uninits : IzotPersistentSegType → EraseInfo) (appSignature : UInt32) (seg : IzotPersistentSegType)
    (s later : Storage LinuxHal) (faults : List (Option Nat)) : Prop where
  segment : seg = .networkImage
  healthy : s.hal.persistentMemError = .noError
  usable : s.hal.Usable seg
  fits : (s.eraseOf seg (uninits seg)).eraseRequired = true →
    24 + (getMaxSize seg).toNat ≤ BLOCK_SIZE.toNat
  healthyLater : later.hal.persistentMemError = .noError
  steady : Steady appSignature (getMaxSize seg).toNat
    (s.firstBytes seg (s.eraseOf seg (uninits seg))) (s.imageOf (24 + (getMaxSize seg).toNat) seg)
  opens : Quiet (s.firstCalls seg) faults
  ends : Quiet (imageCalls (getMaxSize seg).toNat) (faults.drop (s.firstCalls seg)) →
    Ended (s.eraseOf seg (uninits seg))
      (faults.drop (s.firstCalls seg + imageCalls (getMaxSize seg).toNat))

section

variable {m : Image} {n k : Nat} {bytes : List UInt8}

theorem slice_write_front :
    (m.write 0 bytes).slice 0 n = bytes.take n ++ (m.slice 0 n).drop bytes.length := by
  apply List.ext_getElem
  · rw [List.length_append, List.length_take, List.length_drop, Image.length_slice, Image.length_slice]
    omega
  · intro i hi hi'
    rw [Image.length_slice] at hi
    simp only [Image.slice, List.getElem_map, List.getElem_range]
    by_cases hlt : i < bytes.length
    case pos =>
      rw [Image.write_of_mem _ _ hlt, List.getElem_append_left (by rw [List.length_take]; omega),
        List.getElem_take]
    case neg =>
      rw [Image.write_of_le _ _ (by omega), List.getElem_append_right (by rw [List.length_take]; omega),
        List.getElem_drop, List.getElem_map, List.getElem_range, List.length_take]
      congr 1
      omega

theorem not_valid_erasing (value : UInt8) (k : Nat) :
    (TransactionRecord.ofBytes (List.replicate (min k 8) value ++ invalidRecord.drop k)).valid =
      false := by
  by_cases hk : k ≤ 8
  case neg =>
    rw [List.drop_eq_nil_of_le (Nat.le_of_lt (Nat.lt_of_not_le hk)), List.append_nil,
      Nat.min_eq_right (Nat.le_of_not_le hk)]
    exact not_valid_replicate value
  case pos =>
    refine decide_eq_false fun hvalid => ?_
    by_cases hstate : k ≤ 4
    case pos =>
      have hsame : TransactionRecord.word (List.replicate (min k 8) value ++ invalidRecord.drop k) 4 =
          TX_DATA_INVALID := by
        obtain rfl | rfl | rfl | rfl | rfl : k = 0 ∨ k = 1 ∨ k = 2 ∨ k = 3 ∨ k = 4 := by omega
        all_goals rfl
      exact absurd (hsame.symm.trans hvalid.2) (by decide)
    case neg =>
      have hsame : TransactionRecord.word (List.replicate (min k 8) value ++ invalidRecord.drop k) 0 =
          TransactionRecord.word (List.replicate 4 value) 0 := by
        obtain rfl | rfl | rfl | rfl : k = 5 ∨ k = 6 ∨ k = 7 ∨ k = 8 := by omega
        all_goals rfl
      exact word_replicate_ne value (hsame.symm.trans hvalid.1)

theorem slice_write_record (hlen : bytes.length = 8) (k : Nat) :
    (m.write 0 (bytes.take k)).slice 0 8 = bytes.take k ++ (m.slice 0 8).drop k := by
  rw [slice_write_front, List.take_of_length_le (by rw [List.length_take]; omega), List.length_take]
  by_cases hk : k ≤ 8
  case pos => rw [Nat.min_eq_left (by omega)]
  case neg =>
    rw [List.drop_eq_nil_of_le (by rw [Image.length_slice]; omega),
      List.drop_eq_nil_of_le (by rw [Image.length_slice]; omega)]

theorem slice_write_erased {value : UInt8} {l : Nat} (hl : 8 ≤ l) (k : Nat) :
    (m.write 0 ((List.replicate l value).take k)).slice 0 8 =
      List.replicate (min k 8) value ++ (m.slice 0 8).drop k := by
  rw [slice_write_front, List.take_replicate, List.take_replicate, List.length_replicate,
    Nat.min_comm 8, Nat.min_assoc, Nat.min_eq_right hl]
  congr 1
  by_cases hk : k ≤ l
  case pos => rw [Nat.min_eq_left hk]
  case neg =>
    rw [List.drop_eq_nil_of_le (by rw [Image.length_slice]; omega),
      List.drop_eq_nil_of_le (by rw [Image.length_slice]; omega)]

theorem within_eraseBytes (hn : 8 ≤ n) (erase : EraseInfo) :
    ∃ l, 8 ≤ l ∧ within n 0 (eraseBytes erase) = List.replicate l erase.eraseValue := by
  refine ⟨min n (if erase.eraseRequired then BLOCK_SIZE.toNat else 8), ?_, ?_⟩
  · split
    next => exact Nat.le_min.mpr ⟨hn, by decide⟩
    next => exact Nat.le_min.mpr ⟨hn, Nat.le_refl 8⟩
  · exact List.take_replicate

theorem shown_of_segValid {appSignature : UInt32} {size : Nat} (h : segValid m = true) :
    (segJournal appSignature size).shown m = segPayload appSignature size m := if_pos h

theorem shown_of_not_segValid {appSignature : UInt32} {size : Nat} (h : ¬segValid m = true) :
    (segJournal appSignature size).shown m = none :=
  Journal.shown_of_not_valid (Bool.eq_false_iff.mpr h)

theorem shown_of_steady {appSignature : UInt32} {size : Nat} (hlen : bytes.length = 8)
    (hsteady : Steady appSignature size bytes m) (hk : k ≤ 8)
    (hvalid : segValid (m.write 0 (bytes.take k)) = true) :
    (segJournal appSignature size).shown m ≠ none ∧
      (segJournal appSignature size).shown (m.write 0 (bytes.take k)) =
        (segJournal appSignature size).shown m := by
  have hshown : (segJournal appSignature size).shown m ≠ none := by
    refine hsteady k hk ?_
    rw [segValid, slice_write_record hlen] at hvalid
    exact hvalid
  have hold : segValid m = true := by
    by_contra hnot
    exact hshown (shown_of_not_segValid hnot)
  refine ⟨hshown, ?_⟩
  rw [shown_of_segValid hvalid, shown_of_segValid hold]
  exact segPayload_congr appSignature size m _ fun i hi =>
    Image.write_of_le _ _ (by rw [List.length_take]; omega)

end

section

variable {appSignature : UInt32} {size n : Nat} {seg : IzotPersistentSegType} {erase : EraseInfo}
  {s : Storage LinuxHal} {m : Image} {image : List UInt8} {faults : List (Option Nat)}

theorem hides_invalidation (hn : 8 ≤ n)
    (hsteady : Steady appSignature size (s.firstBytes seg erase) m) :
    (segJournal appSignature size).Hides (s.invalidation n seg erase) m := by
  obtain ⟨l, hl, herased⟩ := within_eraseBytes hn erase
  intro m' hcut hvalid
  change segValid m' = true at hvalid
  unfold invalidation at hcut
  unfold firstBytes at hsteady
  rw [herased] at hcut
  have hnot (m : Image) (hrecord : m.slice 0 8 = invalidRecord) (k : Nat) :
      segValid (m.write 0 ((List.replicate l erase.eraseValue).take k)) = false := by
    rw [segValid, slice_write_erased hl, hrecord]
    exact not_valid_erasing erase.eraseValue k
  have hall (m : Image) : m.write 0 (List.replicate l erase.eraseValue) =
      m.write 0 ((List.replicate l erase.eraseValue).take l) := by
    rw [List.take_of_length_le (Nat.le_of_eq List.length_replicate)]
  have hsame (hvalid : segValid m = true) : (segJournal appSignature size).shown m ≠ none :=
    hsteady 0 (Nat.zero_le 8) hvalid
  by_cases hown : s.Own seg
  case pos =>
    rw [if_pos hown] at hcut hsteady
    have hlen : invalidRecord.length = 8 := rfl
    have hrecord : (m.write 0 invalidRecord).slice 0 8 = invalidRecord := Image.slice_write m 0 _
    cases hcut with
    | off => exact ⟨hsame hvalid, rfl⟩
    | during k =>
      have htake : invalidRecord.take k = invalidRecord.take (min k 8) := by
        rw [← hlen, ← List.take_eq_take_min]
      rw [htake] at hvalid ⊢
      exact shown_of_steady hlen hsteady (Nat.min_le_right k 8) hvalid
    | after hcut =>
      have hinvalid : segValid m' = false := by
        cases hcut with
        | off => exact hnot _ hrecord 0
        | during k => exact hnot _ hrecord k
        | after hcut =>
          rw [hcut.of_nil, hall]
          exact hnot _ hrecord l
      exact Bool.noConfusion (hvalid.symm.trans hinvalid)
  case neg =>
    rw [if_neg hown] at hcut hsteady
    -- beyond the record it makes no difference what is erased
    have herasing (k : Nat)
        (hvalid : segValid (m.write 0 ((List.replicate l erase.eraseValue).take k)) = true) :
        (segJournal appSignature size).shown m ≠ none ∧ (segJournal appSignature size).shown
          (m.write 0 ((List.replicate l erase.eraseValue).take k)) =
            (segJournal appSignature size).shown m := by
      by_cases hk : k ≤ 8
      case pos =>
        have htake : (List.replicate l erase.eraseValue).take k =
            (List.replicate 8 erase.eraseValue).take k := by
          rw [List.take_replicate, List.take_replicate, Nat.min_eq_left hk,
            Nat.min_eq_left (Nat.le_trans hk hl)]
        rw [htake] at hvalid ⊢
        exact shown_of_steady List.length_replicate hsteady hk hvalid
      case neg =>
        have hinvalid : segValid (m.write 0 ((List.replicate l erase.eraseValue).take k)) = false := by
          rw [segValid, slice_write_erased hl, Nat.min_eq_right (by omega),
            List.drop_eq_nil_of_le (by rw [Image.length_slice]; omega), List.append_nil]
          exact not_valid_replicate _
        exact Bool.noConfusion (hvalid.symm.trans hinvalid)
    cases hcut with
    | off => exact ⟨hsame hvalid, rfl⟩
    | during k => exact herasing k hvalid
    | after hcut =>
      rw [hcut.of_nil, hall] at hvalid ⊢
      exact herasing l hvalid

theorem record_invalidation (hn : 8 ≤ n) :
    (m.writeAll (s.invalidation n seg erase)).slice 0 8 = List.replicate 8 erase.eraseValue := by
  obtain ⟨l, hl, herased⟩ := within_eraseBytes hn erase
  unfold invalidation
  rw [herased, Image.writeAll_append]
  generalize m.writeAll (if s.Own seg then [(0, invalidRecord)] else []) = m'
  have hlast : m'.writeAll [(0, List.replicate l erase.eraseValue)] =
      m'.write 0 ((List.replicate l erase.eraseValue).take l) := by
    rw [List.take_of_length_le (Nat.le_of_eq List.length_replicate)]
    rfl
  rw [hlast, slice_write_erased hl, Nat.min_eq_right hl,
    List.drop_eq_nil_of_le (by rw [Image.length_slice]; exact hl), List.append_nil]

theorem not_valid_invalidation (hn : 8 ≤ n) :
    segValid (m.writeAll (s.invalidation n seg erase)) = false := by
  rw [segValid, record_invalidation hn]
  exact not_valid_replicate _

theorem imageWrites_behind : ∀ w ∈ imageWrites appSignature image, 8 ≤ w.1 := by
  intro w hw
  unfold imageWrites at hw
  rcases List.mem_cons.mp hw with rfl | hw
  · exact Nat.le_refl 8
  · rw [List.mem_singleton.mp hw]
    exact (by decide : 8 ≤ 24)

theorem valid_of_ended (hn : 8 ≤ n) :
    segValid (((m.writeAll (s.invalidation n seg erase)).writeAll (imageWrites appSignature
      image)).write 0 (validRecord.take (recordBytes faults))) = true ↔ Ended erase faults := by
  have hrecord : ((m.writeAll (s.invalidation n seg erase)).writeAll (imageWrites appSignature
      image)).slice 0 8 = List.replicate 8 erase.eraseValue := by
    rw [← @record_invalidation n seg erase s m hn]
    exact Image.slice_congr fun k hk => by
      rw [Nat.zero_add]
      exact (Image.Cut.complete _ _).front imageWrites_behind hk
  rw [segValid, slice_write_record rfl, hrecord, Ended]

theorem payload_of_ended {k : Nat} (hlt : image.length < 2 ^ 32) :
    segPayload appSignature image.length ((m.writeAll (imageWrites appSignature image)).write 0
      (validRecord.take k)) = some image := by
  have hlen : validRecord.length = 8 := rfl
  rw [← @segPayload_imageWrites appSignature image m hlt]
  exact segPayload_congr _ _ _ _ fun i hi =>
    Image.write_of_le _ _ (by rw [List.length_take]; omega)

end

section

variable {getMaxSize : IzotPersistentSegType → UInt32}
  {uninits uninits' : IzotPersistentSegType → EraseInfo} {appSignature : UInt32}
  {deserialize : Option (List UInt8 → LonStatusCode)} {seg : IzotPersistentSegType}
  {s later found : Storage LinuxHal} {images : SegImages} {image : List UInt8}
  {others : OsFile → OsFileContent} {c : OsFileContent} {faults : List (Option Nat)}

theorem Restarted.mapSound (hmax : ∀ seg, (getMaxSize seg).toNat + 24 < 2 ^ 31)
    (h : later.Restarted getMaxSize seg) : later.MapSound getMaxSize := by
  obtain ⟨inherited, content, otherKind, faults, history, hrun, hother⟩ := h.run
  have hstep (e : StorageEvent) (t : Storage LinuxHal) (_ : (t, e).2.seg ≠ seg)
      (hmap : t.MapSound getMaxSize) : (t.access linuxHal getMaxSize e).MapSound getMaxSize :=
    mapSound_access hmax e hmap
  exact hrun.invariant (I := MapSound getMaxSize) hstep hother (mapSound_init _ _)

section

variable (hmax : ∀ seg, (getMaxSize seg).toNat + 24 < 2 ^ 31)
  (h : later.Restarted getMaxSize .networkImage) (hhealthy : later.hal.persistentMemError = .noError)

include hmax h hhealthy

theorem readable_restored (uninit : EraseInfo) :
    Readable getMaxSize .networkImage uninit (24 + (getMaxSize .networkImage).toNat)
      (c.image (24 + (getMaxSize .networkImage).toNat))
      (later.holding (Function.update others (.segment .networkImage) c)) := by
  have hmap : (later.holding (Function.update others (.segment .networkImage) c)).MapSound
      getMaxSize := (h.mapSound hmax).same ⟨rfl, rfl, rfl, rfl⟩
  have himage : (later.holding (Function.update others (.segment .networkImage) c)).imageOf
      (24 + (getMaxSize .networkImage).toNat) .networkImage =
      c.image (24 + (getMaxSize .networkImage).toNat) := by
    rw [imageOf, content, holding]
    dsimp only
    rw [Function.update_self]
  rw [← himage]
  exact readable_of_closed hmap ⟨hhealthy, h.works⟩ h.untouched.table
    (fileSize_mapped hmap (hmax _) rfl)

theorem restoredFrom_networkImage :
    (restoredFrom getMaxSize uninits' appSignature deserialize .networkImage others later c).1 =
      if segValid (c.image (24 + (getMaxSize .networkImage).toNat)) then
        (segPayload appSignature (getMaxSize .networkImage).toNat
          (c.image (24 + (getMaxSize .networkImage).toNat))).elim .refused
            fun image => ⟨.noError, some image, []⟩
      else .invalid :=
  fst_restore_reporting.trans
    (restore_networkImage (readable_restored hmax h hhealthy _) (hmax _) rfl deserialize)

theorem copied_restoredFrom :
    (restoredFrom getMaxSize uninits' appSignature deserialize .networkImage others later c).1.copied =
      (segJournal appSignature (getMaxSize .networkImage).toNat).shown
        (c.image (24 + (getMaxSize .networkImage).toNat)) := by
  rw [restoredFrom_networkImage hmax h hhealthy]
  change _ = if segValid _ then segPayload _ _ _ else none
  split
  next => cases segPayload _ _ _ <;> rfl
  next => rfl

theorem quiet_restoredFrom
    (hinvalid : segValid (c.image (24 + (getMaxSize .networkImage).toNat)) = false) (log : EventLog) :
    (restoredFrom getMaxSize uninits' appSignature deserialize .networkImage others later
      c).1.FailsQuietly log (restoredFrom getMaxSize uninits' appSignature deserialize .networkImage
        others later c).2 := by
  have hreadable := @readable_restored getMaxSize later others c hmax h hhealthy
    (uninits' .networkImage)
  have hread : ((handlers linuxHal getMaxSize uninits').isInvalid .networkImage
      (later.holding (Function.update others (.segment .networkImage) c))).1 = true := by
    refine (congrArg Prod.fst (hreadable.isInvalid (hmax _) (by omega))).trans ?_
    rw [hinvalid]
    rfl
  have herrors := errors_isInvalid hreadable (hmax _) (by omega)
  unfold restoredFrom
  rw [restore_of_invalid hread, herrors]
  exact ⟨rfl, rfl, fun _ _ => rfl⟩

end

theorem powerSafe_of_safeToStore (hmax : ∀ seg, (getMaxSize seg).toNat + 24 < 2 ^ 31)
    (hmap : s.MapSound getMaxSize) (hlater : later.Restarted getMaxSize seg)
    (h : SafeToStore getMaxSize uninits appSignature seg s later faults) :
    PowerSafe getMaxSize uninits uninits' appSignature deserialize seg s later faults := by
  obtain ⟨rfl, hhealthy, husable, hfits, hhealthyLater, hsteady, hopens, hends⟩ := h
  have hmap' : (s.withFaults []).MapSound getMaxSize := hmap.same ⟨rfl, rfl, rfl, rfl⟩
  have hw : (s.withFaults []).hal.Working := ⟨hhealthy, rfl⟩
  have hlt := hmax .networkImage
  have hcopied (others : OsFile → OsFileContent) (c : OsFileContent) :=
    @copied_restoredFrom getMaxSize uninits' appSignature deserialize later others c hmax hlater
      hhealthyLater
  constructor
  case lost =>
    intro others images image lost himage r hr
    have hlen := himage.length
    have hcut := @store_cut getMaxSize uninits appSignature images .networkImage (s.withFaults []) _
      image hmap' hlt hw husable himage (by rw [hlen]; exact hfits) rfl lost
    have hrecord : validRecord.length ≤ 8 := Nat.le_refl 8
    have hshown := Journal.shown_of_cut (j := segJournal appSignature
        (getMaxSize .networkImage).toNat)
      (hides_invalidation (by omega) hsteady) (not_valid_invalidation (by omega)) imageWrites_behind
      hrecord hcut
    have hpayload (m : Image) : (segJournal appSignature (getMaxSize .networkImage).toNat).payload
        (m.writeAll (imageWrites appSignature image)) = some image := by
      rw [← hlen]
      exact segPayload_imageWrites (by omega)
    rw [hpayload] at hshown
    rw [hcopied]
    have hcopied' := hcopied others ((storedWith getMaxSize uninits appSignature .networkImage s lost
      images).2.content .networkImage)
    rw [← hr] at hcopied'
    rw [hcopied']
    cases hvalid : segValid (OsFileContent.image ((storedWith getMaxSize uninits appSignature
      .networkImage s lost images).2.content .networkImage)
        (24 + (getMaxSize .networkImage).toNat)) with
    | false =>
      rw [hr]
      exact .inl (quiet_restoredFrom hmax hlater hhealthyLater hvalid)
    | true =>
      refine .inr ((hshown hvalid).imp_left fun hold => ⟨?_, hold.2⟩)
      exact fun hnone => hold.1 (hold.2.symm.trans hnone)
  case stored =>
    intro others images image himage hstatus
    have hlen := himage.length
    have hattempt := @store_attempt getMaxSize uninits appSignature images .networkImage
      (s.withFaults []) _ image hmap' hlt hw husable himage (by rw [hlen]; exact hfits) rfl faults
      (storedWith getMaxSize uninits appSignature .networkImage s faults images) rfl
    have hcalls : (s.withFaults []).firstCalls .networkImage = s.firstCalls .networkImage := rfl
    have herase : (s.withFaults []).eraseOf .networkImage (uninits .networkImage) =
      s.eraseOf .networkImage (uninits .networkImage) := rfl
    rw [hlen, hcalls, herase] at hattempt
    rw [hcopied]
    rcases hattempt with ⟨hnot, -⟩ | ⟨-, -, hfailed, -⟩ | ⟨-, hquiet, -, heq⟩
    · exact absurd hopens hnot
    · exact absurd hstatus hfailed
    · have hvalid := (@valid_of_ended appSignature _ .networkImage _ (s.withFaults [])
        ((s.withFaults []).imageOf (24 + (getMaxSize .networkImage).toNat) .networkImage) image _
        (Nat.le_trans (by decide) (Nat.le_add_right 24 (getMaxSize .networkImage).toNat))).mpr
        (hends hquiet)
      have hpayload (m : Image) := @payload_of_ended appSignature m image (recordBytes (faults.drop
        (s.firstCalls .networkImage + imageCalls (getMaxSize .networkImage).toNat))) (by omega)
      rw [hlen] at hpayload
      have hfinal : OsFileContent.image ((storedWith getMaxSize uninits appSignature .networkImage s
          faults images).2.content .networkImage) (24 + (getMaxSize .networkImage).toNat) = _ := heq
      rw [hfinal]
      rw [shown_of_segValid hvalid, hpayload]

theorem exists_cut {n k : Nat} (hmap : s.MapSound getMaxSize)
    (hmax : (getMaxSize seg).toNat + 24 < 2 ^ 31) (hw : s.hal.Working) (husable : s.hal.Usable seg)
    (himage : Storable getMaxSize images seg image)
    (hfits : (s.eraseOf seg (uninits seg)).eraseRequired = true →
      24 + (getMaxSize seg).toNat ≤ BLOCK_SIZE.toNat)
    (hn : 24 + (getMaxSize seg).toNat = n) (hk : k ≤ 8) :
    ∃ faults, (storedWith getMaxSize uninits appSignature seg s faults images).2.imageOf n seg =
      (s.imageOf n seg).write 0 ((s.firstBytes seg (s.eraseOf seg (uninits seg))).take k) := by
  have hsize : ((s.mapped getMaxSize seg (uninits seg)).fileSize seg).toNat = n :=
    (fileSize_mapped hmap hmax himage.allocated).trans hn
  have hlength (bytes : List UInt8) : (bytes.take k).length ≤ n :=
    Nat.le_trans (List.length_take_le _ _) (by omega)
  by_cases hown : s.Own seg
  case pos =>
    obtain ⟨f, hfile, -⟩ := @exists_file_opened getMaxSize seg (uninits seg) s husable
    obtain ⟨faults, hlost⟩ := exists_writeRecord_lost hmap hmax hw husable
      ⟨TX_SIGNATURE, TX_DATA_INVALID⟩ k hfile
    refine ⟨faults, ?_⟩
    have hwritten := image_written hsize hfile (hlength invalidRecord)
    rw [if_pos hown] at hwritten
    unfold storedWith firstBytes
    rw [store_of_entered rfl himage.serialized hlost.error, if_pos hown, ← hwritten]
    exact congrArg (OsFileContent.image · n) (congrFun hlost.content (.segment seg))
  case neg =>
    obtain ⟨s₁, henter, hclosed, hmap₁⟩ := @writeRecord_usable getMaxSize seg (uninits seg) s hmap hmax
      hw husable ⟨TX_SIGNATURE, TX_DATA_INVALID⟩
    have hlen := himage.length
    have hdata := @toNat_dataSize appSignature image (by omega)
    have hplaced : s₁.Placed seg :=
      hclosed.settled.2.resolve_right fun h => Bool.noConfusion (himage.allocated.symm.trans h)
    have hmaxData := hclosed.map.size seg hplaced
    have herase : (s₁.segmentMap seg).erase = s.eraseOf seg (uninits seg) := by
      rw [hmap₁, erase_mapped]
    obtain ⟨faults, s₂, hopen, hlost⟩ := @exists_openForWrite_lost getMaxSize seg (uninits seg) s₁
      hclosed (sizeofPersistenceHeader.toUInt64 + (imageHeader appSignature image).length.toUInt64)
      (UInt64.le_iff_toNat_le.mpr (by omega))
      (by rw [herase, hdata]; intro hreq; have := hfits hreq; omega) (by omega) k
    obtain ⟨faults', henter'⟩ := @exists_writeRecord getMaxSize seg (uninits seg) s hmap hmax hw husable
      ⟨TX_SIGNATURE, TX_DATA_INVALID⟩ faults
    rw [henter] at henter'
    have himage₁ : s₁.imageOf n seg = s.imageOf n seg := by
      obtain ⟨f, hfile, heq⟩ := @writeRecord_eq getMaxSize seg (uninits seg) s hmap hmax hw husable
        ⟨TX_SIGNATURE, TX_DATA_INVALID⟩
      have hwritten := image_written hsize hfile (by change 8 ≤ n; omega : invalidRecord.length ≤ n)
      rw [if_neg hown] at hwritten
      rw [(Prod.mk.inj (henter.symm.trans heq)).2, imageOf, content, LinuxHal.content_closed]
      exact hwritten
    have hsize₁ : ((s₁.mapped getMaxSize seg (uninits seg)).fileSize seg).toNat = n :=
      (fileSize_mapped hclosed.map hmax himage.allocated).trans hn
    have hwritten := image_written hsize₁ (@file_opened getMaxSize seg (uninits seg) s₁ hclosed.closed)
      (hlength (s₁.erasedBytes seg))
    rw [if_pos (show s₁.Own seg from .inl hclosed.closed), himage₁, erasedBytes_eq hclosed,
      herase] at hwritten
    have htake : (List.replicate 8 (s.eraseOf seg (uninits seg)).eraseValue).take k =
        (eraseBytes (s.eraseOf seg (uninits seg))).take k := by
      rw [eraseBytes, List.take_replicate, List.take_replicate, Nat.min_eq_left hk]
      split
      next => rw [Nat.min_eq_left (Nat.le_trans hk (by decide))]
      next => rw [Nat.min_eq_left hk]
    refine ⟨faults', ?_⟩
    unfold storedWith firstBytes
    rw [store_of_not_opened henter' himage.serialized hopen hlost.error, if_neg hown, htake, ← hwritten,
      ← herase, ← erasedBytes_eq hclosed]
    exact congrArg (OsFileContent.image · n) (congrFun hlost.content (.segment seg))

theorem exists_other (hseg : seg = .networkImage ∨ seg = .applicationData)
    (hpos : 0 < (getMaxSize seg).toNat) (old : Option (List UInt8)) :
    ∃ images image, Storable getMaxSize images seg image ∧ old ≠ some image := by
  have hstorable (b : UInt8) : Storable getMaxSize
      ⟨List.replicate (getMaxSize seg).toNat b,
        some (.noError, List.replicate (getMaxSize seg).toNat b)⟩ seg
      (List.replicate (getMaxSize seg).toNat b) := by
    rcases hseg with rfl | rfl
    · exact ⟨rfl, rfl, List.length_replicate⟩
    · exact ⟨rfl, rfl, List.length_replicate⟩
  by_cases hold : old = some (List.replicate (getMaxSize seg).toNat 0)
  case neg => exact ⟨_, _, hstorable 0, hold⟩
  case pos =>
    refine ⟨_, _, hstorable 1, fun h => ?_⟩
    have heq := (List.replicate_inj.mp (Option.some.inj (hold.symm.trans h))).2
    cases heq with
    | inl hzero => omega
    | inr hbyte => exact absurd hbyte (by decide)

theorem not_quiet (before : List LonStatusCode) {r : SegRestored} {errors : List LonStatusCode}
    {error : LonStatusCode}
    (hlast : errors ++ r.errors = before ++ [error]) (hne : error ≠ .noError) :
    ¬∀ log : EventLog, r.FailsQuietly log errors := by
  intro hquiet
  have hlog := (hquiet { (default : EventLog) with errorLog := error.code + 1 }).log 0 0
  rw [hlast, EventLog.osalPrintLogs, List.foldl_append] at hlog
  have hcode := congrArg EventLog.errorLog hlog
  rw [List.foldl_cons, List.foldl_nil, EventLog.errorLog_osalPrintLog hne] at hcode
  dsimp only at hcode
  have hnat := congrArg UInt32.toNat hcode
  have hlt := error.code.toNat_lt
  rw [UInt32.toNat_add] at hnat
  change _ = (_ + 1) % 2 ^ 32 at hnat
  omega

theorem restoredFrom_of_not_read
    (hfound : later.holding (Function.update others (.segment seg) c) = found)
    (hinvalid : (found.izotStorageSegIsInvalid linuxHal getMaxSize seg (uninits' seg)).1 = true)
    (herror : (found.izotStorageSegIsInvalid linuxHal getMaxSize seg
      (uninits' seg)).2.hal.persistentMemError ≠ .noError) :
    (restoredFrom getMaxSize uninits' appSignature deserialize seg others later c).1.copied = none ∧
      ¬∀ log : EventLog, (restoredFrom getMaxSize uninits' appSignature deserialize seg others later
        c).1.FailsQuietly log (restoredFrom getMaxSize uninits' appSignature deserialize seg others
          later c).2 := by
  have herrors : (handlers linuxHal getMaxSize uninits').errors seg .isInvalid found = [_] :=
    if_neg herror
  unfold restoredFrom
  rw [hfound, restore_of_invalid hinvalid, herrors]
  exact ⟨rfl, not_quiet [] rfl herror⟩

theorem isInvalid_of_error (herror : found.hal.persistentMemError ≠ .noError) :
    found.izotStorageSegIsInvalid linuxHal getMaxSize seg (uninits' seg) = (true, found) := by
  unfold izotStorageSegIsInvalid
  rw [openStorageSegment_of_error herror]
  exact if_pos herror

def emptyFiles : OsFile → OsFileContent := fun _ => ⟨0, fun _ => 0⟩

theorem isInvalid_applicationData (h : later.Restarted getMaxSize .applicationData)
    (hfound : later.holding (Function.update emptyFiles (.segment .applicationData) c) = found) :
    (found.izotStorageSegIsInvalid linuxHal getMaxSize .applicationData
        (uninits' .applicationData)).1 = true ∧
      (found.izotStorageSegIsInvalid linuxHal getMaxSize .applicationData
        (uninits' .applicationData)).2.hal.persistentMemError ≠ .noError := by
  by_cases hhealthy : later.hal.persistentMemError = .noError
  case neg =>
    have herror : found.hal.persistentMemError ≠ .noError := by
      rw [← hfound]
      exact hhealthy
    rw [isInvalid_of_error herror]
    exact ⟨rfl, herror⟩
  case pos =>
    have hfd : later.hal.storageFd .applicationData = some 0 := h.untouched.table
    have hw : found.hal.Working := by
      rw [← hfound]
      exact ⟨hhealthy, h.works⟩
    have hhal : (found.opened getMaxSize .applicationData (uninits' .applicationData)).hal =
        found.hal.initialized :=
      hal_opened_of_some (by rw [← hfound]; exact hfd)
    have hbad (f : OsFile)
        (hfile : (found.opened getMaxSize .applicationData (uninits' .applicationData)).hal.file
          .applicationData = some f) :
        (found.opened getMaxSize .applicationData (uninits' .applicationData)).hal.os.kind f =
            .stream ∨
          (found.opened getMaxSize .applicationData (uninits' .applicationData)).hal.os.size f < 8 := by
      rw [hhal, ← hfound] at hfile
      have hrefers : later.hal.os.refersTo 0 = some f := by
        have hbind : (later.hal.storageFd .applicationData).bind later.hal.os.refersTo = some f := hfile
        rw [hfd] at hbind
        exact hbind
      have hne : f ≠ .segment .applicationData := by
        rintro rfl
        exact h.untouched.closed 0 hrefers
      rw [hhal, ← hfound]
      refine .inr ?_
      change (if _ then (Function.update emptyFiles (.segment .applicationData) c f).size else 0) < 8
      rw [Function.update_of_ne hne]
      split
      next => exact Nat.zero_lt_succ 7
      next => exact Nat.zero_lt_succ 7
    obtain ⟨s', hinvalid, herror, -⟩ := isInvalid_of_not_read hw hbad
    rw [hinvalid]
    exact ⟨rfl, herror⟩

theorem not_lost_of_not_read (hpower : PowerSafe getMaxSize uninits uninits' appSignature deserialize
      seg s later faults) (himage : Storable getMaxSize images seg image)
    (hread : ∀ c found, later.holding (Function.update emptyFiles (.segment seg) c) = found →
      (found.izotStorageSegIsInvalid linuxHal getMaxSize seg (uninits' seg)).1 = true ∧
        (found.izotStorageSegIsInvalid linuxHal getMaxSize seg
          (uninits' seg)).2.hal.persistentMemError ≠ .noError) : False := by
  have hlost := hpower.lost emptyFiles images image [] himage _ rfl
  generalize (storedWith getMaxSize uninits appSignature seg s [] images).2.content seg = c at hlost
  obtain ⟨hinvalid, herror⟩ := hread c _ rfl
  obtain ⟨hnone, hnot⟩ := @restoredFrom_of_not_read getMaxSize uninits' appSignature deserialize seg
    later _ emptyFiles c rfl hinvalid herror
  rcases hlost with hquiet | ⟨hsome, -⟩ | hsome
  · exact hnot hquiet
  · exact hsome hnone
  · cases hnone.symm.trans hsome

theorem healthyLater_of_powerSafe (himage : Storable getMaxSize images seg image)
    (h : PowerSafe getMaxSize uninits uninits' appSignature deserialize seg s later faults) :
    later.hal.persistentMemError = .noError := by
  by_contra herror
  refine not_lost_of_not_read h himage fun c found hfound => ?_
  have herror' : found.hal.persistentMemError ≠ .noError := by
    rw [← hfound]
    exact herror
  rw [isInvalid_of_error herror']
  exact ⟨rfl, herror'⟩

theorem opened_of_powerSafe (hmax : ∀ seg, (getMaxSize seg).toNat + 24 < 2 ^ 31)
    (hpos : 0 < (getMaxSize .networkImage).toNat) (hmap : s.MapSound getMaxSize)
    (h : PowerSafe getMaxSize uninits uninits' appSignature deserialize .networkImage s later faults) :
    s.hal.persistentMemError = .noError ∧ s.hal.Usable .networkImage ∧
      ((s.eraseOf .networkImage (uninits .networkImage)).eraseRequired = true →
        24 + (getMaxSize .networkImage).toNat ≤ BLOCK_SIZE.toNat) ∧
      Quiet (s.firstCalls .networkImage) faults := by
  cases @stored_cases getMaxSize uninits appSignature .networkImage s faults hmap (hmax _)
    (exists_storable getMaxSize (.inl rfl)) with
  | inl hgood => exact hgood
  | inr hsame =>
    obtain ⟨s', hsame⟩ := hsame
    obtain ⟨images, image, himage, hne⟩ := exists_other (.inl rfl) hpos
      (restoredFrom getMaxSize uninits' appSignature deserialize .networkImage
        emptyFiles later (s'.content .networkImage)).1.copied
    have hstored := h.stored emptyFiles images image himage
    unfold storedWith at hstored
    rw [hsame images image himage] at hstored
    exact absurd (hstored rfl) hne

/-- Of the first bytes as many are written as complete a valid record, before the power is lost. -/
theorem steady_of_powerSafe (hmax : ∀ seg, (getMaxSize seg).toNat + 24 < 2 ^ 31)
    (hpos : 0 < (getMaxSize .networkImage).toNat) (hmap : s.MapSound getMaxSize)
    (hlater : later.Restarted getMaxSize .networkImage)
    (hhealthy : s.hal.persistentMemError = .noError) (husable : s.hal.Usable .networkImage)
    (hfits : (s.eraseOf .networkImage (uninits .networkImage)).eraseRequired = true →
      24 + (getMaxSize .networkImage).toNat ≤ BLOCK_SIZE.toNat)
    (hhealthyLater : later.hal.persistentMemError = .noError)
    (h : PowerSafe getMaxSize uninits uninits' appSignature deserialize .networkImage s later faults) :
    Steady appSignature (getMaxSize .networkImage).toNat
      (s.firstBytes .networkImage (s.eraseOf .networkImage (uninits .networkImage)))
        (s.imageOf (24 + (getMaxSize .networkImage).toNat) .networkImage) := by
  intro k hk hvalid hnone
  have hlength : (s.firstBytes .networkImage
      (s.eraseOf .networkImage (uninits .networkImage))).length = 8 := by
    unfold firstBytes
    split
    next => rfl
    next => exact List.length_replicate
  obtain ⟨images, image, himage, hne⟩ := @exists_other getMaxSize _ (.inl rfl) hpos
    (segPayload appSignature (getMaxSize .networkImage).toNat
      (s.imageOf (24 + (getMaxSize .networkImage).toNat) .networkImage))
  obtain ⟨lost, hcut⟩ := @exists_cut getMaxSize uninits appSignature .networkImage
    (s.withFaults []) images image _ k (hmap.same ⟨rfl, rfl, rfl, rfl⟩) (hmax _) ⟨hhealthy, rfl⟩
    husable himage hfits rfl hk
  have hcut' : (OsFileContent.image ((storedWith getMaxSize uninits appSignature .networkImage s
      lost images).2.content .networkImage) (24 + (getMaxSize .networkImage).toNat)) =
      (s.imageOf (24 + (getMaxSize .networkImage).toNat) .networkImage).write 0
        ((s.firstBytes .networkImage
          (s.eraseOf .networkImage (uninits .networkImage))).take k) := hcut
  have hlost := h.lost emptyFiles images image lost himage _ rfl
  have hcopied (c : OsFileContent) :=
    @copied_restoredFrom getMaxSize uninits' appSignature deserialize later emptyFiles c hmax hlater
      hhealthyLater
  have hbefore := hcopied (s.content .networkImage)
  have hnone' : (segJournal appSignature (getMaxSize .networkImage).toNat).shown
    (OsFileContent.image (s.content .networkImage) (24 + (getMaxSize .networkImage).toNat)) =
      none := hnone
  rw [hnone'] at hbefore
  generalize (storedWith getMaxSize uninits appSignature .networkImage s lost images).2.content
    .networkImage = c at hcut' hlost
  have hvalid' : segValid (c.image (24 + (getMaxSize .networkImage).toNat)) = true := by
    rw [hcut', segValid, slice_write_record hlength]
    exact hvalid
  have hpayload : segPayload appSignature (getMaxSize .networkImage).toNat
      (c.image (24 + (getMaxSize .networkImage).toNat)) =
      segPayload appSignature (getMaxSize .networkImage).toNat
        (s.imageOf (24 + (getMaxSize .networkImage).toNat) .networkImage) := by
    rw [hcut']
    exact segPayload_congr _ _ _ _ fun i hi =>
      Image.write_of_le _ _ (by rw [List.length_take]; omega)
  rcases hlost with hquiet | ⟨hsome, hsame⟩ | hnew
  · have hrestored := @restoredFrom_networkImage getMaxSize uninits' appSignature deserialize later
      emptyFiles c hmax hlater hhealthyLater
    have hfailed := (hquiet default).copied
    rw [hrestored, if_pos hvalid'] at hfailed
    rw [hrestored, if_pos hvalid'] at hquiet
    cases hpayload' : segPayload appSignature (getMaxSize .networkImage).toNat
      (c.image (24 + (getMaxSize .networkImage).toNat)) with
    | none =>
      rw [hpayload'] at hquiet
      exact not_quiet _ rfl LonStatusCode.noConfusion hquiet
    | some old =>
      rw [hpayload'] at hfailed
      cases hfailed
  · exact hsome (hsame.trans hbefore)
  · rw [hcopied, shown_of_segValid hvalid'] at hnew
    exact hne (hpayload.symm.trans hnew)

theorem ended_of_powerSafe (hmax : ∀ seg, (getMaxSize seg).toNat + 24 < 2 ^ 31)
    (hmap : s.MapSound getMaxSize) (hlater : later.Restarted getMaxSize .networkImage)
    (hhealthy : s.hal.persistentMemError = .noError) (husable : s.hal.Usable .networkImage)
    (hfits : (s.eraseOf .networkImage (uninits .networkImage)).eraseRequired = true →
      24 + (getMaxSize .networkImage).toNat ≤ BLOCK_SIZE.toNat)
    (hopens : Quiet (s.firstCalls .networkImage) faults)
    (hhealthyLater : later.hal.persistentMemError = .noError)
    (h : PowerSafe getMaxSize uninits uninits' appSignature deserialize .networkImage s later faults)
    (hquiet : Quiet (imageCalls (getMaxSize .networkImage).toNat)
      (faults.drop (s.firstCalls .networkImage))) :
    Ended (s.eraseOf .networkImage (uninits .networkImage))
      (faults.drop (s.firstCalls .networkImage + imageCalls (getMaxSize .networkImage).toNat)) := by
  obtain ⟨images₀, image₀, himage₀⟩ := exists_storable getMaxSize (.inl rfl)
  have hmap' : (s.withFaults []).MapSound getMaxSize := hmap.same ⟨rfl, rfl, rfl, rfl⟩
  have hlen := himage₀.length
  have hattempt := @store_attempt getMaxSize uninits appSignature images₀ .networkImage
    (s.withFaults []) _ image₀ hmap' (hmax _) ⟨hhealthy, rfl⟩ husable himage₀
    (by rw [hlen]; exact hfits) rfl faults
    (storedWith getMaxSize uninits appSignature .networkImage s faults images₀) rfl
  rw [hlen] at hattempt
  have hstored := h.stored emptyFiles images₀ image₀ himage₀
  rcases hattempt with ⟨hnot, -⟩ | ⟨-, hnot, -⟩ | ⟨-, -, hstatus, heq⟩
  · exact absurd hopens hnot
  · exact absurd hquiet hnot
  · have hshown := hstored hstatus
    have hfinal : OsFileContent.image ((storedWith getMaxSize uninits appSignature .networkImage s
        faults images₀).2.content .networkImage) (24 + (getMaxSize .networkImage).toNat) = _ := heq
    rw [copied_restoredFrom hmax hlater hhealthyLater, hfinal] at hshown
    change Ended ((s.withFaults []).eraseOf .networkImage (uninits .networkImage))
      (faults.drop ((s.withFaults []).firstCalls .networkImage +
        imageCalls (getMaxSize .networkImage).toNat))
    refine (@valid_of_ended appSignature _ .networkImage _ (s.withFaults [])
      ((s.withFaults []).imageOf (24 + (getMaxSize .networkImage).toNat) .networkImage) image₀ _
      (Nat.le_trans (by decide) (Nat.le_add_right 24 (getMaxSize .networkImage).toNat))).mp ?_
    by_contra hinvalid
    rw [shown_of_not_segValid hinvalid] at hshown
    cases hshown

theorem safeToStore_of_powerSafe (hmax : ∀ seg, (getMaxSize seg).toNat + 24 < 2 ^ 31)
    (hpos : 0 < (getMaxSize .networkImage).toNat) (hmap : s.MapSound getMaxSize)
    (hlater : later.Restarted getMaxSize seg)
    (hseg : seg = .networkImage ∨ seg = .applicationData)
    (h : PowerSafe getMaxSize uninits uninits' appSignature deserialize seg s later faults) :
    SafeToStore getMaxSize uninits appSignature seg s later faults := by
  obtain ⟨images₀, image₀, himage₀⟩ := exists_storable getMaxSize hseg
  rcases hseg with rfl | rfl
  case inr =>
    exact absurd (not_lost_of_not_read h himage₀ fun c found => isInvalid_applicationData hlater) id
  case inl =>
    have hhealthyLater := healthyLater_of_powerSafe himage₀ h
    obtain ⟨hhealthy, husable, hfits, hopens⟩ := opened_of_powerSafe hmax hpos hmap h
    exact {
      segment := rfl
      healthy := hhealthy
      usable := husable
      fits := hfits
      healthyLater := hhealthyLater
      steady := steady_of_powerSafe hmax hpos hmap hlater hhealthy husable hfits hhealthyLater h
      opens := hopens
      ends := ended_of_powerSafe hmax hmap hlater hhealthy husable hfits hopens hhealthyLater h }

/-- What is stored can be trusted exactly if it is the network image, and nothing stands in the way of
its file and its record. -/
theorem powerSafe_iff (hmax : ∀ seg, (getMaxSize seg).toNat + 24 < 2 ^ 31)
    (hpos : 0 < (getMaxSize .networkImage).toNat) {h : LinuxHal}
    {history : List (Storage LinuxHal × LinuxEvent)}
    (hrun : Run (linuxStep getMaxSize) (init h) history s) (hlater : later.Restarted getMaxSize seg)
    (hseg : seg = .networkImage ∨ seg = .applicationData) :
    PowerSafe getMaxSize uninits uninits' appSignature deserialize seg s later faults ↔
      SafeToStore getMaxSize uninits appSignature seg s later faults :=
  ⟨safeToStore_of_powerSafe hmax hpos (mapSound_of_run hmax hrun) hlater hseg,
    powerSafe_of_safeToStore hmax (mapSound_of_run hmax hrun) hlater⟩

theorem restarted_daemonHal (getMaxSize : IzotPersistentSegType → UInt32)
    (seg : IzotPersistentSegType) : (init daemonHal).Restarted getMaxSize seg where
  run := ⟨[some 0, some 0, some 0], _, _, [], [], .refl, List.forall_mem_nil _⟩
  works := rfl

theorem powerSafe_iff_started :
    PowerSafe (fun _ => 100) (fun _ => ⟨false, 0⟩) (fun _ => ⟨false, 0⟩) 7 none .networkImage
      (init daemonHal) (init daemonHal) [] :=
  (powerSafe_iff (fun _ => by decide) (by decide) .refl (restarted_daemonHal _ _) (.inl rfl)).mpr
    { segment := rfl
      healthy := rfl
      usable := fun h => absurd rfl h
      fits := fun h => absurd h (by decide)
      healthyLater := rfl
      steady := by
        have hnot : ∀ k ≤ 8, ¬(TransactionRecord.ofBytes (((init daemonHal).firstBytes .networkImage
            ⟨false, 0⟩).take k ++ (((init daemonHal).imageOf 124 .networkImage).slice 0 8).drop
              k)).valid = true := by
          decide +kernel
        exact fun k hk hvalid => absurd hvalid (hnot k hk)
      opens := by decide
      ends := fun _ => by decide }

theorem not_powerSafe :
    ¬PowerSafe (fun _ => 100) (fun _ => ⟨false, 0⟩) (fun _ => ⟨false, 0⟩) 7 none .applicationData
      (init daemonHal) (init daemonHal) [] := by
  intro hsafe
  have hsegment := (safeToStore_of_powerSafe (fun _ => by decide) (by decide)
    (mapSound_init _ _) (restarted_daemonHal _ _) (.inr rfl) hsafe).segment
  cases hsegment

end

end Storage

end LonStack
