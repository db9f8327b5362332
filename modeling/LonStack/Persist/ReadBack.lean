import LonStack.Isi.Persistence
import LonStack.Persist.Corrupted
import LonStack.Persist.PowerCut

namespace LonStack

open Lib

theorem word_wordBytes (w : UInt32) : TransactionRecord.word (wordBytes w) 0 = w :=
  Image.long_eq (m := fun k => (wordBytes w).getD k 0) rfl rfl rfl rfl

theorem short_shortBytes (w : UInt16) : IzotPersistenceHeader.short (shortBytes w) 0 = w :=
  Image.short_eq (m := fun k => (shortBytes w).getD k 0) rfl rfl

theorem IzotPersistenceHeader.ofBytes_bytes (hdr : IzotPersistenceHeader) :
    IzotPersistenceHeader.ofBytes hdr.bytes = hdr := by
  obtain ⟨length, isiSignature, appSignature, version, checksum⟩ := hdr
  rw [ofBytes, mk.injEq]
  exact ⟨word_wordBytes length, word_wordBytes isiSignature, word_wordBytes appSignature,
    short_shortBytes version, short_shortBytes checksum⟩

namespace Storage

def segValid (m : Image) : Bool := (TransactionRecord.ofBytes (m.slice 0 8)).valid

def segPayload (appSignature : UInt32) (size : Nat) (m : Image) : Option (List UInt8) :=
  let hdr := IzotPersistenceHeader.ofBytes (m.slice 8 16)
  if hdr.Refused appSignature ∨ hdr.length.toNat ≠ size then none else some (m.slice 24 size)

theorem segValid_congr (m m' : Image) (h : ∀ k < 8, m' k = m k) : segValid m' = segValid m := by
  have hslice : m'.slice 0 8 = m.slice 0 8 :=
    Image.slice_congr fun k hk => by rw [Nat.zero_add]; exact h k hk
  rw [segValid, segValid, hslice]

theorem segPayload_congr (appSignature : UInt32) (size : Nat) (m m' : Image)
    (h : ∀ k, 8 ≤ k → m' k = m k) :
    segPayload appSignature size m' = segPayload appSignature size m := by
  have hheader : m'.slice 8 16 = m.slice 8 16 :=
    Image.slice_congr fun k _ => h (8 + k) (Nat.le_add_right 8 k)
  have himage : m'.slice 24 size = m.slice 24 size :=
    Image.slice_congr fun k _ => h (24 + k) (by omega)
  rw [segPayload, segPayload, hheader, himage]

def segJournal (appSignature : UInt32) (size : Nat) : Journal (List UInt8) where
  recordSize := 8
  valid := segValid
  payload := segPayload appSignature size
  valid_congr := segValid_congr
  payload_congr := segPayload_congr appSignature size

section

variable {appSignature : UInt32} {image : List UInt8} {m : Image}

theorem segPayload_imageWrites (hlt : image.length < 2 ^ 32) :
    segPayload appSignature image.length (m.writeAll (imageWrites appSignature image)) =
      some image := by
  have hheader : (imageHeader appSignature image).bytes.length = 16 := rfl
  have hslice : (m.writeAll (imageWrites appSignature image)).slice 8 16 =
      (imageHeader appSignature image).bytes :=
    ((Image.OnlyIn.write _ 24 image).slice_eq (.inl (Nat.le_refl 24))).trans
      (Image.slice_write m 8 (imageHeader appSignature image).bytes)
  have himage : (m.writeAll (imageWrites appSignature image)).slice 24 image.length = image :=
    Image.slice_write _ 24 image
  have hgood : ¬((imageHeader appSignature image).Refused appSignature ∨
      (imageHeader appSignature image).length.toNat ≠ image.length) :=
    not_or.mpr ⟨not_or.mpr ⟨not_not_intro rfl, not_or.mpr ⟨not_not_intro rfl,
      UInt16.lt_irrefl CURRENT_VERSION⟩⟩,
      not_not_intro (UInt32.toNat_ofNat_of_lt' hlt)⟩
  unfold segPayload
  rw [hslice, himage, IzotPersistenceHeader.ofBytes_bytes]
  exact if_neg hgood

end

section

variable {getMaxSize : IzotPersistentSegType → UInt32} {uninits : IzotPersistentSegType → EraseInfo}
  {appSignature : UInt32} {images : SegImages} {image : List UInt8} {seg : IzotPersistentSegType}
  {uninit : EraseInfo} {s t : Storage LinuxHal} {m : Image} {n : Nat}

theorem slice_image {c : OsFileContent} {a k : Nat} (hsize : c.size = n) (hle : a + k ≤ n) :
    c.data.slice a k = (c.image n).slice a k := by
  refine Image.slice_congr fun i hi => ?_
  rw [OsFileContent.image, Image.front_of_lt (by omega), OsFileContent.padded,
    Image.front_of_lt (by omega)]

theorem size_segment (os : LinuxOs) (seg : IzotPersistentSegType) :
    os.size (.segment seg) = (os.content (.segment seg)).size := if_pos rfl

structure Readable (getMaxSize : IzotPersistentSegType → UInt32) (seg : IzotPersistentSegType)
    (uninit : EraseInfo) (n : Nat) (m : Image) (t : Storage LinuxHal) : Prop where
  map : t.MapSound getMaxSize
  working : t.hal.Working
  size : ((t.mapped getMaxSize seg uninit).fileSize seg).toNat = n
  file : (t.opened getMaxSize seg uninit).hal.file seg = some (.segment seg)
  content : ((t.opened getMaxSize seg uninit).content seg).size = n
  image : t.imageOf n seg = m

theorem readable_of_closed (hmap : t.MapSound getMaxSize) (hw : t.hal.Working)
    (hfd : t.hal.storageFd seg = none)
    (hn : ((t.mapped getMaxSize seg uninit).fileSize seg).toNat = n) :
    Readable getMaxSize seg uninit n (t.imageOf n seg) t where
  map := hmap
  working := hw
  size := hn
  file := file_opened hfd
  content := by
    rw [content_opened hfd]
    exact hn
  image := rfl

namespace Readable

variable (h : Readable getMaxSize seg uninit n m t)

include h

theorem opened (hmax : (getMaxSize seg).toNat + 24 < 2 ^ 31) :
    Readable getMaxSize seg uninit n m (t.opened getMaxSize seg uninit) := by
  have hopen := @openStorageSegment_eq getMaxSize seg uninit t h.working
  obtain ⟨hal, hsettled, hmap⟩ := openStorageSegment_inv h.map hmax hopen
  have hw' := @working_opened getMaxSize seg uninit t h.working
  have hagain : (t.opened getMaxSize seg uninit).opened getMaxSize seg uninit =
      t.opened getMaxSize seg uninit :=
    (Prod.mk.inj ((openStorageSegment_eq hw').symm.trans (openStorageSegment_again hal hsettled))).2
  exact
    { map := hmap
      working := hw'
      size := by
        rw [mapped_of_settled hsettled]
        exact h.size
      file := by
        rw [hagain]
        exact h.file
      content := by
        rw [hagain]
        exact h.content
      image := (imageOf_opened h.size).trans h.image }

theorem closed (hmax : (getMaxSize seg).toNat + 24 < 2 ^ 31) :
    Readable getMaxSize seg uninit n m
      { t.opened getMaxSize seg uninit with
        hal := (t.opened getMaxSize seg uninit).hal.closed seg } := by
  have hclosed := @closed_opened getMaxSize seg uninit t h.map hmax
    (t.opened getMaxSize seg uninit).hal (working_opened h.working) initialized_opened
  have himage : ({ t.opened getMaxSize seg uninit with
      hal := (t.opened getMaxSize seg uninit).hal.closed seg } : Storage LinuxHal).imageOf n seg = m := by
    rw [imageOf, Storage.content, LinuxHal.content_closed]
    exact (imageOf_opened h.size).trans h.image
  rw [← himage]
  refine readable_of_closed hclosed.map hclosed.working hclosed.closed ?_
  rw [mapped_of_settled hclosed.settled]
  exact h.size

theorem isInvalid (hmax : (getMaxSize seg).toNat + 24 < 2 ^ 31) (hn : 8 ≤ n) :
    t.izotStorageSegIsInvalid linuxHal getMaxSize seg uninit =
      (!segValid m, { t.opened getMaxSize seg uninit with
        hal := (t.opened getMaxSize seg uninit).hal.closed seg }) := by
  have hsize : ((t.opened getMaxSize seg uninit).hal.os.content (.segment seg)).size = n := h.content
  have hread := isInvalid_of_read h.map hmax h.working h.file (LinuxHal.kind_segment _ seg) (by
    rw [size_segment, hsize]
    exact hn)
  rw [hread, slice_image hsize (by omega)]
  have himage : ((t.opened getMaxSize seg uninit).hal.os.content (.segment seg)).image n = m :=
    (imageOf_opened h.size).trans h.image
  rw [himage]
  rfl

theorem read {segmentOffset dataSize : UInt64}
    (hle : segmentOffset.toNat + dataSize.toNat ≤ n) :
    t.izotStorageReadSeg linuxHal getMaxSize seg uninit segmentOffset dataSize =
      ((.noError, m.slice segmentOffset.toNat dataSize.toNat), { t.opened getMaxSize seg uninit with
        hal := (t.opened getMaxSize seg uninit).hal.closed seg }) := by
  have hopen := @openStorageSegment_eq getMaxSize seg uninit t h.working
  have hw' := @working_opened getMaxSize seg uninit t h.working
  have hsize : ((t.opened getMaxSize seg uninit).hal.os.content (.segment seg)).size = n := h.content
  have hfile := h.file
  have himage : ((t.opened getMaxSize seg uninit).hal.os.content (.segment seg)).image n = m :=
    (imageOf_opened h.size).trans h.image
  generalize t.opened getMaxSize seg uninit = t' at *
  have hstart : ((t'.segmentMap seg).segmentStart + segmentOffset -
      (t'.segmentMap seg).segmentStart).toNat = segmentOffset.toNat := by
    have hcancel : (t'.segmentMap seg).segmentStart + segmentOffset -
        (t'.segmentMap seg).segmentStart = segmentOffset := by grind
    rw [hcancel]
  have hread : linuxHal.readSegment seg (t'.segmentMap seg).segmentStart
      ((t'.segmentMap seg).segmentStart + segmentOffset) dataSize t'.hal = _ :=
    hw'.halReadStorageSegment hfile (LinuxHal.kind_segment _ seg) (by
      rw [hstart, size_segment, hsize]
      exact hle)
  rw [hstart, slice_image hsize hle, himage] at hread
  have hclose := @halClose_eq seg t' hw'
  unfold izotStorageReadSeg
  simp only [hopen, hread, ne_eq, not_true, if_false]
  simp only [hclose]

theorem not_read {segmentOffset dataSize : UInt64}
    (hlt : n < segmentOffset.toNat + dataSize.toNat) :
    (t.izotStorageReadSeg linuxHal getMaxSize seg uninit segmentOffset dataSize).1.1 ≠ .noError := by
  have hopen := @openStorageSegment_eq getMaxSize seg uninit t h.working
  have hw' := @working_opened getMaxSize seg uninit t h.working
  have hsize : ((t.opened getMaxSize seg uninit).hal.os.content (.segment seg)).size = n := h.content
  have hfile := h.file
  generalize t.opened getMaxSize seg uninit = t' at *
  have hstart : ((t'.segmentMap seg).segmentStart + segmentOffset -
      (t'.segmentMap seg).segmentStart).toNat = segmentOffset.toNat := by
    have hcancel : (t'.segmentMap seg).segmentStart + segmentOffset -
        (t'.segmentMap seg).segmentStart = segmentOffset := by grind
    rw [hcancel]
  have hread : (linuxHal.readSegment seg (t'.segmentMap seg).segmentStart
      ((t'.segmentMap seg).segmentStart + segmentOffset) dataSize t'.hal).1.1 ≠ .noError := by
    change (t'.hal.halReadStorageSegment seg _ _ dataSize).1.1 ≠ _
    rw [LinuxHal.halReadStorageSegment, if_neg (not_not_intro hw'.healthy), hfile]
    dsimp only
    rw [if_pos]
    · exact LinuxHal.persistentDataAccessError_ne
    · refine .inr (.inl ?_)
      rw [hstart, size_segment, hsize]
      exact hlt
  unfold izotStorageReadSeg
  simp only [hopen, ne_eq, not_true, if_false]
  rw [if_pos hread]
  exact hread

end Readable

def readBehind (appSignature : UInt32) (n : Nat) (m : Image) : Except SegRestored (List UInt8) :=
  let hdr := IzotPersistenceHeader.ofBytes (m.slice 8 16)
  if hdr.Refused appSignature ∨ n < 24 + hdr.length.toNat then .error .refused
  else .ok (m.slice 24 hdr.length.toNat)

theorem readImage_eq (h : Readable getMaxSize seg (uninits seg) n m t)
    (hmax : (getMaxSize seg).toNat + 24 < 2 ^ 31) (hn : 24 ≤ n) :
    (readImage (handlers linuxHal getMaxSize uninits) appSignature seg t).1 =
      if segValid m then readBehind appSignature n m else .error .invalid := by
  have hinvalid : (handlers linuxHal getMaxSize uninits).isInvalid seg t = _ :=
    h.isInvalid hmax (by omega)
  have h₁ := h.closed hmax
  have hopen : (handlers linuxHal getMaxSize uninits).openForRead seg
      { t.opened getMaxSize seg (uninits seg) with
        hal := (t.opened getMaxSize seg (uninits seg)).hal.closed seg } = _ :=
    congrArg (fun r : LonStatusCode × Storage LinuxHal =>
      (if r.1 = .noError then some seg else none, r.2)) (openStorageSegment_eq h₁.working)
  have h₂ := h₁.opened hmax
  generalize ({ t.opened getMaxSize seg (uninits seg) with
    hal := (t.opened getMaxSize seg (uninits seg)).hal.closed seg } : Storage LinuxHal) = t₁ at *
  generalize t₁.opened getMaxSize seg (uninits seg) = t₂ at *
  have hread : (handlers linuxHal getMaxSize uninits).read seg sizeofTransactionRecord
      sizeofPersistenceHeader.toUInt64 t₂ = _ :=
    h₂.read (show sizeofTransactionRecord.toNat + sizeofPersistenceHeader.toUInt64.toNat ≤ n
      from hn)
  have h₃ := h₂.closed hmax
  generalize ({ t₂.opened getMaxSize seg (uninits seg) with
    hal := (t₂.opened getMaxSize seg (uninits seg)).hal.closed seg } : Storage LinuxHal) = t₃ at *
  have hslice : m.slice sizeofTransactionRecord.toNat sizeofPersistenceHeader.toUInt64.toNat =
      m.slice 8 16 := rfl
  rw [hslice] at hread
  unfold readImage readBehind
  simp only [hinvalid, hopen, hread]
  by_cases hvalid : segValid m = true
  case neg =>
    rw [Bool.not_eq_true] at hvalid
    rw [hvalid]
    rfl
  case pos =>
    simp only [hvalid, Bool.not_true, Bool.false_eq_true, if_false, if_true, ne_eq, not_true,
      false_or]
    generalize IzotPersistenceHeader.ofBytes (m.slice 8 16) = hdr
    change (if hdr.Refused appSignature then _ else _ :
      Except SegRestored (List UInt8) × Storage LinuxHal).1 = _
    by_cases hrefused : hdr.Refused appSignature
    case pos => rw [if_pos hrefused, if_pos (.inl hrefused)]
    case neg =>
      have hchecksum := validate_of_not_refused hrefused
      have hbehind : (sizeofTransactionRecord + sizeofPersistenceHeader.toUInt64).toNat = 24 := rfl
      have hlength : hdr.length.toUInt64.toNat = hdr.length.toNat := UInt32.toNat_toUInt64 _
      rw [if_neg hrefused]
      by_cases hlong : n < 24 + hdr.length.toNat
      case pos =>
        have hnot : ((handlers linuxHal getMaxSize uninits).read seg
            (sizeofTransactionRecord + sizeofPersistenceHeader.toUInt64) hdr.length.toUInt64
              t₃).1.1 ≠ .noError :=
          h₃.not_read (by rw [hbehind, hlength]; exact hlong)
        dsimp only
        rw [if_pos (.inl hnot), if_pos (.inr hlong)]
      case neg =>
        have hread' : (handlers linuxHal getMaxSize uninits).read seg
            (sizeofTransactionRecord + sizeofPersistenceHeader.toUInt64) hdr.length.toUInt64 t₃ = _ :=
          h₃.read (by rw [hbehind, hlength]; exact Nat.le_of_not_lt hlong)
        rw [hbehind, hlength] at hread'
        rw [if_neg (not_or.mpr ⟨hrefused, hlong⟩)]
        simp only [hread', hchecksum, not_true, reduceCtorEq, or_self, if_false]

theorem toInt32_le_iff {a b : UInt32} (ha : a.toNat < 2 ^ 31) (hb : b.toNat < 2 ^ 31) :
    a.toInt32 ≤ b.toInt32 ↔ a.toNat ≤ b.toNat := by
  have htoInt {w : UInt32} (h : w.toNat < 2 ^ 31) : w.toInt32.toInt = w.toNat := by
    change w.toBitVec.toInt = _
    exact BitVec.toInt_eq_toNat_of_lt (by change 2 * w.toNat < 2 ^ 32; omega)
  rw [Int32.le_iff_toInt_le, htoInt ha, htoInt hb]
  exact Int.ofNat_le

theorem restore_networkImage (h : Readable getMaxSize .networkImage (uninits .networkImage) n m t)
    (hmax : (getMaxSize .networkImage).toNat + 24 < 2 ^ 31)
    (hn : 24 + (getMaxSize .networkImage).toNat = n)
    (deserialize : Option (List UInt8 → LonStatusCode)) :
    (izotPersistentSegRestore (handlers linuxHal getMaxSize uninits) appSignature .networkImage t
        ⟨getMaxSize, deserialize⟩).1 =
      if segValid m then
        (segPayload appSignature (getMaxSize .networkImage).toNat m).elim .refused
          fun image => ⟨.noError, some image, []⟩
      else .invalid := by
  have hread := @readImage_eq getMaxSize uninits appSignature _ t m n h hmax (by omega)
  generalize hr : readImage (handlers linuxHal getMaxSize uninits) appSignature .networkImage t = r
    at hread
  obtain ⟨read, t'⟩ := r
  dsimp only at hread
  subst hread
  unfold izotPersistentSegRestore
  rw [hr]
  by_cases hvalid : segValid m = true
  case neg =>
    simp only [if_neg hvalid]
  case pos =>
    simp only [if_pos hvalid]
    unfold readBehind segPayload
    generalize IzotPersistenceHeader.ofBytes (m.slice 8 16) = hdr
    dsimp only
    by_cases hbad : hdr.Refused appSignature ∨ n < 24 + hdr.length.toNat
    case pos =>
      rw [if_pos hbad, if_pos (hbad.imp_right fun hlong => by omega)]
      rfl
    case neg =>
      obtain ⟨hrefused, hlong⟩ := not_or.mp hbad
      rw [if_neg hbad]
      change (SegTargets.restore ⟨getMaxSize, deserialize⟩ (m.slice 24 hdr.length.toNat)
        .networkImage) = _
      unfold SegTargets.restore
      dsimp only
      rw [Image.length_slice]
      have hle := @toInt32_le_iff (getMaxSize .networkImage) (UInt32.ofNat hdr.length.toNat)
        (by omega) (by rw [UInt32.ofNat_toNat]; omega)
      rw [UInt32.ofNat_toNat] at hle ⊢
      by_cases hlength : hdr.length.toNat = (getMaxSize .networkImage).toNat
      case pos =>
        rw [if_pos (hle.mpr (Nat.le_of_eq hlength.symm)),
          if_neg (not_or.mpr ⟨hrefused, not_not_intro hlength⟩), hlength,
          List.take_of_length_le (Nat.le_of_eq (Image.length_slice _ _ _))]
        rfl
      case neg =>
        rw [if_neg fun h => hlength (by have := hle.mp h; omega), if_pos (.inr hlength)]
        rfl

theorem errors_isInvalid (h : Readable getMaxSize seg (uninits seg) n m t)
    (hmax : (getMaxSize seg).toNat + 24 < 2 ^ 31) (hn : 8 ≤ n) :
    (handlers linuxHal getMaxSize uninits).errors seg .isInvalid t = [] := by
  refine if_pos ?_
  change (t.izotStorageSegIsInvalid linuxHal getMaxSize seg (uninits seg)).2.hal.persistentMemError = _
  rw [h.isInvalid hmax hn]
  exact (h.closed hmax).working.healthy

end

end Storage

section

variable {τ : Type} {H : SegHandlers τ} {appSignature : UInt32} {seg : IzotPersistentSegType} {s : τ}
  {targets : SegTargets} {errors : List LonStatusCode}

theorem fst_readImage_reporting :
    (readImage H.reporting appSignature seg (s, errors)).1 = (readImage H appSignature seg s).1 := by
  unfold readImage
  dsimp only [SegHandlers.reporting]
  split
  case isTrue => rfl
  case isFalse =>
    split
    case isTrue => rfl
    case isFalse => rfl

theorem fst_restore_reporting :
    (izotPersistentSegRestore H.reporting appSignature seg (s, errors) targets).1 =
      (izotPersistentSegRestore H appSignature seg s targets).1 := by
  have hread := @fst_readImage_reporting τ H appSignature seg s errors
  unfold izotPersistentSegRestore
  generalize readImage H.reporting appSignature seg (s, errors) = r at *
  generalize readImage H appSignature seg s = r' at *
  obtain ⟨read, t⟩ := r
  obtain ⟨read', t'⟩ := r'
  obtain rfl : read = read' := hread
  cases read with
  | error restored => rfl
  | ok image => rfl

theorem restore_of_invalid (h : (H.isInvalid seg s).1 = true) :
    izotPersistentSegRestore H.reporting appSignature seg (s, []) targets =
      (.invalid, (H.isInvalid seg s).2, H.errors seg .isInvalid s) := by
  have hinvalid : H.reporting.isInvalid seg (s, []) =
      (true, (H.isInvalid seg s).2, H.errors seg .isInvalid s) := Prod.ext h rfl
  unfold izotPersistentSegRestore readImage
  rw [hinvalid]
  rfl

end

end LonStack
