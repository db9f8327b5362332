import LonStack.Lib.Region
import LonStack.Persist.Segment

namespace LonStack

open Lib

/-- The loop of `ComputePersistenceChecksum` ends before this index, an unsigned number of 64
bits. -/
def checksumBound (length : UInt64) : Nat := (length - 1).toNat

def computePersistenceChecksumAt (pImage : Image) (length : UInt64) : UInt8 :=
  (List.range (checksumBound length)).foldl (fun checksum i => checksum + pImage i) 0 +
    length.toUInt16.toUInt8

def ReadsInside (length : UInt64) : Prop := ∀ i < checksumBound length, i < length.toNat

theorem checksumBound_eq {length : UInt64} (h : length ≠ 0) :
    checksumBound length = length.toNat - 1 := by
  have hpos : 0 < length.toNat := Nat.pos_of_ne_zero fun h0 => h (UInt64.toNat_inj.mp h0)
  have hle : (1 : UInt64) ≤ length := UInt64.le_iff_toNat_le.mpr hpos
  rw [checksumBound, UInt64.toNat_sub_of_le _ _ hle]
  rfl

theorem readsInside_iff {length : UInt64} : ReadsInside length ↔ length ≠ 0 := by
  constructor
  · rintro h rfl
    exact absurd (h 0 (by decide)) (Nat.not_lt_zero 0)
  · intro h i hi
    rw [checksumBound_eq h] at hi
    omega

theorem computePersistenceChecksumAt_eq {pImage : Image} {image : List UInt8} (hne : image ≠ [])
    (hlength : image.length < 2 ^ 64) (himage : pImage.bytes image.length = image) :
    computePersistenceChecksumAt pImage (.ofNat image.length) = computePersistenceChecksum image := by
  have htoNat : (UInt64.ofNat image.length).toNat = image.length :=
    UInt64.toNat_ofNat_of_lt' hlength
  have hzero : UInt64.ofNat image.length ≠ 0 := fun h => by
    have h0 := congrArg UInt64.toNat h
    rw [htoNat] at h0
    exact hne (List.eq_nil_of_length_eq_zero h0)
  have hlast : pImage.bytes (image.length - 1) = image.dropLast := by
    obtain ⟨n, hn⟩ : ∃ n, image.length = n + 1 :=
      Nat.exists_eq_succ_of_ne_zero fun h => hne (List.eq_nil_of_length_eq_zero h)
    rw [hn, Image.bytes_succ] at himage
    rw [hn, Nat.add_sub_cancel, ← himage, List.dropLast_concat]
  have hsum : (List.range (image.length - 1)).foldl (fun checksum i => checksum + pImage i) 0 =
      image.dropLast.foldl (· + ·) 0 := by
    rw [← hlast, Image.bytes, List.foldl_map]
  have hshort : (UInt64.ofNat image.length).toUInt16 = UInt16.ofNat image.length :=
    UInt64.toUInt16_ofNat' _
  rw [computePersistenceChecksumAt, computePersistenceChecksum, checksumBound_eq hzero, htoNat, hsum,
    hshort]

structure StoredSegment where
  header : List UInt8
  image : List UInt8
  length_eq : image.length = (IzotPersistenceHeader.ofBytes header).length.toNat

namespace StoredSegment

variable (x y : StoredSegment)

def hdr : IzotPersistenceHeader := .ofBytes x.header

structure OneByteChanged : Prop where
  header : y.header = x.header
  image : ∃ k b, k < x.image.length ∧ x.image[k]? ≠ some b ∧ y.image = x.image.set k b

end StoredSegment

namespace SegHandlers

variable {τ : Type} (H : SegHandlers τ) (seg : IzotPersistentSegType) (s : τ)

def beforeHeader : τ × List LonStatusCode :=
  (H.reporting.openForRead seg (H.reporting.isInvalid seg (s, [])).2).2

def beforeImage : τ × List LonStatusCode :=
  (H.reporting.read seg sizeofTransactionRecord sizeofPersistenceHeader.toUInt64
    (H.beforeHeader seg s)).2

structure Holds (x : StoredSegment) : Prop where
  valid : (H.isInvalid seg s).1 = false
  header : (H.reporting.read seg sizeofTransactionRecord sizeofPersistenceHeader.toUInt64
    (H.beforeHeader seg s)).1 = (.noError, x.header)
  image : (H.reporting.read seg (sizeofTransactionRecord + sizeofPersistenceHeader.toUInt64)
    x.hdr.length.toUInt64 (H.beforeImage seg s)).1 = (.noError, x.image)
  silent : (H.reporting.read seg (sizeofTransactionRecord + sizeofPersistenceHeader.toUInt64)
    x.hdr.length.toUInt64 (H.beforeImage seg s)).2.2 = []

end SegHandlers

section

variable (appSignature : UInt32) (seg : IzotPersistentSegType) (targets : SegTargets)

def IzotPersistenceHeader.Refused (hdr : IzotPersistenceHeader) : Prop :=
  hdr.isiSignature ≠ ISI_IMAGE_SIGNATURE0 ∨ hdr.appSignature ≠ appSignature ∨
    CURRENT_VERSION < hdr.version

instance (hdr : IzotPersistenceHeader) : Decidable (hdr.Refused appSignature) :=
  inferInstanceAs (Decidable (_ ∨ _))

def SegTargets.TooShort (length : Nat) : IzotPersistentSegType → Prop
  | .networkImage =>
    ¬(targets.maxSize .networkImage).toInt32 ≤ (UInt32.ofNat length).toInt32
  | .applicationData =>
    targets.deserialize ≠ none ∧
      ¬(targets.maxSize .applicationData).toInt32 ≤ (UInt32.ofNat length).toInt32
  | _ => True

structure SegRestored.FailsQuietly (l : EventLog) (r : SegRestored)
    (errors : List LonStatusCode) : Prop where
  status : r.status = .persistentDataFailure
  copied : r.copied = none
  log : ∀ nodeState now, l.osalPrintLogs nodeState now (errors ++ r.errors) = l

/-- A restore fails and changes nothing after any change of one byte of the image, and the checksum
reads nothing else. -/
structure Detects (l : EventLog) (x : StoredSegment) : Prop where
  changed : ∀ (τ : Type) (H : SegHandlers τ) (s : τ) (y : StoredSegment), x.OneByteChanged y →
    H.Holds seg s y → ∀ r t errors,
      izotPersistentSegRestore H.reporting appSignature seg (s, []) targets = (r, t, errors) →
        r.FailsQuietly l errors
  readsInside : ReadsInside (.ofNat x.image.length)

end

variable {τ : Type} {H : SegHandlers τ} {appSignature : UInt32} {seg : IzotPersistentSegType} {s : τ}
  {targets : SegTargets} {l : EventLog} {x y : StoredSegment}

theorem SegHandlers.Holds.silentHeader (h : H.Holds seg s x) : (H.beforeImage seg s).2 = [] :=
  (List.append_eq_nil_iff.mp h.silent).1

theorem validate_of_not_refused {hdr : IzotPersistenceHeader} (h : ¬hdr.Refused appSignature)
    (image : List UInt8) : validatePersistenceChecksum appSignature hdr image = true := by
  have happ : hdr.appSignature = appSignature := by
    by_contra hne
    exact h (.inr (.inl hne))
  exact decide_eq_true (.inl happ)

theorem readImage_of_holds (h : H.Holds seg s x) :
    ∃ t, readImage H.reporting appSignature seg (s, []) =
      (if x.hdr.Refused appSignature then .error .refused else .ok x.image, t, []) := by
  have hvalid : (H.reporting.isInvalid seg (s, [])).1 = false := h.valid
  have hheader := h.header
  have himage := h.image
  have hsilent := h.silent
  have hsilentHeader := h.silentHeader
  unfold SegHandlers.beforeImage at himage hsilent hsilentHeader
  unfold SegHandlers.beforeHeader at hheader himage hsilent hsilentHeader
  unfold StoredSegment.hdr at himage hsilent
  unfold readImage
  simp only [hvalid, hheader, Bool.false_eq_true, if_false, ne_eq, not_true_eq_false, false_or]
  split
  case isTrue hrefused =>
    have hrefused : x.hdr.Refused appSignature := hrefused
    rw [if_pos hrefused]
    exact ⟨_, Prod.ext rfl (Prod.ext rfl hsilentHeader)⟩
  case isFalse hrefused =>
    have haccepted : ¬x.hdr.Refused appSignature := hrefused
    have hvalidate := validate_of_not_refused haccepted x.image
    unfold StoredSegment.hdr at hvalidate
    rw [if_neg haccepted]
    simp only [himage, hvalidate, not_true_eq_false, Bool.true_eq_false, or_self, if_false]
    exact ⟨_, Prod.ext rfl (Prod.ext rfl hsilent)⟩

theorem restore_of_holds (h : H.Holds seg s x) :
    ∃ t, izotPersistentSegRestore H.reporting appSignature seg (s, []) targets =
      (if x.hdr.Refused appSignature then .refused else targets.restore x.image seg, t, []) := by
  obtain ⟨t, hread⟩ := @readImage_of_holds τ H appSignature seg s x h
  refine ⟨t, ?_⟩
  rw [izotPersistentSegRestore, hread]
  by_cases hrefused : x.hdr.Refused appSignature
  case pos =>
    rw [if_pos hrefused, if_pos hrefused]
  case neg =>
    rw [if_neg hrefused, if_neg hrefused]

theorem restore_eq_refused_iff (image : List UInt8) :
    (targets.restore image seg).status = .persistentDataFailure ∧
        (targets.restore image seg).copied = none ↔ targets.TooShort image.length seg := by
  cases seg with
  | networkImage =>
    unfold SegTargets.restore SegTargets.TooShort
    dsimp only
    split
    case isTrue h => exact iff_of_false (by simp) (not_not_intro h)
    case isFalse h => exact iff_of_true ⟨rfl, rfl⟩ h
  | applicationData =>
    unfold SegTargets.restore SegTargets.TooShort
    dsimp only
    cases targets.deserialize with
    | none => exact iff_of_false (by simp) fun h => h.1 rfl
    | some handler =>
      dsimp only
      split
      case isTrue h => exact iff_of_false (by simp) fun hshort => hshort.2 h
      case isFalse h => exact iff_of_true ⟨rfl, rfl⟩ ⟨by simp, h⟩
  | securityII => exact iff_of_true ⟨rfl, rfl⟩ trivial
  | nodeDefinition => exact iff_of_true ⟨rfl, rfl⟩ trivial
  | uniqueId => exact iff_of_true ⟨rfl, rfl⟩ trivial
  | connectionTable => exact iff_of_true ⟨rfl, rfl⟩ trivial
  | isi => exact iff_of_true ⟨rfl, rfl⟩ trivial

theorem restore_of_tooShort {image : List UInt8} (h : targets.TooShort image.length seg) :
    targets.restore image seg = .refused := by
  cases seg with
  | networkImage => exact if_neg h
  | applicationData =>
    obtain ⟨hset, hshort⟩ := h
    obtain ⟨handler, hhandler⟩ := Option.ne_none_iff_exists'.mp hset
    unfold SegTargets.restore
    rw [hhandler]
    exact if_neg hshort
  | securityII | nodeDefinition | uniqueId | connectionTable | isi => rfl

theorem failsQuietly_refused_iff :
    SegRestored.refused.FailsQuietly l [] ↔
      l.errorLog = LonStatusCode.persistentDataFailure.code := by
  have hlogs (nodeState : UInt8) (now : UInt32) :
      l.osalPrintLogs nodeState now ([] ++ SegRestored.refused.errors) =
        l.osalPrintLog nodeState now .persistentDataFailure := rfl
  constructor
  · intro h
    have hlog := h.log 0 0
    rw [hlogs] at hlog
    have hcode : (l.osalPrintLog 0 0 .persistentDataFailure).errorLog =
        LonStatusCode.persistentDataFailure.code := EventLog.errorLog_osalPrintLog (by decide)
    rw [← hcode, hlog]
  · intro h
    refine ⟨rfl, rfl, fun nodeState now => ?_⟩
    rw [hlogs]
    exact EventLog.osalPrintLog_of_last h

theorem failsQuietly_iff (h : H.Holds seg s x) :
    (∀ r t errors,
      izotPersistentSegRestore H.reporting appSignature seg (s, []) targets = (r, t, errors) →
        r.FailsQuietly l errors) ↔
      (x.hdr.Refused appSignature ∨ targets.TooShort x.image.length seg) ∧
        l.errorLog = LonStatusCode.persistentDataFailure.code := by
  obtain ⟨t, hrestore⟩ := @restore_of_holds τ H appSignature seg s targets x h
  have hone : (∀ r t' errors,
      izotPersistentSegRestore H.reporting appSignature seg (s, []) targets = (r, t', errors) →
        r.FailsQuietly l errors) ↔
      (if x.hdr.Refused appSignature then SegRestored.refused
        else targets.restore x.image seg).FailsQuietly l [] := by
    rw [hrestore]
    constructor
    · intro hall
      exact hall _ _ _ rfl
    · rintro hquiet r t' errors heq
      cases heq
      exact hquiet
  rw [hone]
  by_cases hrefused : x.hdr.Refused appSignature
  case pos =>
    rw [if_pos hrefused, failsQuietly_refused_iff]
    exact (and_iff_right (.inl hrefused)).symm
  case neg =>
    rw [if_neg hrefused, or_iff_right hrefused]
    by_cases hshort : targets.TooShort x.image.length seg
    case pos =>
      rw [restore_of_tooShort hshort, failsQuietly_refused_iff]
      exact (and_iff_right hshort).symm
    case neg =>
      exact iff_of_false (fun h => hshort ((restore_eq_refused_iff _).mp ⟨h.status, h.copied⟩))
        fun h => hshort h.1

def StoredSegment.handlers (x : StoredSegment) : SegHandlers Unit where
  enterTransaction _ _ := (.noError, ())
  exitTransaction _ _ := (.noError, ())
  openForWrite seg _ _ := (some seg, ())
  write _ _ _ _ := (.noError, ())
  isInvalid _ _ := (false, ())
  openForRead seg _ := (some seg, ())
  read _ offset _ _ :=
    ((.noError, if offset = sizeofTransactionRecord then x.header else x.image), ())
  errors _ _ _ := []

theorem StoredSegment.holds_handlers (x : StoredSegment) (seg : IzotPersistentSegType) :
    x.handlers.Holds seg () x := ⟨rfl, rfl, rfl, rfl⟩

theorem StoredSegment.exists_changed (x : StoredSegment) (hne : x.image ≠ []) :
    ∃ y : StoredSegment, x.OneByteChanged y := by
  have hpos : 0 < x.image.length := List.length_pos_iff.mpr hne
  refine ⟨⟨x.header, x.image.set 0 (x.image[0] + 1), by rw [List.length_set]; exact x.length_eq⟩,
    rfl, 0, x.image[0] + 1, hpos, ?_, rfl⟩
  rw [List.getElem?_eq_getElem hpos]
  intro h
  have hb : ∀ b : UInt8, b ≠ b + 1 := fun b hb => by
    have := congrArg UInt8.toNat hb
    rw [UInt8.toNat_add] at this
    have hlt := b.toNat_lt
    have hone : (1 : UInt8).toNat = 1 := rfl
    omega
  exact hb _ (Option.some.inj h)

theorem StoredSegment.OneByteChanged.length (h : x.OneByteChanged y) :
    y.image.length = x.image.length := by
  obtain ⟨k, b, -, -, heq⟩ := h.image
  rw [heq, List.length_set]

theorem StoredSegment.length_lt (x : StoredSegment) : x.image.length < 2 ^ 32 := by
  rw [x.length_eq]
  exact UInt32.toNat_lt _

theorem StoredSegment.readsInside_iff (x : StoredSegment) :
    ReadsInside (.ofNat x.image.length) ↔ x.image ≠ [] := by
  have htoNat : (UInt64.ofNat x.image.length).toNat = x.image.length :=
    UInt64.toNat_ofNat_of_lt' (Nat.lt_trans x.length_lt (by decide))
  have hzero : UInt64.ofNat x.image.length = 0 ↔ x.image.length = 0 := by
    rw [← UInt64.toNat_inj, htoNat]
    rfl
  rw [LonStack.readsInside_iff, ne_eq, ne_eq, hzero, List.length_eq_zero_iff]

/-- A change of one byte is detected if and only if the segment is not restored in any case and that has
been logged last, and the checksum keeps to the image if and only if there is one. -/
theorem detects_iff (l : EventLog) (x : StoredSegment) :
    Detects appSignature seg targets l x ↔
      x.image ≠ [] ∧ (x.hdr.Refused appSignature ∨ targets.TooShort x.image.length seg) ∧
        l.errorLog = LonStatusCode.persistentDataFailure.code := by
  constructor
  · intro h
    have hne := x.readsInside_iff.mp h.readsInside
    obtain ⟨y, hy⟩ := x.exists_changed hne
    have hfails := (failsQuietly_iff (y.holds_handlers seg)).mp
      (h.changed Unit y.handlers () y hy (y.holds_handlers seg))
    have hhdr : y.hdr = x.hdr := congrArg IzotPersistenceHeader.ofBytes hy.header
    rw [hhdr, hy.length] at hfails
    exact ⟨hne, hfails⟩
  · rintro ⟨hne, hfails⟩
    refine ⟨fun τ H s y hy hholds => (failsQuietly_iff hholds).mpr ?_, x.readsInside_iff.mpr hne⟩
    have hhdr : y.hdr = x.hdr := congrArg IzotPersistenceHeader.ofBytes hy.header
    rw [hhdr, hy.length]
    exact hfails

theorem length_storedByte (b : UInt8) :
    [b].length = (IzotPersistenceHeader.ofBytes (imageHeader 7 [0xAB]).bytes).length.toNat := rfl

def storedByte : StoredSegment where
  header := (imageHeader 7 [0xAB]).bytes
  image := [0xAB]
  length_eq := length_storedByte 0xAB

theorem not_detects :
    ¬∀ (appSignature : UInt32) (seg : IzotPersistentSegType) (targets : SegTargets)
      (l : EventLog) (x : StoredSegment), Detects appSignature seg targets l x := by
  intro hall
  have hdetects := hall 7 .networkImage ⟨fun _ => 1, none⟩ default storedByte
  have hchanged : storedByte.OneByteChanged ⟨storedByte.header, [0xAC], rfl⟩ :=
    ⟨rfl, 0, 0xAC, by decide, by decide, rfl⟩
  have hfails := hdetects.changed Unit (StoredSegment.handlers ⟨storedByte.header, [0xAC], rfl⟩) ()
    _ hchanged (StoredSegment.holds_handlers _ _) _ _ _ rfl
  exact absurd hfails.status (by decide +kernel)

end LonStack
