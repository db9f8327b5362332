import LonStack.Iup.Update
import LonStack.Persist.Storage

namespace LonStack

abbrev ISI_IMAGE_SIGNATURE0 : UInt32 := 0xCF82
abbrev CURRENT_VERSION : UInt16 := 1

structure IzotPersistenceHeader where
  length : UInt32
  isiSignature : UInt32
  appSignature : UInt32
  version : UInt16
  checksum : UInt16
  deriving DecidableEq, Repr, Inhabited

namespace IzotPersistenceHeader

def bytes (hdr : IzotPersistenceHeader) : List UInt8 :=
  wordBytes hdr.length ++ wordBytes hdr.isiSignature ++ wordBytes hdr.appSignature ++
    shortBytes hdr.version ++ shortBytes hdr.checksum

def short (bytes : List UInt8) (k : Nat) : UInt16 :=
  .ofNat ((bytes.getD k 0).toNat + 256 * (bytes.getD (k + 1) 0).toNat)

def ofBytes (bytes : List UInt8) : IzotPersistenceHeader where
  length := TransactionRecord.word bytes 0
  isiSignature := TransactionRecord.word bytes 4
  appSignature := TransactionRecord.word bytes 8
  version := short bytes 12
  checksum := short bytes 14

end IzotPersistenceHeader

/-- The last byte of the image is left out, as in the source. -/
def computePersistenceChecksum (image : List UInt8) : UInt8 :=
  image.dropLast.foldl (· + ·) 0 + (UInt16.ofNat image.length).toUInt8

/-- Only an image of another application would be checked. -/
def validatePersistenceChecksum (appSignature : UInt32) (hdr : IzotPersistenceHeader)
    (image : List UInt8) : Bool :=
  hdr.appSignature = appSignature ∨ (computePersistenceChecksum image).toUInt16 = hdr.checksum

inductive SegRequest
  | enterTransaction
  | exitTransaction
  | openForWrite (size : UInt64)
  | write (offset : UInt64) (data : List UInt8)
  | isInvalid
  | openForRead
  | read (offset size : UInt64)
  deriving DecidableEq, Repr

/-- The callbacks for the segments, over the state of the storage. `none` stands for the unassigned
segment type, and `errors` is what a callback logs. -/
structure SegHandlers (τ : Type) where
  enterTransaction : IzotPersistentSegType → τ → LonStatusCode × τ
  exitTransaction : IzotPersistentSegType → τ → LonStatusCode × τ
  openForWrite : IzotPersistentSegType → (size : UInt64) → τ → Option IzotPersistentSegType × τ
  write : IzotPersistentSegType → (offset : UInt64) → (data : List UInt8) → τ → LonStatusCode × τ
  isInvalid : IzotPersistentSegType → τ → Bool × τ
  openForRead : IzotPersistentSegType → τ → Option IzotPersistentSegType × τ
  read : IzotPersistentSegType → (offset size : UInt64) → τ → (LonStatusCode × List UInt8) × τ
  errors : IzotPersistentSegType → SegRequest → τ → List LonStatusCode

def SegHandlers.after {τ : Type} (H : SegHandlers τ) (seg : IzotPersistentSegType) (s : τ) :
    SegRequest → τ
  | .enterTransaction => (H.enterTransaction seg s).2
  | .exitTransaction => (H.exitTransaction seg s).2
  | .openForWrite size => (H.openForWrite seg size s).2
  | .write offset data => (H.write seg offset data s).2
  | .isInvalid => (H.isInvalid seg s).2
  | .openForRead => (H.openForRead seg s).2
  | .read offset size => (H.read seg offset size s).2

def SegHandlers.reporting {τ : Type} (H : SegHandlers τ) :
    SegHandlers (τ × List LonStatusCode) where
  enterTransaction seg s :=
    let r := H.enterTransaction seg s.1
    (r.1, r.2, s.2 ++ H.errors seg .enterTransaction s.1)
  exitTransaction seg s :=
    let r := H.exitTransaction seg s.1
    (r.1, r.2, s.2 ++ H.errors seg .exitTransaction s.1)
  openForWrite seg size s :=
    let r := H.openForWrite seg size s.1
    (r.1, r.2, s.2 ++ H.errors seg (.openForWrite size) s.1)
  write seg offset data s :=
    let r := H.write seg offset data s.1
    (r.1, r.2, s.2 ++ H.errors seg (.write offset data) s.1)
  isInvalid seg s :=
    let r := H.isInvalid seg s.1
    (r.1, r.2, s.2 ++ H.errors seg .isInvalid s.1)
  openForRead seg s :=
    let r := H.openForRead seg s.1
    (r.1, r.2, s.2 ++ H.errors seg .openForRead s.1)
  read seg offset size s :=
    let r := H.read seg offset size s.1
    (r.1, r.2, s.2 ++ H.errors seg (.read offset size) s.1)
  errors seg request s := H.errors seg request s.1

namespace Storage

variable {σ : Type} (hal : Hal σ) (getMaxSize : IzotPersistentSegType → UInt32)
  (uninit : IzotPersistentSegType → EraseInfo)

def silentHandlers : SegHandlers (Storage σ) where
  enterTransaction seg s := s.izotStorageStartSegUpdate hal getMaxSize seg (uninit seg)
  exitTransaction seg s := s.izotStorageFinishSegUpdate hal getMaxSize seg (uninit seg)
  openForWrite seg size s := s.izotStorageOpenSegForWrite hal getMaxSize seg (uninit seg) size
  write seg offset data s := s.izotStorageWriteSeg hal getMaxSize seg (uninit seg) offset data
  isInvalid seg s := s.izotStorageSegIsInvalid hal getMaxSize seg (uninit seg)
  openForRead seg s := s.izotStorageOpenSegForRead hal getMaxSize seg (uninit seg)
  read seg offset size s := s.izotStorageReadSeg hal getMaxSize seg (uninit seg) offset size
  errors _ _ _ := []

/-- The callbacks that are registered by default. For each segment `uninit` tells what the variables for
the storage info happen to hold when the segment is given its place. Every layer logs the error that
the platform remembers from the call that failed. -/
def handlers : SegHandlers (Storage σ) :=
  { silentHandlers hal getMaxSize uninit with
    errors := fun seg request s =>
      let error := hal.persistentMemError
        ((silentHandlers hal getMaxSize uninit).after seg s request).hal
      if error = .noError then [] else [error] }

end Storage

/-- What there is to store: the bytes from `configData` on, and what the application's callback for its
data gives, if there is one. -/
structure SegImages where
  networkImage : List UInt8
  applicationData : Option (LonStatusCode × List UInt8)
  deriving DecidableEq, Repr

def SegImages.serialize (images : SegImages) : IzotPersistentSegType → LonStatusCode × List UInt8
  | .networkImage => (.noError, images.networkImage)
  | .applicationData => images.applicationData.getD (.stackNotInitialized, [])
  | _ => (.invalidParameter, [])

section

variable {τ : Type} (H : SegHandlers τ) (appSignature : UInt32) (seg : IzotPersistentSegType) (s : τ)

def imageHeader (image : List UInt8) : IzotPersistenceHeader where
  length := .ofNat image.length
  isiSignature := ISI_IMAGE_SIGNATURE0
  appSignature := appSignature
  version := CURRENT_VERSION
  checksum := (computePersistenceChecksum image).toUInt16

def writeImage (image : List UInt8) : LonStatusCode × τ :=
  let (status, s) :=
    H.write seg sizeofTransactionRecord (imageHeader appSignature image).bytes s
  if status ≠ .noError then (.persistentDataFailure, s)
  else
    let (status, s) := H.write seg (sizeofTransactionRecord + sizeofPersistenceHeader.toUInt64) image s
    (if status ≠ .noError then .persistentDataFailure else .noError, s)

/-- The results of entering and leaving the transaction are not looked at. Nothing is written to a
segment that cannot be opened, and that is no error. -/
def izotPersistentSegStore (images : SegImages) : LonStatusCode × τ :=
  let (_, s) := H.enterTransaction seg s
  let (status, image) := images.serialize seg
  if status ≠ .noError then (status, s)
  else
    let (opened, s) := H.openForWrite seg
      (sizeofPersistenceHeader.toUInt64 + (imageHeader appSignature image).length.toUInt64) s
    let (status, s) := if opened = none then (.noError, s) else writeImage H appSignature seg s image
    if status ≠ .noError then (status, s) else (.noError, (H.exitTransaction seg s).2)

/-- What a store logs behind its callbacks. The status of the application is not logged. -/
def storeErrors (images : SegImages) (status : LonStatusCode) : List LonStatusCode :=
  if status = .noError then []
  else if (images.serialize seg).1 = .noError then [.persistentDataFailure, .eepromWriteFail]
  else if seg = .applicationData then []
  else [.invalidParameter]

structure SegTargets where
  maxSize : IzotPersistentSegType → UInt32
  deserialize : Option (List UInt8 → LonStatusCode)

/-- What is copied to `configData` or given to the callback, and what is logged behind the callbacks of
the storage. -/
structure SegRestored where
  status : LonStatusCode
  copied : Option (List UInt8)
  errors : List LonStatusCode
  deriving DecidableEq, Repr

namespace SegRestored

def refused : SegRestored := ⟨.persistentDataFailure, none, [.persistentDataFailure]⟩

def invalid : SegRestored := ⟨.persistentDataFailure, none, []⟩

end SegRestored

def SegTargets.restore (targets : SegTargets) (image : List UInt8) :
    IzotPersistentSegType → SegRestored
  | .networkImage =>
    let size := targets.maxSize .networkImage
    if size.toInt32 ≤ (UInt32.ofNat image.length).toInt32 then
      ⟨.noError, some (image.take size.toNat), []⟩
    else .refused
  | .applicationData =>
    let size := targets.maxSize .applicationData
    match targets.deserialize with
    | none => ⟨.stackNotInitialized, none, []⟩
    | some handler =>
      if size.toInt32 ≤ (UInt32.ofNat image.length).toInt32 then
        ⟨handler (image.take size.toNat), some (image.take size.toNat), []⟩
      else .refused
  | _ => .refused

def readImage : Except SegRestored (List UInt8) × τ :=
  let (invalid, s) := H.isInvalid seg s
  if invalid then (.error .invalid, s)
  else
    let (_, s) := H.openForRead seg s
    let ((status, bytes), s) :=
      H.read seg sizeofTransactionRecord sizeofPersistenceHeader.toUInt64 s
    let hdr := IzotPersistenceHeader.ofBytes bytes
    if status ≠ .noError ∨ hdr.isiSignature ≠ ISI_IMAGE_SIGNATURE0 ∨
        hdr.appSignature ≠ appSignature ∨ CURRENT_VERSION < hdr.version then (.error .refused, s)
    else
      let ((status, image), s) := H.read seg
        (sizeofTransactionRecord + sizeofPersistenceHeader.toUInt64) hdr.length.toUInt64 s
      (if status ≠ .noError ∨ validatePersistenceChecksum appSignature hdr image = false then
        .error .refused
        else .ok image, s)

def izotPersistentSegRestore (targets : SegTargets) : SegRestored × τ :=
  let (image, s) := readImage H appSignature seg s
  match image with
  | .error restored => (restored, s)
  | .ok image => (targets.restore image seg, s)

end

end LonStack
