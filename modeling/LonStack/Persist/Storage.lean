import LonStack.Iup.Md5
import LonStack.Lib.Image
import LonStack.OsalLog
import Mathlib.Algebra.Ring.Nat

namespace LonStack

structure EraseInfo where
  eraseRequired : Bool
  eraseValue : UInt8
  deriving DecidableEq, Repr, Inhabited

structure StorageInfo where
  regionOffset : UInt64
  regionSize : UInt64
  blockSize : UInt64
  numberOfRegions : Nat
  erase : EraseInfo
  deriving DecidableEq, Repr, Inhabited

/-- The storage functions of a platform, over its own state. Offsets count from the start of the
storage. -/
structure Hal (σ : Type) where
  info : StorageInfo
  persistentMemError : σ → LonStatusCode
  initStorage : σ → LonStatusCode × σ
  storageInfo : σ → LonStatusCode × σ
  openSegment : IzotPersistentSegType → UInt64 → σ → LonStatusCode × σ
  closeSegment : IzotPersistentSegType → σ → LonStatusCode × σ
  prepareSegment : IzotPersistentSegType → (segStart start size : UInt64) → UInt8 → σ →
    LonStatusCode × σ
  writeSegment : IzotPersistentSegType → List UInt8 → (segStart start : UInt64) → σ →
    LonStatusCode × σ
  readSegment : IzotPersistentSegType → (segStart start size : UInt64) → σ →
    (LonStatusCode × List UInt8) × σ

structure SegmentMap where
  segmentStart : UInt64
  txOffset : UInt64
  dataOffset : UInt64
  maxDataSize : UInt64
  erase : EraseInfo
  deriving DecidableEq, Repr, Inhabited

structure Storage (σ : Type) where
  segmentMap : IzotPersistentSegType → SegmentMap
  storageBlockSize : UInt64
  lowestUsedStorageDataOffset : UInt64
  dataSegmentSize : IzotPersistentSegType → UInt64
  hal : σ

abbrev TX_SIGNATURE : UInt32 := 0x89ABCDEF
abbrev TX_DATA_VALID : UInt32 := 0xFFFFFFFF
abbrev TX_DATA_INVALID : UInt32 := 0

abbrev sizeofTransactionRecord : UInt64 := 8
abbrev sizeofPersistenceHeader : UInt32 := 16

structure TransactionRecord where
  txSignature : UInt32
  txState : UInt32
  deriving DecidableEq, Repr

namespace TransactionRecord

def bytes (r : TransactionRecord) : List UInt8 := wordBytes r.txSignature ++ wordBytes r.txState

def word (bytes : List UInt8) (k : Nat) : UInt32 :=
  .ofNat ((bytes.getD k 0).toNat + 256 * (bytes.getD (k + 1) 0).toNat +
    256 ^ 2 * (bytes.getD (k + 2) 0).toNat + 256 ^ 3 * (bytes.getD (k + 3) 0).toNat)

def ofBytes (bytes : List UInt8) : TransactionRecord := ⟨word bytes 0, word bytes 4⟩

def valid (r : TransactionRecord) : Bool :=
  r.txSignature = TX_SIGNATURE ∧ r.txState = TX_DATA_VALID

end TransactionRecord

def signExtend (w : UInt32) : UInt64 :=
  if w < 0x80000000 then w.toUInt64 else w.toUInt64 ||| 0xFFFFFFFF00000000

namespace IzotPersistentSegType

def allocated (seg : IzotPersistentSegType) : Bool := seg ≠ .nodeDefinition ∧ seg ≠ .uniqueId

end IzotPersistentSegType

def virtualStorageOffset (lowest size blockSize : UInt64) : UInt32 :=
  let offset := (lowest - (sizeofTransactionRecord + size)).toUInt32
  let blockOffset := (signExtend offset % blockSize).toUInt32
  offset - blockOffset

namespace Storage

variable {σ : Type} (hal : Hal σ) (getMaxSize : IzotPersistentSegType → UInt32)
  (seg : IzotPersistentSegType) (s : Storage σ)

def init (h : σ) : Storage σ where
  segmentMap _ := default
  storageBlockSize := 0
  lowestUsedStorageDataOffset := 0
  dataSegmentSize _ := 0
  hal := h

/-- Asks the platform for the storage if that has not been done. Otherwise the variables for the
answer keep what they happen to hold. -/
def readStorageInfo (uninit : EraseInfo) : (LonStatusCode × EraseInfo) × Storage σ :=
  if s.storageBlockSize = 0 then
    let (status, h) := hal.storageInfo s.hal
    let s := { s with hal := h }
    if status ≠ .noError then ((status, uninit), s)
    else if 1 ≤ hal.info.numberOfRegions then
      ((.noError, hal.info.erase),
        { s with
          lowestUsedStorageDataOffset := hal.info.regionOffset + hal.info.regionSize
          storageBlockSize := hal.info.blockSize })
    else ((.noError, hal.info.erase), s)
  else ((.noError, uninit), s)

def allocate (erase : EraseInfo) : Storage σ :=
  let size := (getMaxSize seg + sizeofPersistenceHeader).toUInt64
  let start := signExtend (virtualStorageOffset s.lowestUsedStorageDataOffset size s.storageBlockSize)
  { s with
    dataSegmentSize := Function.update s.dataSegmentSize seg size
    segmentMap := Function.update s.segmentMap seg
      { segmentStart := start
        txOffset := start
        dataOffset := start + sizeofTransactionRecord
        maxDataSize := size
        erase := erase }
    lowestUsedStorageDataOffset := start }

def initSegmentMap (uninit : EraseInfo) : LonStatusCode × Storage σ :=
  let ((status, erase), s) := s.readStorageInfo hal uninit
  if status ≠ .noError then (status, s)
  else if s.dataSegmentSize seg = 0 ∧ seg.allocated then (.noError, s.allocate getMaxSize seg erase)
  else (.noError, s)

def openStorageSegment (uninit : EraseInfo) : LonStatusCode × Storage σ :=
  let (status, h) := hal.initStorage s.hal
  let s := { s with hal := h }
  if status ≠ .noError then (status, s)
  else
    let (status, s) := s.initSegmentMap hal getMaxSize seg uninit
    if status ≠ .noError then (status, s)
    else
      let (status, h) :=
        hal.openSegment seg ((s.segmentMap seg).maxDataSize + sizeofTransactionRecord) s.hal
      (status, { s with hal := h })

def halClose : LonStatusCode × Storage σ :=
  let (status, h) := hal.closeSegment seg s.hal
  (status, { s with hal := h })

def prepareBlocks (segStart eraseBlockSize : UInt64) (value : UInt8) :
    Nat → UInt64 → Storage σ → LonStatusCode × Storage σ
  | 0, _, s => (.noError, s)
  | n + 1, offset, s =>
    let (status, h) := hal.prepareSegment seg segStart offset eraseBlockSize value s.hal
    let s := { s with hal := h }
    if status ≠ .noError then (status, s)
    else prepareBlocks segStart eraseBlockSize value n (offset + s.storageBlockSize) s

/-- The number of blocks of `blockSize` bytes that hold `size` bytes. Blocks of no bytes do not get the
source anywhere, so that it never returns; here there are none of them, and `prepareLoop` has its loop. -/
def blocksFor (size blockSize : UInt64) : Nat := (size.toNat + blockSize.toNat - 1) / blockSize.toNat

def prepareStorageSegment (size : UInt64) : LonStatusCode × Storage σ :=
  let m := s.segmentMap seg
  let size := if m.erase.eraseRequired then size else sizeofTransactionRecord
  let eraseBlockSize := if m.erase.eraseRequired then s.storageBlockSize else sizeofTransactionRecord
  prepareBlocks hal seg m.segmentStart eraseBlockSize m.erase.eraseValue
    (blocksFor size s.storageBlockSize) m.segmentStart s

/-- `none` stands for the unassigned segment type. -/
def izotStorageOpenSegForRead (uninit : EraseInfo) : Option IzotPersistentSegType × Storage σ :=
  let (status, s) := s.openStorageSegment hal getMaxSize seg uninit
  (if status = .noError then some seg else none, s)

def izotStorageOpenSegForWrite (uninit : EraseInfo) (dataSize : UInt64) :
    Option IzotPersistentSegType × Storage σ :=
  let (status, s) := s.openStorageSegment hal getMaxSize seg uninit
  if status ≠ .noError then (none, s)
  else
    let s :=
      if dataSize ≤ (s.segmentMap seg).maxDataSize then
        (s.prepareStorageSegment hal seg (dataSize + sizeofTransactionRecord)).2
      else s
    let (status, s) := s.halClose hal seg
    (if status = .noError then some seg else none, s)

def izotStorageReadSeg (uninit : EraseInfo) (segmentOffset dataSize : UInt64) :
    (LonStatusCode × List UInt8) × Storage σ :=
  let (status, s) := s.openStorageSegment hal getMaxSize seg uninit
  if status ≠ .noError then ((status, []), s)
  else
    let start := (s.segmentMap seg).segmentStart
    let ((status, data), h) := hal.readSegment seg start (start + segmentOffset) dataSize s.hal
    let s := { s with hal := h }
    if status ≠ .noError then ((status, data), s)
    else
      let (status, s) := s.halClose hal seg
      ((status, data), s)

def writeBlocks (segStart : UInt64) : Nat → UInt64 → List UInt8 → Storage σ →
    LonStatusCode × Storage σ
  | 0, _, _, s => (.noError, s)
  | n + 1, nextOffset, data, s =>
    if data = [] then (.noError, s)
    else
      let blockDataSize := (s.storageBlockSize - nextOffset % s.storageBlockSize).toNat
      let sizeToWrite := if blockDataSize < data.length then blockDataSize else data.length
      let (status, h) := hal.writeSegment seg (data.take sizeToWrite) segStart nextOffset s.hal
      let s := { s with hal := h }
      if status ≠ .noError then (status, s)
      else writeBlocks segStart n (nextOffset + .ofNat sizeToWrite) (data.drop sizeToWrite) s

def izotStorageWriteSeg (uninit : EraseInfo) (segmentOffset : UInt64) (data : List UInt8) :
    LonStatusCode × Storage σ :=
  let (status, s) := s.openStorageSegment hal getMaxSize seg uninit
  if status ≠ .noError then (status, s)
  else
    let start := (s.segmentMap seg).segmentStart
    let (status, s) := writeBlocks hal seg start data.length (segmentOffset + start) data s
    if status ≠ .noError then (status, s) else s.halClose hal seg

def izotStorageSegIsInvalid (uninit : EraseInfo) : Bool × Storage σ :=
  let (status, s) := s.openStorageSegment hal getMaxSize seg uninit
  if status ≠ .noError then (true, s)
  else
    let m := s.segmentMap seg
    let ((status, data), h) :=
      hal.readSegment seg m.segmentStart m.txOffset sizeofTransactionRecord s.hal
    let s := { s with hal := h }
    if status ≠ .noError then (true, s)
    else
      let (status, s) := s.halClose hal seg
      (if status ≠ .noError then true else !(TransactionRecord.ofBytes data).valid, s)

/-- Writes the transaction record. The segment is closed even if that fails. -/
def writeRecord (uninit : EraseInfo) (r : TransactionRecord) : LonStatusCode × Storage σ :=
  let (status, s) := s.openStorageSegment hal getMaxSize seg uninit
  if status ≠ .noError then (status, s)
  else
    let m := s.segmentMap seg
    let (_, h) := hal.writeSegment seg r.bytes m.segmentStart m.txOffset s.hal
    { s with hal := h }.halClose hal seg

def izotStorageStartSegUpdate (uninit : EraseInfo) : LonStatusCode × Storage σ :=
  s.writeRecord hal getMaxSize seg uninit ⟨TX_SIGNATURE, TX_DATA_INVALID⟩

def izotStorageFinishSegUpdate (uninit : EraseInfo) : LonStatusCode × Storage σ :=
  s.writeRecord hal getMaxSize seg uninit ⟨TX_SIGNATURE, TX_DATA_VALID⟩

def erasePersistentAppData : LonStatusCode × Storage σ :=
  s.prepareStorageSegment hal .applicationData (s.segmentMap .applicationData).maxDataSize

def erasePersistentNetworkConfig : LonStatusCode × Storage σ :=
  s.prepareStorageSegment hal .networkImage (s.segmentMap .networkImage).maxDataSize

end Storage

end LonStack
