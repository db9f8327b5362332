import LonStack.Persist.EraseReady

namespace LonStack

open Lib

abbrev sizeofIsiPersist : Nat := 12

/-- The count of devices is there in builds for test images only. Of the `int` that the boot type is,
16 bits are stored. -/
structure IsiPersist where
  devices : Option UInt8
  nuid : UInt8
  serial : UInt16
  bootType : UInt16
  repeatCount : UInt8
  deriving DecidableEq, Repr

structure IsiData where
  persist : IsiPersist
  connections : List UInt8
  deriving DecidableEq, Repr

inductive LtPersistenceLossReason
  | corruption
  | programIdChange
  | signatureMismatch
  | programAttributeChange
  | persistentWriteFailure
  | noPersistence
  | resetDuringUpdate
  | versionNotSupported
  | persistenceOk
  deriving DecidableEq, Repr

def ptons (a : UInt16) : List UInt8 := [(a >>> 8).toUInt8, a.toUInt8]

def ptohs (p : List UInt8) (k : Nat) : UInt16 :=
  (p.getD k 0).toUInt16 <<< 8 + (p.getD (k + 1) 0).toUInt16

def IsiPersist.fields (p : IsiPersist) : List UInt8 :=
  p.devices.toList ++ [p.nuid] ++ ptons p.serial ++ ptons p.bootType ++ [p.repeatCount]

/-- The image is as long as the structure, and filled up with zeros. -/
def serializeIsiNvdSegPersistentData (p : IsiPersist) : List UInt8 :=
  p.fields ++ List.replicate (sizeofIsiPersist - p.fields.length) 0

/-- The boot type is not read. -/
def deserializeIsiNvdSegData (pBuffer : List UInt8) (held : IsiPersist) :
    LtPersistenceLossReason × IsiPersist :=
  if sizeofIsiPersist ≤ pBuffer.length then
    let pBuf := held.devices.toList.length
    (.persistenceOk,
      { held with
        devices := held.devices.map fun _ => pBuffer.getD 0 0
        nuid := pBuffer.getD pBuf 0
        serial := ptohs pBuffer (pBuf + 1)
        repeatCount := pBuffer.getD (pBuf + 3) 0 })
  else (.corruption, held)

def deserializeIsiNvdSegConnectionTable (pBuffer held : List UInt8) :
    LtPersistenceLossReason × List UInt8 :=
  if (UInt32.ofNat held.length).toInt32 ≤ (UInt32.ofNat pBuffer.length).toInt32 then
    (.persistenceOk, pBuffer.take held.length)
  else (.programAttributeChange, held)

theorem ptohs_ptons (a : UInt16) :
    (a >>> 8).toUInt8.toUInt16 <<< 8 + a.toUInt8.toUInt16 = a := by
  have hlt := a.toNat_lt
  have height : (8 : UInt16).toNat % 16 = 8 := rfl
  rw [← UInt16.toNat_inj]
  simp only [UInt16.toNat_add, UInt16.toNat_shiftLeft, UInt8.toNat_toUInt16, UInt16.toNat_toUInt8,
    UInt16.toNat_shiftRight]
  rw [height, Nat.shiftRight_eq_div_pow, Nat.shiftLeft_eq]
  omega

/-- The boot type stays as it is, and its upper byte is taken for the repeat count. -/
theorem deserialize_serialize {held data : IsiPersist}
    (hbuild : held.devices.isSome = data.devices.isSome) :
    deserializeIsiNvdSegData (serializeIsiNvdSegPersistentData data) held =
      (.persistenceOk, { data with
        bootType := held.bootType
        repeatCount := (data.bootType >>> 8).toUInt8 }) := by
  obtain ⟨devices, nuid, serial, bootType, repeatCount⟩ := data
  obtain ⟨devices', nuid', serial', bootType', repeatCount'⟩ := held
  cases devices with
  | none =>
    cases devices' with
    | none => exact congrArg (fun a => (_, IsiPersist.mk _ _ a _ _)) (ptohs_ptons serial)
    | some _ => cases hbuild
  | some _ =>
    cases devices' with
    | none => cases hbuild
    | some _ => exact congrArg (fun a => (_, IsiPersist.mk _ _ a _ _)) (ptohs_ptons serial)

theorem deserialize_connections {held data : List UInt8} (hlength : held.length = data.length) :
    deserializeIsiNvdSegConnectionTable data held = (.persistenceOk, data) := by
  rw [deserializeIsiNvdSegConnectionTable, hlength, if_pos Int32.le_rfl, List.take_length]

def IsiData.serialize (data : IsiData) : IzotPersistentSegType → Option (List UInt8)
  | .connectionTable => some data.connections
  | .isi => some (serializeIsiNvdSegPersistentData data.persist)
  | _ => none

def IsiData.deserialize (held : IsiData) (pBuffer : List UInt8) :
    IzotPersistentSegType → LtPersistenceLossReason × IsiData
  | .connectionTable =>
    let (reason, connections) := deserializeIsiNvdSegConnectionTable pBuffer held.connections
    (reason, { held with connections := connections })
  | .isi =>
    let (reason, persist) := deserializeIsiNvdSegData pBuffer held.persist
    (reason, { held with persist := persist })
  | _ => (.persistenceOk, held)

section

variable {τ : Type} (H : SegHandlers τ) (computeChecksum : List UInt8 → UInt16)
  (appSignature : UInt32) (persistentSegType : IzotPersistentSegType)

def isiHeader (image : List UInt8) : IzotPersistenceHeader where
  length := .ofNat image.length
  isiSignature := ISI_IMAGE_SIGNATURE0
  appSignature := appSignature
  version := CURRENT_VERSION
  checksum := computeChecksum image

/-- There is no transaction, and the header is written to the start of the segment. -/
def savePersistentData (data : IsiData) (s : τ) : τ :=
  match data.serialize persistentSegType with
  | none => s
  | some image =>
    let hdr := isiHeader computeChecksum appSignature image
    let (returnedSegType, s) := H.openForWrite persistentSegType
      (sizeofPersistenceHeader.toUInt64 + hdr.length.toUInt64) s
    match returnedSegType with
    | none => s
    | some seg =>
      let (status, s) := H.write seg 0 hdr.bytes s
      if status ≠ .noError then s
      else (H.write seg sizeofPersistenceHeader.toUInt64 (image.take hdr.length.toNat) s).2

def restorePersistentData (held : IsiData) (s : τ) : (LtPersistenceLossReason × IsiData) × τ :=
  let (returnedSegType, s) := H.openForRead persistentSegType s
  match returnedSegType with
  | none => ((.noPersistence, held), s)
  | some seg =>
    let ((status, bytes), s) := H.read seg 0 sizeofPersistenceHeader.toUInt64 s
    let hdr := IzotPersistenceHeader.ofBytes bytes
    if status ≠ .noError then ((.corruption, held), s)
    else if hdr.isiSignature ≠ ISI_IMAGE_SIGNATURE0 then ((.signatureMismatch, held), s)
    else if hdr.appSignature ≠ appSignature then ((.signatureMismatch, held), s)
    else if CURRENT_VERSION < hdr.version then ((.versionNotSupported, held), s)
    else
      let ((status, image), s) :=
        H.read seg sizeofPersistenceHeader.toUInt64 hdr.length.toUInt64 s
      if status ≠ .noError ∨ validatePersistenceChecksum appSignature hdr image = false then
        ((.corruption, held), s)
      else (held.deserialize image persistentSegType, s)

end

structure IsiData.SameBuild (held data : IsiData) : Prop where
  devices : held.persist.devices.isSome = data.persist.devices.isSome
  connections : held.connections.length = data.connections.length

def IsiData.replaced (held data : IsiData) : IzotPersistentSegType → IsiData
  | .connectionTable => { held with connections := data.connections }
  | .isi => { held with persist := data.persist }
  | _ => held

namespace Storage

section

variable (getMaxSize : IzotPersistentSegType → UInt32) (uninits : IzotPersistentSegType → EraseInfo)
  (computeChecksum : List UInt8 → UInt16) (appSignature : UInt32) (seg : IzotPersistentSegType)

def saved (data : IsiData) (s : Storage LinuxHal) : Storage LinuxHal :=
  savePersistentData (handlers linuxHal getMaxSize uninits) computeChecksum appSignature seg data s

def restored (held : IsiData) (s : Storage LinuxHal) : LtPersistenceLossReason × IsiData :=
  (restorePersistentData (handlers linuxHal getMaxSize uninits) appSignature seg held s).1

/-- What has been saved is restored, whatever the memory holds by then. The segment that has been saved
does not look as if it were being updated, and no other one does because of it. -/
structure Survives (data : IsiData) (s : Storage LinuxHal) : Prop where
  restores : ∀ held : IsiData, held.SameBuild data →
    restored getMaxSize uninits appSignature seg held
        (s.saved getMaxSize uninits computeChecksum appSignature seg data) =
      (.persistenceOk, held.replaced data seg)
  valid : (s.saved getMaxSize uninits computeChecksum appSignature seg data).reportsInvalid getMaxSize
    uninits seg = false
  others : ∀ other, other ≠ seg →
    (s.saved getMaxSize uninits computeChecksum appSignature seg data).reportsInvalid getMaxSize
        uninits other = true →
      s.reportsInvalid getMaxSize uninits other = true

end

section

variable {getMaxSize : IzotPersistentSegType → UInt32} {uninits : IzotPersistentSegType → EraseInfo}
  {computeChecksum : List UInt8 → UInt16} {appSignature : UInt32} {seg : IzotPersistentSegType}
  {s s' : Storage LinuxHal} {uninit : EraseInfo}

structure HalOpen (seg : IzotPersistentSegType) (h : LinuxHal) : Prop where
  healthy : h.persistentMemError = .noError
  initialized : h.persistentMemInitialized = true
  opened : h.storageFd seg ≠ none

theorem halInitStorage_initialized {h h' : LinuxHal} (heq : h.halInitStorage = (.noError, h')) :
    h'.persistentMemError = .noError ∧ h'.persistentMemInitialized = true := by
  refine ⟨halInitStorage_healthy heq, ?_⟩
  unfold LinuxHal.halInitStorage LinuxHal.guarded at heq
  split at heq
  next herror => exact absurd (congrArg Prod.fst heq) herror
  next =>
    dsimp only at heq
    split at heq
    next hinit =>
      rw [← (Prod.mk.inj heq).2]
      exact hinit
    next =>
      split at heq
      next =>
        rw [← (Prod.mk.inj heq).2]
      next => exact absurd (congrArg Prod.fst heq) nofun

theorem halOpenStorageSegment_open {h h' : LinuxHal} {size : UInt64}
    (hhealthy : h.persistentMemError = .noError) (hinit : h.persistentMemInitialized = true)
    (heq : h.halOpenStorageSegment seg size = (.noError, h')) : HalOpen seg h' := by
  rw [LinuxHal.halOpenStorageSegment, LinuxHal.guarded_eq hhealthy] at heq
  split at heq
  next hsome =>
    rw [← (Prod.mk.inj heq).2]
    exact ⟨hhealthy, hinit, Option.isSome_iff_ne_none.mp hsome⟩
  next =>
    split at heq
    next =>
      rw [← (Prod.mk.inj heq).2]
      refine ⟨hhealthy, hinit, ?_⟩
      dsimp only
      rw [Function.update_self]
      exact Option.some_ne_none _
    next => cases heq

theorem openStorageSegment_inv (hmap : s.MapSound getMaxSize)
    (hmax : (getMaxSize seg).toNat + 24 < 2 ^ 31)
    (hopen : s.openStorageSegment linuxHal getMaxSize seg uninit = (.noError, s')) :
    HalOpen seg s'.hal ∧ s'.Settled seg ∧ s'.MapSound getMaxSize := by
  unfold openStorageSegment at hopen
  generalize hinit : linuxHal.initStorage s.hal = r at hopen
  obtain ⟨status, h⟩ := r
  dsimp only at hopen
  split at hopen
  next herror => exact absurd (congrArg Prod.fst hopen) herror
  next hstatus =>
    rw [not_not] at hstatus
    subst hstatus
    obtain ⟨hhealthy, hinitialized⟩ := halInitStorage_initialized hinit
    rw [initSegmentMap_eq (s := { s with hal := h }) hhealthy, mapped_withHal] at hopen
    dsimp only at hopen
    rw [if_neg (not_not_intro rfl)] at hopen
    obtain ⟨hstatus, hs'⟩ := Prod.mk.inj hopen
    have hopened : h.halOpenStorageSegment seg
        (((s.mapped getMaxSize seg uninit).segmentMap seg).maxDataSize + sizeofTransactionRecord) =
        (.noError, (h.halOpenStorageSegment seg (((s.mapped getMaxSize seg uninit).segmentMap
          seg).maxDataSize + sizeofTransactionRecord)).2) := Prod.ext hstatus rfl
    obtain ⟨hsound, hsettled⟩ := @mapSound_mapped getMaxSize seg uninit _ s hmap hmax
    subst hs'
    exact ⟨halOpenStorageSegment_open hhealthy hinitialized hopened, hsettled,
      hsound.same ⟨rfl, rfl, rfl, rfl⟩⟩

theorem openStorageSegment_again (hopen : HalOpen seg s.hal) (hsettled : s.Settled seg) :
    s.openStorageSegment linuxHal getMaxSize seg uninit = (.noError, s) := by
  have hinit : linuxHal.initStorage s.hal = (.noError, s.hal) := by
    change s.hal.halInitStorage = _
    rw [LinuxHal.halInitStorage, LinuxHal.guarded_eq hopen.healthy, if_pos hopen.initialized]
  have hmap : initSegmentMap linuxHal getMaxSize seg { s with hal := s.hal } uninit =
      (.noError, s) :=
    (initSegmentMap_eq hopen.healthy).trans
      (congrArg (fun t => (LonStatusCode.noError, t)) (mapped_of_settled hsettled))
  have hseg : linuxHal.openSegment seg
      ((s.segmentMap seg).maxDataSize + sizeofTransactionRecord) s.hal = (.noError, s.hal) := by
    change s.hal.halOpenStorageSegment seg _ = _
    rw [LinuxHal.halOpenStorageSegment, LinuxHal.guarded_eq hopen.healthy,
      if_pos (Option.isSome_iff_ne_none.mpr hopen.opened)]
  exact openStorageSegment_of_eq hinit hmap hseg

theorem readSegment_of_le {h h' : LinuxHal} {segStart start size size' : UInt64} {data : List UInt8}
    (hread : linuxHal.readSegment seg segStart start size h = ((.noError, data), h'))
    (hle : size'.toNat ≤ size.toNat) :
    linuxHal.readSegment seg segStart start size' h = ((.noError, data.take size'.toNat), h') := by
  change h.halReadStorageSegment seg segStart start size = _ at hread
  change h.halReadStorageSegment seg segStart start size' = _
  unfold LinuxHal.halReadStorageSegment at hread ⊢
  split at hread
  next herror => exact absurd (congrArg (·.1.1) hread) herror
  next hhealthy =>
    rw [if_neg hhealthy]
    cases hfile : h.file seg with
    | none =>
      rw [hfile] at hread
      exact absurd (congrArg (·.1.1) hread) nofun
    | some f =>
      rw [hfile] at hread
      dsimp only at hread ⊢
      split at hread
      next => exact absurd (congrArg (·.1.1) hread) nofun
      next hgood =>
        obtain ⟨hkind, hrest⟩ := not_or.mp hgood
        obtain ⟨hsize, hfault⟩ := not_or.mp hrest
        have hgood' : ¬(h.os.kind f = .stream ∨
            h.os.size f < (start - segStart).toNat + size'.toNat ∨ h.fault ≠ none) :=
          not_or.mpr ⟨hkind, not_or.mpr ⟨by omega, hfault⟩⟩
        rw [if_neg hgood']
        obtain ⟨hdata, hh⟩ := Prod.mk.inj hread
        have hsplit : size.toNat = size'.toNat + (size.toNat - size'.toNat) := by omega
        rw [← hh, ← (Prod.mk.inj hdata).2, hsplit, Image.slice_add,
          List.take_left' (Image.length_slice _ _ _)]

theorem readSeg_inv {segmentOffset dataSize : UInt64} {data : List UInt8}
    (hopen : HalOpen seg s.hal) (hsettled : s.Settled seg)
    (hread : (s.izotStorageReadSeg linuxHal getMaxSize seg uninit segmentOffset dataSize).1 =
      (.noError, data)) :
    ∃ h, linuxHal.readSegment seg (s.segmentMap seg).segmentStart
      ((s.segmentMap seg).segmentStart + segmentOffset) dataSize s.hal = ((.noError, data), h) := by
  rcases hr : linuxHal.readSegment seg (s.segmentMap seg).segmentStart
    ((s.segmentMap seg).segmentStart + segmentOffset) dataSize s.hal with ⟨⟨status, data'⟩, h⟩
  unfold izotStorageReadSeg at hread
  simp only [openStorageSegment_again hopen hsettled, hr, ne_eq, not_true, if_false] at hread
  by_cases hstatus : status = .noError
  case pos =>
    subst hstatus
    rw [if_neg (not_not_intro rfl)] at hread
    exact ⟨h, congrArg (fun data => ((LonStatusCode.noError, data), h)) (Prod.mk.inj hread).2⟩
  case neg =>
    rw [if_pos hstatus] at hread
    exact absurd (Prod.mk.inj hread).1 hstatus

theorem word_take {data : List UInt8} {k n : Nat} (h : k + 4 ≤ n) :
    TransactionRecord.word (data.take n) k = TransactionRecord.word data k := by
  have hget : ∀ i < n, (data.take n).getD i 0 = data.getD i 0 := by
    intro i hi
    rw [List.getD_eq_getElem?_getD, List.getD_eq_getElem?_getD, List.getElem?_take_of_lt hi]
  rw [TransactionRecord.word, TransactionRecord.word, hget k (by omega), hget (k + 1) (by omega),
    hget (k + 2) (by omega), hget (k + 3) (by omega)]

theorem not_valid_of_header {bytes : List UInt8}
    (h : (IzotPersistenceHeader.ofBytes bytes).isiSignature = ISI_IMAGE_SIGNATURE0) :
    (TransactionRecord.ofBytes (bytes.take 8)).valid = false := by
  have hstate : (TransactionRecord.ofBytes (bytes.take 8)).txState = ISI_IMAGE_SIGNATURE0 :=
    (word_take (Nat.le_refl 8)).trans h
  rw [TransactionRecord.valid, hstate]
  exact decide_eq_false fun hvalid => absurd hvalid.2 (by decide)

theorem restored_inv {τ : Type} {H : SegHandlers τ} {held : IsiData} {t : τ}
    (hrestored : (restorePersistentData H appSignature seg held t).1.1 = .persistenceOk) :
    ∃ seg' t' bytes, H.openForRead seg t = (some seg', t') ∧
      (H.read seg' 0 sizeofPersistenceHeader.toUInt64 t').1 = (.noError, bytes) ∧
      (IzotPersistenceHeader.ofBytes bytes).isiSignature = ISI_IMAGE_SIGNATURE0 := by
  rcases hopen : H.openForRead seg t with ⟨opened, t'⟩
  cases opened with
  | none =>
    simp only [restorePersistentData, hopen, reduceCtorEq] at hrestored
  | some seg' =>
    rcases hread : H.read seg' 0 sizeofPersistenceHeader.toUInt64 t' with ⟨⟨status, bytes⟩, t''⟩
    refine ⟨seg', t', bytes, rfl, ?_⟩
    rw [hread]
    simp only [restorePersistentData, hopen, hread] at hrestored
    split at hrestored
    next => cases hrestored
    next hstatus =>
      rw [not_not] at hstatus
      subst hstatus
      split at hrestored
      next => cases hrestored
      next hsignature => exact ⟨rfl, not_not.mp hsignature⟩

theorem reportsInvalid_of_restored {held : IsiData} (hmap : s.MapSound getMaxSize)
    (hmax : (getMaxSize seg).toNat + 24 < 2 ^ 31)
    (hrestored : (restored getMaxSize uninits appSignature seg held s).1 = .persistenceOk) :
    s.reportsInvalid getMaxSize uninits seg = true := by
  obtain ⟨seg', s', bytes, hopenRead, hread, hsignature⟩ := restored_inv hrestored
  change s.izotStorageOpenSegForRead linuxHal getMaxSize seg (uninits seg) = _ at hopenRead
  generalize hopen : s.openStorageSegment linuxHal getMaxSize seg (uninits seg) = r
  obtain ⟨status, t⟩ := r
  rw [izotStorageOpenSegForRead, hopen] at hopenRead
  obtain ⟨hsome, rfl⟩ := Prod.mk.inj hopenRead
  obtain ⟨hstatus, hseg⟩ : status = .noError ∧ seg = seg' := by
    split at hsome
    next hstatus => exact ⟨hstatus, Option.some.inj hsome⟩
    next => cases hsome
  subst hstatus hseg
  obtain ⟨halOpen, hsettled, hsound⟩ := openStorageSegment_inv hmap hmax hopen
  obtain ⟨h, hheader⟩ := readSeg_inv halOpen hsettled hread
  have htx : (t.segmentMap seg).segmentStart + 0 = (t.segmentMap seg).txOffset := by
    rw [hsound.tx seg, UInt64.add_zero]
  rw [htx] at hheader
  have hrecord := @readSegment_of_le seg _ _ _ _ _ sizeofTransactionRecord _ hheader (by decide)
  have hvalid := not_valid_of_header hsignature
  have height : sizeofTransactionRecord.toNat = 8 := rfl
  rw [height] at hrecord
  unfold reportsInvalid izotStorageSegIsInvalid
  simp only [hopen, hrecord, hvalid, ne_eq, not_true, if_false, Bool.not_false, ite_self]

theorem savePersistentData_keeps {τ : Type} {H : SegHandlers τ} {P : τ → Prop}
    (hopen : ∀ seg size t, P t → P (H.openForWrite seg size t).2)
    (hwrite : ∀ seg offset bytes t, P t → P (H.write seg offset bytes t).2) {data : IsiData} {t : τ}
    (ht : P t) : P (savePersistentData H computeChecksum appSignature seg data t) := by
  unfold savePersistentData
  cases data.serialize seg with
  | none => exact ht
  | some image =>
    have hopened := hopen seg (sizeofPersistenceHeader.toUInt64 +
      (isiHeader computeChecksum appSignature image).length.toUInt64) t ht
    rcases hr : H.openForWrite seg (sizeofPersistenceHeader.toUInt64 +
      (isiHeader computeChecksum appSignature image).length.toUInt64) t with ⟨opened, t'⟩
    rw [hr] at hopened
    cases opened with
    | none =>
      simp only [hr]
      exact hopened
    | some seg' =>
      simp only [hr]
      have hheader := hwrite seg' 0 (isiHeader computeChecksum appSignature image).bytes t' hopened
      split
      next => exact hheader
      next => exact hwrite seg' _ _ _ hheader

theorem mapSound_saved (hmax : ∀ seg, (getMaxSize seg).toNat + 24 < 2 ^ 31) {data : IsiData}
    (hmap : s.MapSound getMaxSize) :
    (s.saved getMaxSize uninits computeChecksum appSignature seg data).MapSound getMaxSize :=
  savePersistentData_keeps (P := MapSound getMaxSize)
    (fun seg size _ ht => mapSound_access hmax ⟨seg, uninits seg, .openForWrite size⟩ ht)
    (fun seg offset bytes _ ht => mapSound_access hmax ⟨seg, uninits seg, .write offset bytes⟩ ht)
    hmap

theorem not_survives_of_mapSound (hmap : s.MapSound getMaxSize)
    (hmax : ∀ seg, (getMaxSize seg).toNat + 24 < 2 ^ 31) (data : IsiData) :
    ¬Survives getMaxSize uninits computeChecksum appSignature seg data s := by
  intro hsurvives
  have hrestored := congrArg Prod.fst (hsurvives.restores data ⟨rfl, rfl⟩)
  have hinvalid := reportsInvalid_of_restored (mapSound_saved hmax hmap) (hmax seg) hrestored
  exact Bool.noConfusion (hsurvives.valid.symm.trans hinvalid)

/-- In no state that the storage reaches does what is saved survive. -/
theorem not_survives (hmax : ∀ seg, (getMaxSize seg).toNat + 24 < 2 ^ 31) {h : LinuxHal}
    {history : List (Storage LinuxHal × LinuxEvent)}
    (hrun : Run (linuxStep getMaxSize) (init h) history s) (data : IsiData) :
    ¬Survives getMaxSize uninits computeChecksum appSignature seg data s :=
  not_survives_of_mapSound (mapSound_of_run hmax hrun) hmax data

def startData : IsiData := ⟨⟨none, 0, 1, 1, 3⟩, []⟩

theorem not_survives_connections :
    ¬Survives (fun _ => 3) (fun _ => ⟨false, 0⟩) (fun _ => 0) 7 .connectionTable
      { startData with connections := [1, 2, 3] }
      ((init daemonHal).access linuxHal (fun _ => 3) ⟨.connectionTable, ⟨false, 0⟩, .isInvalid⟩) :=
  not_survives (fun _ => by decide)
    (.next (.access ⟨.connectionTable, ⟨false, 0⟩, .isInvalid⟩) .refl) _

theorem not_survives_started :
    ¬Survives (fun _ => 12) (fun _ => ⟨false, 0⟩) (fun _ => 0) 7 .isi startData
      ((init daemonHal).access linuxHal (fun _ => 12) ⟨.isi, ⟨false, 0⟩, .isInvalid⟩) := by
  intro hsurvives
  have hrestores := hsurvives.restores startData ⟨rfl, rfl⟩
  exact absurd hrestores (by decide +kernel)

end

end Storage

end LonStack
