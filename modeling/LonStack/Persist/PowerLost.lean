import LonStack.Persist.PowerCut

namespace LonStack

open Lib

namespace LinuxHal

variable {h : LinuxHal} {seg : IzotPersistentSegType} {f : OsFile} {bytes : List UInt8}
  {maxDataSize segStart start size fileStart : UInt64} {value : UInt8}

theorem exists_halInitStorage (hhealthy : h.persistentMemError = .noError)
    (faults : List (Option Nat)) :
    ∃ faults', (h.withFaults faults').halInitStorage = (.noError, h.initialized.withFaults faults) := by
  by_cases hinit : h.persistentMemInitialized = true
  case pos =>
    refine ⟨faults, ?_⟩
    rw [halInitStorage, guarded_eq (h := h.withFaults faults) hhealthy]
    refine (if_pos hinit).trans ?_
    exact congrArg (fun b => (LonStatusCode.noError,
      { h.withFaults faults with persistentMemInitialized := b })) hinit
  case neg =>
    refine ⟨none :: faults, ?_⟩
    rw [halInitStorage, guarded_eq (h := h.withFaults (none :: faults)) hhealthy]
    refine (if_neg hinit).trans ?_
    exact if_pos rfl

theorem exists_halOpenStorageSegment (hhealthy : h.persistentMemError = .noError)
    (faults : List (Option Nat)) :
    ∃ faults', (h.withFaults faults').halOpenStorageSegment seg maxDataSize =
      (.noError, (h.opened seg maxDataSize).withFaults faults) := by
  cases hfd : h.storageFd seg with
  | some d =>
    refine ⟨faults, ?_⟩
    have hsome : ((h.withFaults faults).storageFd seg).isSome = true := by
      change (h.storageFd seg).isSome = true
      rw [hfd]
      rfl
    rw [halOpenStorageSegment, guarded_eq (h := h.withFaults faults) hhealthy, if_pos hsome,
      opened_of_some hfd]
  | none =>
    refine ⟨none :: faults, ?_⟩
    have hnone : ¬((h.withFaults (none :: faults)).storageFd seg).isSome = true := by
      change ¬(h.storageFd seg).isSome = true
      rw [hfd]
      exact Bool.false_ne_true
    rw [halOpenStorageSegment, guarded_eq (h := h.withFaults (none :: faults)) hhealthy,
      if_neg hnone, opened_of_none hfd]
    exact if_pos rfl

theorem transfer_lost (hfile : h.file seg = some f) (hkind : h.os.kind f ≠ .stream)
    (hstart : fileStart.toNat < 2 ^ 63) (k : Nat) :
    ((h.withFaults [some k]).transfer seg fileStart bytes).2.Lost
      (h.os.writeAt f fileStart.toNat (bytes.take k)) := by
  have hfile' : (h.withFaults [some k]).file seg = some f := hfile
  have hgood : ¬((h.withFaults [some k]).os.kind f = .stream ∨ 2 ^ 63 ≤ fileStart.toNat) :=
    not_or.mpr ⟨hkind, Nat.not_le_of_lt hstart⟩
  unfold transfer
  rw [hfile']
  dsimp only
  rw [if_neg hgood]
  exact ⟨nofun, rfl⟩

theorem halWriteStorageSegment_lost (hhealthy : h.persistentMemError = .noError)
    (hfile : h.file seg = some f) (hkind : h.os.kind f ≠ .stream)
    (hlt : (start - segStart).toNat < 2 ^ 63) (k : Nat) :
    ((h.withFaults [some k]).halWriteStorageSegment seg bytes segStart start).2.Lost
      (h.os.writeAt f (start - segStart).toNat (bytes.take k)) := by
  rw [halWriteStorageSegment, guarded_eq (h := h.withFaults [some k]) hhealthy]
  exact transfer_lost hfile hkind hlt k

theorem halPrepareStorageSegment_lost (hhealthy : h.persistentMemError = .noError)
    (hfile : h.file seg = some f) (hkind : h.os.kind f ≠ .stream)
    (hlt : (segStart - start).toNat < 2 ^ 63) (k : Nat) :
    ((h.withFaults [some k]).halPrepareStorageSegment seg segStart start size value).2.Lost
      (h.os.writeAt f (segStart - start).toNat ((List.replicate size.toNat value).take k)) := by
  rw [halPrepareStorageSegment, guarded_eq (h := h.withFaults [some k]) hhealthy]
  exact transfer_lost hfile hkind hlt k

theorem halWriteStorageSegment_done (hhealthy : h.persistentMemError = .noError)
    (hfile : h.file seg = some f) (hkind : h.os.kind f ≠ .stream)
    (hlt : (start - segStart).toNat < 2 ^ 63) (faults : List (Option Nat)) :
    (h.withFaults (none :: faults)).halWriteStorageSegment seg bytes segStart start =
      (.noError, (h.written f (start - segStart).toNat bytes).withFaults faults) := by
  rw [halWriteStorageSegment, guarded_eq (h := h.withFaults (none :: faults)) hhealthy]
  exact transfer_of_fault (h := h.withFaults (none :: faults)) hfile hkind hlt rfl

end LinuxHal

namespace Storage

variable {getMaxSize : IzotPersistentSegType → UInt32} {uninits : IzotPersistentSegType → EraseInfo}
  {appSignature : UInt32} {images : SegImages} {image : List UInt8} {seg : IzotPersistentSegType}
  {uninit : EraseInfo} {s : Storage LinuxHal} {n : Nat}

theorem exists_openStorageSegment (hhealthy : s.hal.persistentMemError = .noError)
    (faults : List (Option Nat)) :
    ∃ faults', (s.withFaults faults').openStorageSegment linuxHal getMaxSize seg uninit =
      (.noError, (s.opened getMaxSize seg uninit).withFaults faults) := by
  obtain ⟨faults', hopen⟩ := @LinuxHal.exists_halOpenStorageSegment s.hal.initialized seg
    ((s.mapped getMaxSize seg uninit).fileSize seg) hhealthy faults
  obtain ⟨faults'', hinit⟩ := LinuxHal.exists_halInitStorage hhealthy faults'
  have hmap : initSegmentMap linuxHal getMaxSize seg
      { s with hal := s.hal.initialized.withFaults faults' } uninit =
      (.noError, { s.mapped getMaxSize seg uninit with
        hal := s.hal.initialized.withFaults faults' }) := by
    rw [← mapped_withHal]
    exact initSegmentMap_eq hhealthy
  have hopened := openStorageSegment_of_eq (s := s.withFaults faults'') hinit hmap hopen
  exact ⟨faults'', hopened⟩

theorem exists_writeRecord (hmap : s.MapSound getMaxSize) (hmax : (getMaxSize seg).toNat + 24 < 2 ^ 31)
    (hw : s.hal.Working) (husable : s.hal.Usable seg) (r : TransactionRecord)
    (faults : List (Option Nat)) :
    ∃ faults', (s.withFaults faults').writeRecord linuxHal getMaxSize seg uninit r =
      (.noError, (s.writeRecord linuxHal getMaxSize seg uninit r).2.withFaults faults) := by
  obtain ⟨f, hfile, heq⟩ := @writeRecord_eq getMaxSize seg uninit s hmap hmax hw husable r
  obtain ⟨f', hfile', hkind⟩ := @exists_file_opened getMaxSize seg uninit s husable
  obtain rfl : f = f' := Option.some.inj (hfile.symm.trans hfile')
  have htx := @tx_opened getMaxSize seg uninit s hmap hmax
  obtain ⟨faults', hopen⟩ := @exists_openStorageSegment getMaxSize seg uninit s hw.healthy
    (none :: faults)
  have hw' := @working_opened getMaxSize seg uninit s hw
  refine ⟨faults', ?_⟩
  rw [heq]
  generalize s.opened getMaxSize seg uninit = t at *
  have hzero : ((t.segmentMap seg).txOffset - (t.segmentMap seg).segmentStart).toNat = 0 := by
    rw [htx, UInt64.sub_self]
    rfl
  have hwrite := @LinuxHal.halWriteStorageSegment_done t.hal seg f r.bytes
    (t.segmentMap seg).segmentStart (t.segmentMap seg).txOffset hw'.healthy hfile hkind
    (by rw [hzero]; decide) faults
  rw [hzero] at hwrite
  have hclose := @halClose_withFaults seg { t with hal := t.hal.written f 0 r.bytes } hw'.healthy
    faults
  unfold writeRecord
  simp only [hopen, ne_eq, not_true, if_false]
  change halClose linuxHal seg { t with hal := ((t.hal.withFaults (none :: faults)).halWriteStorageSegment
    seg r.bytes (t.segmentMap seg).segmentStart (t.segmentMap seg).txOffset).2 } = _
  rw [hwrite]
  exact hclose

theorem exists_writeRecord_lost (hmap : s.MapSound getMaxSize)
    (hmax : (getMaxSize seg).toNat + 24 < 2 ^ 31) (hw : s.hal.Working) (husable : s.hal.Usable seg)
    (r : TransactionRecord) (k : Nat) {f : OsFile}
    (hfile : (s.opened getMaxSize seg uninit).hal.file seg = some f) :
    ∃ faults, ((s.withFaults faults).writeRecord linuxHal getMaxSize seg uninit r).2.hal.Lost
      ((s.opened getMaxSize seg uninit).hal.os.writeAt f 0 (r.bytes.take k)) := by
  obtain ⟨f', hfile', hkind⟩ := @exists_file_opened getMaxSize seg uninit s husable
  obtain rfl : f = f' := Option.some.inj (hfile.symm.trans hfile')
  have htx := @tx_opened getMaxSize seg uninit s hmap hmax
  obtain ⟨faults', hopen⟩ := @exists_openStorageSegment getMaxSize seg uninit s hw.healthy [some k]
  have hw' := @working_opened getMaxSize seg uninit s hw
  refine ⟨faults', ?_⟩
  generalize s.opened getMaxSize seg uninit = t at *
  have hzero : ((t.segmentMap seg).txOffset - (t.segmentMap seg).segmentStart).toNat = 0 := by
    rw [htx, UInt64.sub_self]
    rfl
  have hwrite := @LinuxHal.halWriteStorageSegment_lost t.hal seg f r.bytes
    (t.segmentMap seg).segmentStart (t.segmentMap seg).txOffset hw'.healthy hfile hkind
    (by rw [hzero]; decide) k
  rw [hzero] at hwrite
  have hclose := @halClose_of_error seg { t with hal :=
    ((t.hal.withFaults [some k]).halWriteStorageSegment seg r.bytes
      (t.segmentMap seg).segmentStart (t.segmentMap seg).txOffset).2 } hwrite.error
  unfold writeRecord
  simp only [hopen, ne_eq, not_true, if_false]
  change (halClose linuxHal seg { t with hal := ((t.hal.withFaults [some k]).halWriteStorageSegment
    seg r.bytes (t.segmentMap seg).segmentStart (t.segmentMap seg).txOffset).2 }).2.hal.Lost _
  rw [hclose]
  exact hwrite

theorem exists_openForWrite_lost (h : s.Closed getMaxSize seg) {dataSize : UInt64}
    (hle : dataSize ≤ (s.segmentMap seg).maxDataSize)
    (hfits : (s.segmentMap seg).erase.eraseRequired = true →
      dataSize.toNat + 8 ≤ BLOCK_SIZE.toNat) (hlt : dataSize.toNat < 2 ^ 32) (k : Nat) :
    ∃ faults s', (s.withFaults faults).izotStorageOpenSegForWrite linuxHal getMaxSize seg uninit
        dataSize = (none, s') ∧
      s'.hal.Lost ((s.opened getMaxSize seg uninit).hal.os.writeAt (.segment seg) 0
        ((s.erasedBytes seg).take k)) := by
  obtain ⟨faults, hopen⟩ := @exists_openStorageSegment getMaxSize seg uninit s h.working.healthy [some k]
  have hopened := @opened_of_settled getMaxSize seg uninit s h.settled
  have hw' := @working_opened getMaxSize seg uninit s h.working
  have hfile := @file_opened getMaxSize seg uninit s h.closed
  have hsize : (dataSize + sizeofTransactionRecord).toNat = dataSize.toNat + 8 := by
    rw [UInt64.toNat_add]
    change (dataSize.toNat + 8) % 2 ^ 64 = _
    omega
  have hle' : dataSize ≤ ((s.opened getMaxSize seg uninit).segmentMap seg).maxDataSize := by
    rw [hopened]
    exact hle
  have herased : (s.opened getMaxSize seg uninit).erasedBytes seg = s.erasedBytes seg := by
    rw [hopened]
    rfl
  have hblock : (s.opened getMaxSize seg uninit).storageBlockSize = BLOCK_SIZE := by
    rw [hopened]
    exact h.map.block.resolve_left h.settled.1
  have hfits' : ((s.opened getMaxSize seg uninit).segmentMap seg).erase.eraseRequired = true →
      0 < (dataSize + sizeofTransactionRecord).toNat ∧
        (dataSize + sizeofTransactionRecord).toNat ≤ BLOCK_SIZE.toNat := by
    rw [hopened, hsize]
    exact fun hreq => ⟨by omega, hfits hreq⟩
  rw [← herased]
  generalize s.opened getMaxSize seg uninit = t at *
  have hzero := toNat_sub_start seg t
  obtain ⟨size', hsize', heq⟩ := prepareStorageSegment_single (s := t.withFaults [some k]) hblock hfits'
  have hlost := @LinuxHal.halPrepareStorageSegment_lost t.hal seg (.segment seg)
    (t.segmentMap seg).segmentStart (t.segmentMap seg).segmentStart size'
    (t.segmentMap seg).erase.eraseValue hw'.healthy hfile (LinuxHal.kind_segment _ seg)
    (by rw [hzero]; decide) k
  have hblockSize : size'.toNat = t.eraseBlock seg := hsize'
  rw [hzero, hblockSize] at hlost
  have hprepare : (t.withFaults [some k]).prepareStorageSegment linuxHal seg
      (dataSize + sizeofTransactionRecord) = (_, { t with hal :=
        ((t.hal.withFaults [some k]).halPrepareStorageSegment seg (t.segmentMap seg).segmentStart
          (t.segmentMap seg).segmentStart size' (t.segmentMap seg).erase.eraseValue).2 }) := heq _ rfl
  refine ⟨faults, { t with hal := ((t.hal.withFaults [some k]).halPrepareStorageSegment seg
    (t.segmentMap seg).segmentStart (t.segmentMap seg).segmentStart size'
    (t.segmentMap seg).erase.eraseValue).2 }, ?_, hlost⟩
  have hclose := @halClose_of_error seg { t with hal :=
    ((t.hal.withFaults [some k]).halPrepareStorageSegment seg (t.segmentMap seg).segmentStart
      (t.segmentMap seg).segmentStart size' (t.segmentMap seg).erase.eraseValue).2 } hlost.error
  have hroom : dataSize ≤ ((t.withFaults [some k]).segmentMap seg).maxDataSize := hle'
  unfold izotStorageOpenSegForWrite
  simp only [hopen, ne_eq, not_true, if_false, if_pos hroom, hprepare, hclose, if_neg hlost.error]

end Storage

end LonStack
