import LonStack.Lib.Cut
import LonStack.Persist.EraseReady

namespace LonStack

open Lib

namespace OsFileContent

def padded (c : OsFileContent) : Image := c.data.front c.size

variable {c : OsFileContent} {n offset k : Nat} {bytes : List UInt8}

@[simp] theorem padded_truncate : (c.truncate n).padded = c.padded.front n := rfl

theorem padded_writeAt : (c.writeAt offset bytes).padded = c.padded.write offset bytes := by
  obtain ⟨c', hc', hpadded, hsize⟩ : ∃ c' : OsFileContent, c.writeAt offset bytes =
      ⟨max c'.size (offset + bytes.length), c'.data.write offset bytes⟩ ∧ c'.padded = c.padded ∧
      offset ≤ c'.size := by
    by_cases hlt : c.size < offset
    case pos =>
      refine ⟨c.truncate offset, ?_, ?_, Nat.le_refl _⟩
      · rw [writeAt, if_pos hlt]
      · funext k
        rw [padded_truncate, padded, Image.front, Image.front]
        by_cases hk : k < offset
        case pos => rw [if_pos hk]
        case neg => rw [if_neg hk, if_neg (by omega)]
    case neg => exact ⟨c, by rw [writeAt, if_neg hlt], rfl, Nat.le_of_not_lt hlt⟩
  rw [hc', ← hpadded]
  funext k
  rw [padded]
  dsimp only
  by_cases hlt : k < offset
  case pos =>
    rw [Image.front_of_lt (by omega), Image.write_of_lt _ _ hlt, Image.write_of_lt _ _ hlt, padded,
      Image.front_of_lt (by omega)]
  case neg =>
    obtain ⟨i, rfl⟩ := Nat.exists_eq_add_of_le (Nat.le_of_not_lt hlt)
    by_cases hi : i < bytes.length
    case pos =>
      rw [Image.front_of_lt (by omega), Image.write_of_mem _ _ hi, Image.write_of_mem _ _ hi]
    case neg =>
      have hsame : (offset + i < max c'.size (offset + bytes.length)) ↔ offset + i < c'.size := by
        omega
      rw [Image.write_of_le _ _ (by omega), Image.front, padded, Image.front,
        Image.write_of_le _ _ (by omega)]
      simp only [hsame]

def image (c : OsFileContent) (n : Nat) : Image := c.padded.front n

@[simp] theorem image_truncate : (c.truncate n).image n = c.image n := by
  funext k
  rw [image, padded_truncate, image, Image.front, Image.front]
  split
  next h => rfl
  next => rfl

theorem image_writeAt (hle : offset ≤ n) :
    (c.writeAt offset bytes).image n = (c.image n).write offset (bytes.take (n - offset)) := by
  rw [image, padded_writeAt, Image.front_write hle, image]

end OsFileContent

def Quiet (n : Nat) (faults : List (Option Nat)) : Prop := ∀ x ∈ faults.take n, x = none

instance (n : Nat) (faults : List (Option Nat)) : Decidable (Quiet n faults) :=
  inferInstanceAs (Decidable (∀ x ∈ _, _))

theorem quiet_zero (faults : List (Option Nat)) : Quiet 0 faults := fun _ h => absurd h (by simp)

theorem quiet_add {m n : Nat} {faults : List (Option Nat)} :
    Quiet (m + n) faults ↔ Quiet m faults ∧ Quiet n (faults.drop m) := by
  rw [Quiet, Quiet, Quiet, List.take_add, List.forall_mem_append]

theorem quiet_one {faults : List (Option Nat)} : Quiet 1 faults ↔ faults.head?.join = none := by
  cases faults with
  | nil => exact iff_of_true (fun _ h => absurd h (by simp)) rfl
  | cons x faults => simp [Quiet]

def storedBytes (faults : List (Option Nat)) : Nat := faults.head?.join.getD 0

namespace LinuxHal

variable {h : LinuxHal} {seg : IzotPersistentSegType} {f : OsFile} {bytes : List UInt8}
  {maxDataSize segStart start size fileStart : UInt64} {value : UInt8}

def withFaults (h : LinuxHal) (faults : List (Option Nat)) : LinuxHal := { h with faults := faults }

theorem opened_withFaults (faults : List (Option Nat)) :
    (h.withFaults faults).opened seg maxDataSize = (h.opened seg maxDataSize).withFaults faults := by
  cases hfd : h.storageFd seg with
  | none =>
    rw [opened_of_none hfd, opened_of_none (h := h.withFaults faults) hfd]
    rfl
  | some d => rw [opened_of_some hfd, opened_of_some (h := h.withFaults faults) hfd]

theorem closed_withFaults (faults : List (Option Nat)) :
    (h.withFaults faults).closed seg = (h.closed seg).withFaults faults := by
  unfold closed withFaults
  dsimp only
  split <;> rfl

structure Lost (os : LinuxOs) (h : LinuxHal) : Prop where
  error : h.persistentMemError ≠ .noError
  content : h.os.content = os.content

/-- With `n` calls of the operating system that all succeed, a call leads to the state `h` but for the
failures to come, and fails otherwise. -/
def Attempt (n : Nat) (faults : List (Option Nat)) (r : LonStatusCode × LinuxHal) (h : LinuxHal)
    (os : LinuxOs) : Prop :=
  Quiet n faults ∧ r = (.noError, h.withFaults (faults.drop n)) ∨
    ¬Quiet n faults ∧ r.1 ≠ .noError ∧ r.2.Lost os

theorem persistentDataAccessError_ne : LonStatusCode.persistentDataAccessError ≠ .noError := by
  decide

theorem persistentDataDirError_ne : LonStatusCode.persistentDataDirError ≠ .noError := by
  decide

theorem quiet_one_iff : Quiet 1 h.faults ↔ h.fault = none := quiet_one

def initCalls (h : LinuxHal) : Nat := if h.persistentMemInitialized then 0 else 1

def openCalls (h : LinuxHal) (seg : IzotPersistentSegType) : Nat :=
  if (h.storageFd seg).isSome then 0 else 1

theorem halInitStorage_attempt (hhealthy : h.persistentMemError = .noError) :
    Attempt h.initCalls h.faults h.halInitStorage h.initialized h.os := by
  rw [halInitStorage, guarded_eq hhealthy, initCalls]
  by_cases hinit : h.persistentMemInitialized = true
  case pos =>
    rw [if_pos hinit, if_pos hinit, initialized]
    refine .inl ⟨quiet_zero _, ?_⟩
    exact congrArg (fun b => (LonStatusCode.noError, { h with persistentMemInitialized := b })) hinit
  case neg =>
    rw [if_neg hinit, if_neg hinit]
    by_cases hfault : h.fault = none
    case pos =>
      refine .inl ⟨quiet_one_iff.mpr hfault, (if_pos hfault).trans ?_⟩
      rw [List.drop_one]
      rfl
    case neg =>
      dsimp only
      rw [if_neg hfault]
      exact .inr ⟨mt quiet_one_iff.mp hfault, persistentDataDirError_ne, persistentDataDirError_ne, rfl⟩

theorem halOpenStorageSegment_attempt (hhealthy : h.persistentMemError = .noError) :
    Attempt (h.openCalls seg) h.faults (h.halOpenStorageSegment seg maxDataSize)
      (h.opened seg maxDataSize) h.os := by
  rw [halOpenStorageSegment, guarded_eq hhealthy, opened, openCalls]
  split
  next => exact .inl ⟨quiet_zero _, rfl⟩
  next =>
    split
    next hfault =>
      refine .inl ⟨quiet_one_iff.mpr hfault, ?_⟩
      rw [List.drop_one]
      rfl
    next hfault =>
      exact .inr ⟨mt quiet_one_iff.mp hfault, persistentDataAccessError_ne,
        persistentDataAccessError_ne, rfl⟩

theorem transfer_attempt (hfile : h.file seg = some f) (hkind : h.os.kind f ≠ .stream)
    (hstart : fileStart.toNat < 2 ^ 63) :
    Attempt 1 h.faults (h.transfer seg fileStart bytes) (h.written f fileStart.toNat bytes)
      (h.os.writeAt f fileStart.toNat (bytes.take (storedBytes h.faults))) := by
  have hstored : storedBytes h.faults = h.fault.getD 0 := rfl
  rw [transfer, hfile, hstored]
  dsimp only
  rw [if_neg (not_or.mpr ⟨hkind, Nat.not_le_of_lt hstart⟩)]
  cases hfault : h.fault with
  | none =>
    refine .inl ⟨quiet_one_iff.mpr hfault, ?_⟩
    rw [List.drop_one]
    rfl
  | some n =>
    refine .inr ⟨fun hquiet => ?_, persistentDataAccessError_ne, persistentDataAccessError_ne, rfl⟩
    rw [quiet_one_iff.mp hquiet] at hfault
    cases hfault

theorem halWriteStorageSegment_attempt (hhealthy : h.persistentMemError = .noError)
    (hfile : h.file seg = some f) (hkind : h.os.kind f ≠ .stream)
    (hlt : (start - segStart).toNat < 2 ^ 63) :
    Attempt 1 h.faults (h.halWriteStorageSegment seg bytes segStart start)
      (h.written f (start - segStart).toNat bytes)
      (h.os.writeAt f (start - segStart).toNat (bytes.take (storedBytes h.faults))) := by
  rw [halWriteStorageSegment, guarded_eq hhealthy]
  exact transfer_attempt hfile hkind hlt

theorem halPrepareStorageSegment_attempt (hhealthy : h.persistentMemError = .noError)
    (hfile : h.file seg = some f) (hkind : h.os.kind f ≠ .stream)
    (hlt : (segStart - start).toNat < 2 ^ 63) :
    Attempt 1 h.faults (h.halPrepareStorageSegment seg segStart start size value)
      (h.written f (segStart - start).toNat (List.replicate size.toNat value))
      (h.os.writeAt f (segStart - start).toNat
        ((List.replicate size.toNat value).take (storedBytes h.faults))) := by
  rw [halPrepareStorageSegment, guarded_eq hhealthy]
  exact transfer_attempt hfile hkind hlt

end LinuxHal

namespace Storage

variable {getMaxSize : IzotPersistentSegType → UInt32} {uninits : IzotPersistentSegType → EraseInfo}
  {appSignature : UInt32} {images : SegImages} {seg : IzotPersistentSegType} {uninit : EraseInfo}
  {s : Storage LinuxHal} {faults : List (Option Nat)} {n : Nat}

def withFaults (s : Storage LinuxHal) (faults : List (Option Nat)) : Storage LinuxHal :=
  { s with hal := s.hal.withFaults faults }

theorem opened_withFaults :
    (s.withFaults faults).opened getMaxSize seg uninit =
      (s.opened getMaxSize seg uninit).withFaults faults := by
  have hmapped : (s.withFaults faults).mapped getMaxSize seg uninit =
      (s.mapped getMaxSize seg uninit).withFaults faults := by
    rw [withFaults, mapped_withHal, withFaults, hal_mapped]
  have hopened := @LinuxHal.opened_withFaults s.hal.initialized seg
    ((s.mapped getMaxSize seg uninit).fileSize seg) faults
  unfold opened
  rw [hmapped]
  exact congrArg (fun h => { s.mapped getMaxSize seg uninit with hal := h }) hopened

def openCalls (s : Storage LinuxHal) (seg : IzotPersistentSegType) : Nat :=
  s.hal.initCalls + s.hal.openCalls seg

theorem openStorageSegment_cases (hhealthy : s.hal.persistentMemError = .noError) :
    Quiet (s.openCalls seg) s.hal.faults ∧ s.openStorageSegment linuxHal getMaxSize seg uninit =
        (.noError, (s.opened getMaxSize seg uninit).withFaults (s.hal.faults.drop (s.openCalls seg))) ∨
      ¬Quiet (s.openCalls seg) s.hal.faults ∧
        (s.openStorageSegment linuxHal getMaxSize seg uninit).1 ≠ .noError ∧
        (s.openStorageSegment linuxHal getMaxSize seg uninit).2.hal.Lost s.hal.os := by
  have hinit : linuxHal.initStorage s.hal = s.hal.halInitStorage := rfl
  rw [openCalls, quiet_add, ← List.drop_drop]
  cases LinuxHal.halInitStorage_attempt hhealthy with
  | inr hlost =>
    obtain ⟨hnot, hlost⟩ := hlost
    unfold openStorageSegment
    rw [hinit]
    generalize s.hal.halInitStorage = r at hlost
    simp only [ne_eq, hlost.1, not_false_eq_true, if_true]
    exact .inr ⟨fun h => hnot h.1, trivial, hlost.2⟩
  | inl hok =>
    obtain ⟨hquiet, hok⟩ := hok
    generalize s.hal.faults.drop s.hal.initCalls = faults at hok ⊢
    have hmap : initSegmentMap linuxHal getMaxSize seg
        { s with hal := s.hal.initialized.withFaults faults } uninit =
        (.noError, { s.mapped getMaxSize seg uninit with
          hal := s.hal.initialized.withFaults faults }) := by
      rw [← mapped_withHal]
      exact initSegmentMap_eq hhealthy
    have hopen : linuxHal.openSegment seg ((s.mapped getMaxSize seg uninit).fileSize seg)
        (s.hal.initialized.withFaults faults) =
        (s.hal.initialized.withFaults faults).halOpenStorageSegment seg
          ((s.mapped getMaxSize seg uninit).fileSize seg) := rfl
    cases @LinuxHal.halOpenStorageSegment_attempt (s.hal.initialized.withFaults faults) seg
      ((s.mapped getMaxSize seg uninit).fileSize seg) hhealthy with
    | inl hopened =>
      obtain ⟨hquiet', hopened⟩ := hopened
      refine .inl ⟨⟨hquiet, hquiet'⟩, (openStorageSegment_of_eq (hinit.trans hok) hmap
        (hopen.trans hopened)).trans ?_⟩
      rw [LinuxHal.opened_withFaults]
      rfl
    | inr hlost =>
      obtain ⟨hnot, hlost⟩ := hlost
      rw [← hopen] at hlost
      unfold openStorageSegment
      simp only [hinit, hok, hmap, ne_eq, not_true, if_false]
      exact .inr ⟨fun h => hnot h.2, hlost⟩

theorem openStorageSegment_attempt (hhealthy : s.hal.persistentMemError = .noError)
    (faults : List (Option Nat)) :
    Quiet (s.openCalls seg) faults ∧
        (s.withFaults faults).openStorageSegment linuxHal getMaxSize seg uninit =
        (.noError, (s.opened getMaxSize seg uninit).withFaults (faults.drop (s.openCalls seg))) ∨
      ¬Quiet (s.openCalls seg) faults ∧
        ((s.withFaults faults).openStorageSegment linuxHal getMaxSize seg uninit).1 ≠ .noError ∧
        ((s.withFaults faults).openStorageSegment linuxHal getMaxSize seg uninit).2.hal.Lost
          s.hal.os := by
  have hcases := @openStorageSegment_cases getMaxSize seg uninit (s.withFaults faults) hhealthy
  rw [opened_withFaults] at hcases
  exact hcases

theorem openCalls_closed (h : s.Closed getMaxSize seg) : s.openCalls seg = 1 := by
  rw [openCalls, LinuxHal.initCalls, if_pos h.initialized, LinuxHal.openCalls, h.closed]
  rfl

theorem halClose_withFaults (hhealthy : s.hal.persistentMemError = .noError)
    (faults : List (Option Nat)) :
    (s.withFaults faults).halClose linuxHal seg =
      (.noError, ({ s with hal := s.hal.closed seg } : Storage LinuxHal).withFaults faults) := by
  have hclose : linuxHal.closeSegment seg (s.withFaults faults).hal =
      (.noError, (s.hal.closed seg).withFaults faults) := by
    change (s.hal.withFaults faults).halCloseStorageSegment seg = _
    rw [← LinuxHal.closed_withFaults, LinuxHal.halCloseStorageSegment,
      LinuxHal.guarded_eq (h := s.hal.withFaults faults) hhealthy, LinuxHal.closed]
    cases (s.hal.withFaults faults).storageFd seg <;> rfl
  unfold halClose
  rw [hclose]
  rfl

theorem halClose_of_error (herror : s.hal.persistentMemError ≠ .noError) :
    s.halClose linuxHal seg = (s.hal.persistentMemError, s) := by
  have hclose : linuxHal.closeSegment seg s.hal = (s.hal.persistentMemError, s.hal) := if_pos herror
  unfold halClose
  rw [hclose]

theorem writeRecord_attempt (hmap : s.MapSound getMaxSize)
    (hmax : (getMaxSize seg).toNat + 24 < 2 ^ 31) (hw : s.hal.Working) (husable : s.hal.Usable seg)
    (faults : List (Option Nat)) (r : TransactionRecord) :
    ∃ f, (s.opened getMaxSize seg uninit).hal.file seg = some f ∧
      (Quiet (s.openCalls seg + 1) faults ∧
          ((s.withFaults faults).writeRecord linuxHal getMaxSize seg uninit r).2 =
            (s.writeRecord linuxHal getMaxSize seg uninit r).2.withFaults
              (faults.drop (s.openCalls seg + 1)) ∨
        ¬Quiet (s.openCalls seg) faults ∧
          ((s.withFaults faults).writeRecord linuxHal getMaxSize seg uninit r).2.hal.Lost s.hal.os ∨
        Quiet (s.openCalls seg) faults ∧ ¬Quiet 1 (faults.drop (s.openCalls seg)) ∧
          ((s.withFaults faults).writeRecord linuxHal getMaxSize seg uninit r).2.hal.Lost
            ((s.opened getMaxSize seg uninit).hal.os.writeAt f 0
              (r.bytes.take (storedBytes (faults.drop (s.openCalls seg)))))) := by
  obtain ⟨f, hfile, heq⟩ := @writeRecord_eq getMaxSize seg uninit s hmap hmax hw husable r
  obtain ⟨f', hfile', hkind⟩ := @exists_file_opened getMaxSize seg uninit s husable
  obtain rfl : f = f' := Option.some.inj (hfile.symm.trans hfile')
  refine ⟨f, hfile, ?_⟩
  have htx := @tx_opened getMaxSize seg uninit s hmap hmax
  have hopen := @openStorageSegment_attempt getMaxSize seg uninit s hw.healthy faults
  have hw' := @working_opened getMaxSize seg uninit s hw
  rw [heq, quiet_add, ← List.drop_drop]
  generalize s.opened getMaxSize seg uninit = t at *
  cases hopen with
  | inr hlost =>
    obtain ⟨hnot, hlost⟩ := hlost
    refine .inr (.inl ⟨hnot, ?_⟩)
    unfold writeRecord
    generalize (s.withFaults faults).openStorageSegment linuxHal getMaxSize seg uninit = x at hlost
    simp only [ne_eq, hlost.1, not_false_eq_true, if_true]
    exact hlost.2
  | inl hok =>
    obtain ⟨hquiet, hok⟩ := hok
    generalize faults.drop (s.openCalls seg) = faults' at hok ⊢
    have hzero : ((t.segmentMap seg).txOffset - (t.segmentMap seg).segmentStart).toNat = 0 := by
      rw [htx, UInt64.sub_self]
      rfl
    have hwrite : linuxHal.writeSegment seg r.bytes (t.segmentMap seg).segmentStart
        (t.segmentMap seg).txOffset (t.withFaults faults').hal =
        (t.hal.withFaults faults').halWriteStorageSegment seg r.bytes
          (t.segmentMap seg).segmentStart (t.segmentMap seg).txOffset := rfl
    have hattempt := @LinuxHal.halWriteStorageSegment_attempt (t.hal.withFaults faults') seg f
      r.bytes (t.segmentMap seg).segmentStart (t.segmentMap seg).txOffset hw'.healthy hfile hkind
      (by rw [hzero]; decide)
    rw [hzero] at hattempt
    cases hattempt with
    | inl hdone =>
      obtain ⟨hquiet', hdone⟩ := hdone
      refine .inl ⟨⟨hquiet, hquiet'⟩, ?_⟩
      have hclose := @halClose_withFaults seg { t with hal := t.hal.written f 0 r.bytes } hw'.healthy
        (faults'.drop 1)
      have hsame : ((t.hal.withFaults faults').written f 0 r.bytes).withFaults (faults'.drop 1) =
        (t.hal.written f 0 r.bytes).withFaults (faults'.drop 1) := rfl
      unfold writeRecord
      simp only [hok, ne_eq, not_true, if_false]
      change (halClose linuxHal seg { t with hal := (linuxHal.writeSegment seg r.bytes
        (t.segmentMap seg).segmentStart (t.segmentMap seg).txOffset (t.withFaults faults').hal).2 }).2 = _
      rw [hwrite, hdone]
      exact (congrArg (fun h => (halClose linuxHal seg { t with hal := h }).2) hsame).trans
        (congrArg Prod.snd hclose)
    | inr hlost =>
      obtain ⟨hnot, hlost⟩ := hlost
      refine .inr (.inr ⟨hquiet, hnot, ?_⟩)
      have hclose := @halClose_of_error seg { t with hal :=
        ((t.hal.withFaults faults').halWriteStorageSegment seg r.bytes
          (t.segmentMap seg).segmentStart (t.segmentMap seg).txOffset).2 } hlost.2.error
      unfold writeRecord
      simp only [hok, ne_eq, not_true, if_false]
      change (halClose linuxHal seg { t with hal := (linuxHal.writeSegment seg r.bytes
        (t.segmentMap seg).segmentStart (t.segmentMap seg).txOffset (t.withFaults faults').hal).2
          }).2.hal.Lost _
      rw [hwrite, hclose]
      exact hlost.2

def blockCalls (start length : Nat) : Nat :=
  if length = 0 then 0 else (start % BLOCK_SIZE.toNat + length + BLOCK_SIZE.toNat - 1) / BLOCK_SIZE.toNat

theorem blockCalls_step {start start' length k : Nat} (hpos : 0 < length)
    (hk : k = if BLOCK_SIZE.toNat - start % BLOCK_SIZE.toNat < length then
      BLOCK_SIZE.toNat - start % BLOCK_SIZE.toNat else length)
    (hstart : start' % BLOCK_SIZE.toNat = (start + k) % BLOCK_SIZE.toNat) :
    blockCalls start length = 1 + blockCalls start' (length - k) := by
  have hsize : BLOCK_SIZE.toNat = 4096 := rfl
  rw [hsize] at hk hstart
  rw [blockCalls, blockCalls, hsize, if_neg (by omega)]
  split at hk
  next hlt =>
    rw [if_neg (by omega)]
    omega
  next hge =>
    rw [if_pos (by omega)]
    omega

theorem toNat_sizeToWrite {nextOffset : UInt64} {length : Nat} :
    (if (BLOCK_SIZE - nextOffset % BLOCK_SIZE).toNat < length then
        (BLOCK_SIZE - nextOffset % BLOCK_SIZE).toNat else length) =
      if BLOCK_SIZE.toNat - nextOffset.toNat % BLOCK_SIZE.toNat < length then
        BLOCK_SIZE.toNat - nextOffset.toNat % BLOCK_SIZE.toNat else length := by
  have hmod : (nextOffset % BLOCK_SIZE).toNat < BLOCK_SIZE.toNat := by
    rw [UInt64.toNat_mod]
    exact Nat.mod_lt _ (by decide)
  rw [UInt64.toNat_sub_of_le _ _ (UInt64.le_iff_toNat_le.mpr (Nat.le_of_lt hmod)), UInt64.toNat_mod]

theorem mod_nextOffset {nextOffset : UInt64} {k : Nat} (hk : k < 2 ^ 64) :
    (nextOffset + .ofNat k).toNat % BLOCK_SIZE.toNat = (nextOffset.toNat + k) % BLOCK_SIZE.toNat := by
  have hsize : BLOCK_SIZE.toNat = 4096 := rfl
  rw [UInt64.toNat_add, UInt64.toNat_ofNat_of_lt' hk, hsize]
  omega

theorem writeBlocks_attempt (segStart : UInt64) (n : Nat) :
    ∀ (data : List UInt8) (nextOffset : UInt64) (s : Storage LinuxHal),
      s.hal.persistentMemError = .noError → s.hal.file seg = some (.segment seg) →
      s.storageBlockSize = BLOCK_SIZE → data.length ≤ n →
      (nextOffset - segStart).toNat + data.length < 2 ^ 63 →
      (nextOffset - segStart).toNat ≤ (s.content seg).size →
      Quiet (blockCalls nextOffset.toNat data.length) s.hal.faults ∧
        writeBlocks linuxHal seg segStart n nextOffset data s =
        (.noError, { s with
          hal := (s.hal.written (.segment seg) (nextOffset - segStart).toNat data).withFaults
            (s.hal.faults.drop (blockCalls nextOffset.toNat data.length)) }) ∨
      ¬Quiet (blockCalls nextOffset.toNat data.length) s.hal.faults ∧
        (writeBlocks linuxHal seg segStart n nextOffset data s).1 ≠ .noError ∧
        ∃ k, (writeBlocks linuxHal seg segStart n nextOffset data s).2.hal.Lost
          (s.hal.os.writeAt (.segment seg) (nextOffset - segStart).toNat (data.take k)) := by
  induction n with
  | zero =>
    intro data nextOffset s _ _ _ hlen _ hle
    rw [List.eq_nil_of_length_eq_zero (Nat.le_zero.mp hlen), written_nil hle]
    exact .inl ⟨quiet_zero _, rfl⟩
  | succ n ih =>
    intro data nextOffset s hhealthy hfile hblock hlen hlt hle
    by_cases hnil : data = []
    case pos =>
      subst hnil
      rw [written_nil hle]
      exact .inl ⟨quiet_zero _, rfl⟩
    case neg =>
      obtain ⟨k, hk, hkpos, hkle⟩ := @sizeToWrite_bounds nextOffset _ data hnil
        (hblock ▸ (by decide : BLOCK_SIZE ≠ 0))
      have htake : (data.take k).length = k := by rw [List.length_take, Nat.min_eq_left hkle]
      have hcall : linuxHal.writeSegment seg (data.take k) segStart nextOffset s.hal =
          s.hal.halWriteStorageSegment seg (data.take k) segStart nextOffset := rfl
      have hnext := @toNat_next nextOffset segStart k (by omega)
      have hcalls : blockCalls nextOffset.toNat data.length =
          1 + blockCalls (nextOffset + .ofNat k).toNat (data.drop k).length := by
        rw [List.length_drop]
        refine blockCalls_step (List.length_pos_iff.mpr hnil) ?_ (mod_nextOffset (by omega))
        rw [← hk, hblock]
        exact toNat_sizeToWrite
      rw [hcalls, quiet_add, ← List.drop_drop]
      have hattempt := @LinuxHal.halWriteStorageSegment_attempt s.hal seg _ (data.take k)
        segStart nextOffset hhealthy hfile (LinuxHal.kind_segment _ seg) (by omega)
      cases hattempt with
      | inr hlost =>
        obtain ⟨hnot, hlost⟩ := hlost
        generalize s.hal.halWriteStorageSegment seg (data.take k) segStart nextOffset = r at *
        simp only [writeBlocks, if_neg hnil, hk, hcall, ne_eq, hlost.1, not_false_eq_true, if_true]
        refine .inr ⟨fun h => hnot h.1, trivial, min (storedBytes s.hal.faults) k, ?_⟩
        rw [← List.take_take]
        exact hlost.2
      | inl hdone =>
        obtain ⟨hquiet, hdone⟩ := hdone
        generalize s.hal.faults.drop 1 = faults at hdone ⊢
        simp only [writeBlocks, if_neg hnil, hk, hcall, hdone, ne_eq, not_true, if_false]
        have hrest := ih (data.drop k) (nextOffset + .ofNat k)
          { s with hal := (s.hal.written (.segment seg) (nextOffset - segStart).toNat
            (data.take k)).withFaults faults }
          hhealthy (LinuxHal.file_written.trans hfile) hblock
          (by rw [List.length_drop]; omega) (by rw [List.length_drop, hnext]; omega) ?_
        · rw [hnext] at hrest
          cases hrest with
          | inl hrest =>
            obtain ⟨hquiet', hrest⟩ := hrest
            refine .inl ⟨⟨hquiet, hquiet'⟩, hrest.trans ?_⟩
            have happend := written_append (data.take k) (data.drop k) hle
            rw [htake, List.take_append_drop] at happend
            rw [← happend]
            rfl
          | inr hrest =>
            obtain ⟨hnot, hstatus, i, hlost⟩ := hrest
            refine .inr ⟨fun h => hnot h.2, hstatus, k + i, ?_⟩
            have happend := written_append (data.take k) ((data.drop k).take i) hle
            rw [htake, ← List.take_add] at happend
            have hos := congrArg LinuxHal.os happend
            exact ⟨hlost.error, hlost.content.trans (congrArg LinuxOs.content hos)⟩
        · have hle' : (nextOffset - segStart).toNat ≤ (s.hal.os.content (.segment seg)).size := hle
          change _ ≤ ((s.hal.written (.segment seg) (nextOffset - segStart).toNat
            (data.take k)).os.content (.segment seg)).size
          rw [hnext, LinuxHal.content_written, OsFileContent.writeAt_of_le hle', htake]
          exact Nat.le_max_right _ _

def imageOf (n : Nat) (seg : IzotPersistentSegType) (s : Storage LinuxHal) : Image :=
  (s.content seg).image n

def within (n offset : Nat) (bytes : List UInt8) : List UInt8 := bytes.take (n - offset)

structure Stopped (n : Nat) (seg : IzotPersistentSegType) (s : Storage LinuxHal) (offset : Nat)
    (bytes : List UInt8) (s' : Storage LinuxHal) : Prop where
  error : s'.hal.persistentMemError ≠ .noError
  image : ∃ k, s'.imageOf n seg =
    (s.imageOf n seg).write offset ((within n offset bytes).take k)

section

variable {s' : Storage LinuxHal} {offset : Nat} {bytes : List UInt8}

theorem Accessed.image (h : Accessed getMaxSize seg s s' offset bytes)
    (hn : (s.fileSize seg).toNat = n) (hle : offset ≤ n) :
    s'.imageOf n seg = (s.imageOf n seg).write offset (within n offset bytes) := by
  rw [imageOf, h.content, hn, OsFileContent.image_writeAt hle, OsFileContent.image_truncate]
  rfl

theorem stopped_of_lost (h : s.Closed getMaxSize seg) (hn : (s.fileSize seg).toNat = n)
    (hle : offset ≤ n) {k : Nat} (hlost : s'.hal.Lost
      ((s.opened getMaxSize seg uninit).hal.os.writeAt (.segment seg) offset (bytes.take k))) :
    Stopped n seg s offset bytes s' where
  error := hlost.error
  image := by
    refine ⟨k, ?_⟩
    have hopened := @content_opened getMaxSize seg uninit s h.closed
    rw [mapped_of_settled h.settled, hn] at hopened
    have hcontent : s'.content seg = ((s.content seg).truncate n).writeAt offset (bytes.take k) := by
      rw [← hopened]
      refine (congrFun hlost.content _).trans ?_
      rw [LinuxOs.writeAt_segment, LinuxOs.content_setContent]
      rfl
    rw [imageOf, hcontent, OsFileContent.image_writeAt hle, OsFileContent.image_truncate, within,
      List.take_take, List.take_take, Nat.min_comm]
    rfl

theorem stopped_of_same (hlost : s'.hal.Lost s.hal.os) : Stopped n seg s offset bytes s' where
  error := hlost.error
  image := by
    have hcontent : s'.content seg = s.content seg := congrFun hlost.content _
    refine ⟨0, ?_⟩
    rw [imageOf, hcontent]
    rfl

end

def recordBytes (faults : List (Option Nat)) : Nat :=
  if Quiet 1 faults then if Quiet 1 (faults.drop 1) then 8 else storedBytes (faults.drop 1) else 0

theorem image_writeRecord (hmax : (getMaxSize seg).toNat + 24 < 2 ^ 31)
    (h : s.Closed getMaxSize seg) (hn : (s.fileSize seg).toNat = n) (hle : 8 ≤ n)
    (faults : List (Option Nat)) (r : TransactionRecord) :
    ((s.withFaults faults).writeRecord linuxHal getMaxSize seg uninit r).2.imageOf n seg =
      (s.imageOf n seg).write 0 (r.bytes.take (recordBytes faults)) := by
  have hlength : r.bytes.length = 8 := rfl
  have hwithin : within n 0 r.bytes = r.bytes := List.take_of_length_le (by omega)
  obtain ⟨s', heq, haccess⟩ := @writeRecord_closed getMaxSize seg uninit s hmax h r
  obtain ⟨f, hfile, hattempt⟩ := @writeRecord_attempt getMaxSize seg uninit s h.map hmax h.working
    h.usable faults r
  obtain rfl : f = .segment seg := Option.some.inj (hfile.symm.trans (file_opened h.closed))
  rw [openCalls_closed h] at hattempt
  rw [recordBytes]
  rcases hattempt with ⟨hquiet, hdone⟩ | ⟨hnot, hlost⟩ | ⟨hquiet, hnot, hlost⟩
  · obtain ⟨hquiet, hquiet'⟩ := quiet_add.mp hquiet
    rw [if_pos hquiet, if_pos hquiet', hdone, heq, List.take_of_length_le (Nat.le_of_eq hlength)]
    have himage := haccess.image hn (Nat.zero_le n)
    rw [hwithin] at himage
    exact himage
  · rw [if_neg hnot]
    exact congrArg (OsFileContent.image · n) (congrFun hlost.content (.segment seg))
  · rw [if_pos hquiet, if_neg hnot]
    have hopened := @content_opened getMaxSize seg uninit s h.closed
    rw [mapped_of_settled h.settled, hn] at hopened
    have hcontent : ((s.withFaults faults).writeRecord linuxHal getMaxSize seg uninit r).2.content seg =
        ((s.content seg).truncate n).writeAt 0 (r.bytes.take (storedBytes (faults.drop 1))) := by
      rw [← hopened]
      refine (congrFun hlost.content _).trans ?_
      rw [LinuxOs.writeAt_segment, LinuxOs.content_setContent]
      rfl
    rw [imageOf, hcontent, OsFileContent.image_writeAt (Nat.zero_le n), OsFileContent.image_truncate,
      List.take_of_length_le (by rw [List.length_take]; omega)]
    rfl

theorem blockCalls_congr {start start' : Nat} (length : Nat)
    (h : start % BLOCK_SIZE.toNat = start' % BLOCK_SIZE.toNat) :
    blockCalls start length = blockCalls start' length := by
  rw [blockCalls, blockCalls, h]

theorem write_attempt (hmax : (getMaxSize seg).toNat + 24 < 2 ^ 31) (h : s.Closed getMaxSize seg)
    (hn : (s.fileSize seg).toNat = n) {segmentOffset : UInt64} {data : List UInt8}
    (hle : segmentOffset.toNat ≤ n) (hlt : segmentOffset.toNat + data.length < 2 ^ 63)
    (faults : List (Option Nat)) :
    (∃ s', Quiet (1 + blockCalls segmentOffset.toNat data.length) faults ∧
        (s.withFaults faults).izotStorageWriteSeg linuxHal getMaxSize seg uninit segmentOffset data =
          (.noError, s'.withFaults (faults.drop (1 + blockCalls segmentOffset.toNat data.length))) ∧
        Accessed getMaxSize seg s s' segmentOffset.toNat data) ∨
      ¬Quiet (1 + blockCalls segmentOffset.toNat data.length) faults ∧
        ((s.withFaults faults).izotStorageWriteSeg linuxHal getMaxSize seg uninit segmentOffset
          data).1 ≠ .noError ∧
        Stopped n seg s segmentOffset.toNat data
          ((s.withFaults faults).izotStorageWriteSeg linuxHal getMaxSize seg uninit segmentOffset
            data).2 := by
  have hopen := @openStorageSegment_attempt getMaxSize seg uninit s h.working.healthy faults
  rw [openCalls_closed h] at hopen
  rw [quiet_add, ← List.drop_drop]
  cases hopen with
  | inr hlost =>
    obtain ⟨hnot, hlost⟩ := hlost
    refine .inr ⟨fun h => hnot h.1, ?_⟩
    unfold izotStorageWriteSeg
    generalize (s.withFaults faults).openStorageSegment linuxHal getMaxSize seg uninit = x at hlost
    simp only [ne_eq, hlost.1, not_false_eq_true, if_true, true_and]
    exact stopped_of_same hlost.2
  | inl hok =>
    obtain ⟨hquiet, hok⟩ := hok
    generalize faults.drop 1 = faults' at hok ⊢
    have hopened := @opened_of_settled getMaxSize seg uninit s h.settled
    have hcancel (start : UInt64) : segmentOffset + start - start = segmentOffset :=
      UInt64.add_sub_cancel _ _
    have hblock : (s.opened getMaxSize seg uninit).storageBlockSize = BLOCK_SIZE := by
      rw [hopened]
      exact h.map.block.resolve_left h.settled.1
    have hsize : ((s.opened getMaxSize seg uninit).content seg).size = n := by
      rw [content_opened h.closed, mapped_of_settled h.settled]
      exact hn
    have hw' := @working_opened getMaxSize seg uninit s h.working
    have hcalls : blockCalls (segmentOffset +
        (((s.opened getMaxSize seg uninit).withFaults faults').segmentMap seg).segmentStart).toNat
          data.length = blockCalls segmentOffset.toNat data.length := by
      refine blockCalls_congr _ ?_
      have haligned := h.map.aligned seg
      have hsize : BLOCK_SIZE.toNat = 4096 := rfl
      change (segmentOffset + ((s.opened getMaxSize seg uninit).segmentMap seg).segmentStart).toNat %
        BLOCK_SIZE.toNat = _
      rw [hopened, UInt64.toNat_add]
      change (segmentOffset.toNat + (s.segmentMap seg).segmentStart.toNat) % 2 ^ 64 % _ = _
      rw [hsize] at haligned ⊢
      omega
    have hblocks := writeBlocks_attempt
      (((s.opened getMaxSize seg uninit).withFaults faults').segmentMap seg).segmentStart data.length
      data (segmentOffset +
        (((s.opened getMaxSize seg uninit).withFaults faults').segmentMap seg).segmentStart)
      ((s.opened getMaxSize seg uninit).withFaults faults') hw'.healthy (file_opened h.closed) hblock
      (Nat.le_refl _) (by rw [hcancel]; exact hlt)
      (by rw [hcancel]; exact Nat.le_trans hle (Nat.le_of_eq hsize.symm))
    rw [hcancel, hcalls] at hblocks
    cases hblocks with
    | inl hdone =>
      obtain ⟨hquiet', hdone⟩ := hdone
      refine .inl ⟨_, ⟨hquiet, hquiet'⟩, ?_, accessed_of_written uninit hmax h segmentOffset.toNat data⟩
      unfold izotStorageWriteSeg
      rw [hok]
      dsimp only
      rw [if_neg (not_not_intro rfl)]
      rw [hdone]
      dsimp only
      rw [if_neg (not_not_intro rfl)]
      exact @halClose_withFaults seg { s.opened getMaxSize seg uninit with
        hal := (s.opened getMaxSize seg uninit).hal.written (.segment seg) segmentOffset.toNat data }
        hw'.healthy (faults'.drop (blockCalls segmentOffset.toNat data.length))
    | inr hlost =>
      obtain ⟨hnot, hstatus, k, hlost⟩ := hlost
      refine .inr ⟨fun h => hnot h.2, ?_⟩
      unfold izotStorageWriteSeg
      simp only [hok, ne_eq, not_true, if_false, hstatus, not_false_eq_true, if_true, true_and]
      exact stopped_of_lost h hn hle hlost

theorem prepareStorageSegment_attempt (hhealthy : s.hal.persistentMemError = .noError)
    {f : OsFile} (hfile : s.hal.file seg = some f) (hkind : s.hal.os.kind f ≠ .stream)
    (hblock : s.storageBlockSize = BLOCK_SIZE) {size : UInt64}
    (hfits : (s.segmentMap seg).erase.eraseRequired = true →
      0 < size.toNat ∧ size.toNat ≤ BLOCK_SIZE.toNat) :
    Quiet 1 s.hal.faults ∧ (s.prepareStorageSegment linuxHal seg size).2 =
        ({ s with hal := s.hal.written f 0 (s.erasedBytes seg) } : Storage LinuxHal).withFaults
          (s.hal.faults.drop 1) ∨
      ¬Quiet 1 s.hal.faults ∧ ∃ k, (s.prepareStorageSegment linuxHal seg size).2.hal.Lost
        (s.hal.os.writeAt f 0 ((s.erasedBytes seg).take k)) := by
  have hzero := toNat_sub_start seg s
  obtain ⟨size', hsize, heq⟩ := prepareStorageSegment_single hblock hfits
  have hattempt := @LinuxHal.halPrepareStorageSegment_attempt s.hal seg f
    (s.segmentMap seg).segmentStart (s.segmentMap seg).segmentStart size'
    (s.segmentMap seg).erase.eraseValue hhealthy hfile hkind (by rw [hzero]; decide)
  rw [heq _ rfl]
  rw [hzero, hsize] at hattempt
  cases hattempt with
  | inl hdone =>
    obtain ⟨hquiet, hdone⟩ := hdone
    rw [hdone]
    exact .inl ⟨hquiet, rfl⟩
  | inr hlost => exact .inr ⟨hlost.1, _, hlost.2.2⟩

theorem openForWrite_attempt (hmax : (getMaxSize seg).toNat + 24 < 2 ^ 31)
    (h : s.Closed getMaxSize seg) (hn : (s.fileSize seg).toNat = n) {dataSize : UInt64}
    (hle : dataSize ≤ (s.segmentMap seg).maxDataSize)
    (hfits : (s.segmentMap seg).erase.eraseRequired = true →
      dataSize.toNat + 8 ≤ BLOCK_SIZE.toNat) (hlt : dataSize.toNat < 2 ^ 32)
    (faults : List (Option Nat)) :
    (∃ s', Quiet 2 faults ∧ (s.withFaults faults).izotStorageOpenSegForWrite linuxHal getMaxSize seg
          uninit dataSize = (some seg, s'.withFaults (faults.drop 2)) ∧
        Accessed getMaxSize seg s s' 0 (s.erasedBytes seg)) ∨
      ¬Quiet 2 faults ∧ ((s.withFaults faults).izotStorageOpenSegForWrite linuxHal getMaxSize seg uninit
          dataSize).1 = none ∧
        Stopped n seg s 0 (s.erasedBytes seg)
          ((s.withFaults faults).izotStorageOpenSegForWrite linuxHal getMaxSize seg uninit
            dataSize).2 := by
  have hopen := @openStorageSegment_attempt getMaxSize seg uninit s h.working.healthy faults
  rw [openCalls_closed h] at hopen
  have htwo := @quiet_add 1 1 faults
  have hdrop : faults.drop 2 = (faults.drop 1).drop 1 := by rw [List.drop_drop]
  rw [htwo, hdrop]
  cases hopen with
  | inr hlost =>
    obtain ⟨hnot, hlost⟩ := hlost
    refine .inr ⟨fun h => hnot h.1, ?_⟩
    unfold izotStorageOpenSegForWrite
    generalize (s.withFaults faults).openStorageSegment linuxHal getMaxSize seg uninit = x at hlost
    simp only [ne_eq, hlost.1, not_false_eq_true, if_true, true_and]
    exact stopped_of_same hlost.2
  | inl hok =>
    obtain ⟨hquiet, hok⟩ := hok
    generalize faults.drop 1 = faults' at hok ⊢
    have hopened := @opened_of_settled getMaxSize seg uninit s h.settled
    have hsize : (dataSize + sizeofTransactionRecord).toNat = dataSize.toNat + 8 := by
      rw [UInt64.toNat_add]
      change (dataSize.toNat + 8) % 2 ^ 64 = _
      omega
    have hw' := @working_opened getMaxSize seg uninit s h.working
    have hle' : dataSize ≤ (((s.opened getMaxSize seg uninit).withFaults faults').segmentMap
        seg).maxDataSize := by
      change dataSize ≤ ((s.opened getMaxSize seg uninit).segmentMap seg).maxDataSize
      rw [hopened]
      exact hle
    have herased : ((s.opened getMaxSize seg uninit).withFaults faults').erasedBytes seg =
        s.erasedBytes seg := by
      change (s.opened getMaxSize seg uninit).erasedBytes seg = _
      rw [hopened]
      rfl
    have hattempt := @prepareStorageSegment_attempt seg
      ((s.opened getMaxSize seg uninit).withFaults faults') hw'.healthy _ (file_opened h.closed)
      (LinuxHal.kind_segment _ seg)
      (by
        change (s.opened getMaxSize seg uninit).storageBlockSize = _
        rw [hopened]
        exact h.map.block.resolve_left h.settled.1)
      (dataSize + sizeofTransactionRecord)
      (by
        change ((s.opened getMaxSize seg uninit).segmentMap seg).erase.eraseRequired = true → _
        rw [hopened, hsize]
        exact fun hreq => ⟨by omega, hfits hreq⟩)
    rw [herased] at hattempt
    unfold izotStorageOpenSegForWrite
    simp only [hok, ne_eq, not_true, if_false, if_pos hle']
    cases hattempt with
    | inl hdone =>
      obtain ⟨hquiet', hdone⟩ := hdone
      refine .inl ⟨_, ⟨hquiet, hquiet'⟩, ?_, accessed_of_written uninit hmax h 0 _⟩
      have hclose := @halClose_withFaults seg { s.opened getMaxSize seg uninit with
        hal := (s.opened getMaxSize seg uninit).hal.written (.segment seg) 0 (s.erasedBytes seg) }
        hw'.healthy (faults'.drop 1)
      rw [hdone]
      refine (congrArg (fun r : LonStatusCode × Storage LinuxHal =>
        (if r.1 = .noError then some seg else none, r.2)) hclose).trans ?_
      exact congrArg (·, _) (if_pos rfl)
    | inr hlost =>
      obtain ⟨hnot, k, hlost⟩ := hlost
      rw [halClose_of_error hlost.error]
      dsimp only
      rw [if_neg hlost.error]
      exact .inr ⟨fun h => hnot h.2, rfl, stopped_of_lost h hn (Nat.zero_le n) hlost⟩

def Own (seg : IzotPersistentSegType) (s : Storage LinuxHal) : Prop :=
  s.hal.storageFd seg = none ∨ s.hal.file seg = some (.segment seg)

instance (seg : IzotPersistentSegType) (s : Storage LinuxHal) : Decidable (s.Own seg) :=
  inferInstanceAs (Decidable (_ ∨ _))

def eraseBytes (erase : EraseInfo) : List UInt8 :=
  List.replicate (if erase.eraseRequired then BLOCK_SIZE.toNat else 8) erase.eraseValue

abbrev invalidRecord : List UInt8 := TransactionRecord.bytes ⟨TX_SIGNATURE, TX_DATA_INVALID⟩
abbrev validRecord : List UInt8 := TransactionRecord.bytes ⟨TX_SIGNATURE, TX_DATA_VALID⟩

def invalidation (n : Nat) (seg : IzotPersistentSegType) (erase : EraseInfo) (s : Storage LinuxHal) :
    Image.Writes :=
  (if s.Own seg then [(0, invalidRecord)] else []) ++ [(0, within n 0 (eraseBytes erase))]

def imageWrites (appSignature : UInt32) (image : List UInt8) : Image.Writes :=
  [(8, (imageHeader appSignature image).bytes), (24, image)]

theorem erasedBytes_eq (h : s.Closed getMaxSize seg) :
    s.erasedBytes seg = eraseBytes (s.segmentMap seg).erase := by
  rw [erasedBytes, eraseBlock, h.map.block.resolve_left h.settled.1, eraseBytes]

theorem hal_opened_of_some {d : Nat} (hfd : s.hal.storageFd seg = some d) :
    (s.opened getMaxSize seg uninit).hal = s.hal.initialized :=
  LinuxHal.opened_of_some (h := s.hal.initialized) hfd

theorem file_eq_own_iff {f : OsFile}
    (hfile : (s.opened getMaxSize seg uninit).hal.file seg = some f) :
    f = .segment seg ↔ s.Own seg := by
  cases hfd : s.hal.storageFd seg with
  | none =>
    obtain rfl : f = .segment seg := Option.some.inj (hfile.symm.trans (file_opened hfd))
    exact ⟨fun _ => .inl hfd, fun _ => rfl⟩
  | some d =>
    rw [hal_opened_of_some hfd] at hfile
    refine ⟨fun hf => .inr (hf ▸ hfile), fun hown => ?_⟩
    cases hown with
    | inl hnone => rw [hfd] at hnone; cases hnone
    | inr hown => exact Option.some.inj (hfile.symm.trans hown)

theorem imageOf_opened (hn : ((s.mapped getMaxSize seg uninit).fileSize seg).toNat = n) :
    (s.opened getMaxSize seg uninit).imageOf n seg = s.imageOf n seg := by
  cases hfd : s.hal.storageFd seg with
  | none =>
    rw [imageOf, content_opened hfd, hn, OsFileContent.image_truncate]
    rfl
  | some d =>
    rw [imageOf, content, hal_opened_of_some hfd]
    rfl

theorem fileSize_mapped (hmap : s.MapSound getMaxSize) (hmax : (getMaxSize seg).toNat + 24 < 2 ^ 31)
    (halloc : seg.allocated = true) :
    ((s.mapped getMaxSize seg uninit).fileSize seg).toNat = 24 + (getMaxSize seg).toNat := by
  obtain ⟨hmap', hsettled⟩ := @mapSound_mapped getMaxSize seg uninit _ s hmap hmax
  exact toNat_fileSize hmap' hmax
    (hsettled.2.resolve_right fun h => Bool.noConfusion (halloc.symm.trans h))

theorem within_of_le {offset : Nat} {bytes : List UInt8} (h : offset + bytes.length ≤ n) :
    within n offset bytes = bytes := List.take_of_length_le (by omega)

theorem image_written (hn : ((s.mapped getMaxSize seg uninit).fileSize seg).toNat = n) {f : OsFile}
    (hfile : (s.opened getMaxSize seg uninit).hal.file seg = some f) {bytes : List UInt8}
    (hle : bytes.length ≤ n) :
    (((s.opened getMaxSize seg uninit).hal.os.writeAt f 0 bytes).content (.segment seg)).image n =
      if s.Own seg then (s.imageOf n seg).write 0 bytes else s.imageOf n seg := by
  have hown := file_eq_own_iff hfile
  rw [← @imageOf_opened getMaxSize seg uninit s n hn]
  by_cases hf : f = .segment seg
  case pos =>
    rw [if_pos (hown.mp hf), hf, LinuxOs.writeAt_segment, LinuxOs.content_setContent,
      OsFileContent.image_writeAt (Nat.zero_le n), List.take_of_length_le (by omega)]
    rfl
  case neg =>
    rw [if_neg fun h => hf (hown.mpr h), LinuxOs.content_writeAt_of_ne _ _ (Ne.symm hf)]
    rfl

theorem enter_attempt (hmap : s.MapSound getMaxSize) (hmax : (getMaxSize seg).toNat + 24 < 2 ^ 31)
    (hw : s.hal.Working) (husable : s.hal.Usable seg)
    (hn : ((s.mapped getMaxSize seg uninit).fileSize seg).toNat = n) (faults : List (Option Nat))
    (r : TransactionRecord) :
    (∃ s' : Storage LinuxHal, Quiet (s.openCalls seg + 1) faults ∧
        ((s.withFaults faults).writeRecord linuxHal getMaxSize seg uninit r).2 =
          s'.withFaults (faults.drop (s.openCalls seg + 1)) ∧ s'.Closed getMaxSize seg ∧
        s'.segmentMap seg = (s.mapped getMaxSize seg uninit).segmentMap seg ∧
        s'.imageOf n seg =
          (s.imageOf n seg).writeAll (if s.Own seg then [(0, r.bytes)] else [])) ∨
      ¬Quiet (s.openCalls seg + 1) faults ∧
        ((s.withFaults faults).writeRecord linuxHal getMaxSize seg uninit
          r).2.hal.persistentMemError ≠ .noError ∧
        Image.Cut (if s.Own seg then [(0, r.bytes)] else []) (s.imageOf n seg)
          (((s.withFaults faults).writeRecord linuxHal getMaxSize seg uninit r).2.imageOf n seg) := by
  have hlength : r.bytes.length ≤ n := by
    rw [← hn]
    exact le_fileSize (mapSound_mapped hmap hmax).1 hmax
  obtain ⟨f, hfile, heq⟩ := @writeRecord_eq getMaxSize seg uninit s hmap hmax hw husable r
  obtain ⟨f', hfile', hattempt⟩ := @writeRecord_attempt getMaxSize seg uninit s hmap hmax hw husable
    faults r
  obtain rfl : f = f' := Option.some.inj (hfile.symm.trans hfile')
  rcases hattempt with ⟨hquiet, hdone⟩ | ⟨hnot, hlost⟩ | ⟨-, hnot, hlost⟩
  · refine .inl ⟨_, hquiet, hdone, ?_⟩
    rw [heq]
    refine ⟨closed_opened hmap hmax ((working_opened hw).written 0) initialized_opened, rfl, ?_⟩
    have himage := image_written hn hfile hlength
    rw [imageOf, content, LinuxHal.content_closed]
    refine himage.trans ?_
    split <;> rfl
  · refine .inr ⟨fun h => hnot (quiet_add.mp h).1, hlost.error, ?_⟩
    have himage : ((s.withFaults faults).writeRecord linuxHal getMaxSize seg uninit r).2.imageOf n seg =
        s.imageOf n seg :=
      congrArg (OsFileContent.image · n) (congrFun hlost.content (.segment seg))
    rw [himage]
    exact .off _ _
  · refine .inr ⟨fun h => hnot (quiet_add.mp h).2, hlost.error, ?_⟩
    have himage : ((s.withFaults faults).writeRecord linuxHal getMaxSize seg uninit r).2.imageOf n seg =
        if s.Own seg then (s.imageOf n seg).write 0
          (r.bytes.take (storedBytes (faults.drop (s.openCalls seg)))) else s.imageOf n seg :=
      (congrArg (OsFileContent.image · n) (congrFun hlost.content (.segment seg))).trans
        (image_written hn hfile (Nat.le_trans (List.length_take_le' _ _) hlength))
    rw [himage]
    split
    next => exact .during _
    next => exact .off _ _

section

variable {image : List UInt8}

theorem Stopped.cut {s' : Storage LinuxHal} {offset : Nat} {bytes : List UInt8} {ws : Image.Writes}
    (h : Stopped n seg s offset bytes s') :
    Image.Cut ((offset, within n offset bytes) :: ws) (s.imageOf n seg) (s'.imageOf n seg) := by
  obtain ⟨k, himage⟩ := h.image
  rw [himage]
  exact .during k

def imageCalls (size : Nat) : Nat := 2 + (1 + blockCalls 24 size)

theorem writeImage_attempt (hmax : (getMaxSize seg).toNat + 24 < 2 ^ 31)
    (h : s.Closed getMaxSize seg) (hn : (s.fileSize seg).toNat = n)
    (hlen : 24 + image.length = n) (hlt : n < 2 ^ 63) (faults : List (Option Nat)) :
    (∃ s' : Storage LinuxHal, Quiet (imageCalls image.length) faults ∧
        writeImage (handlers linuxHal getMaxSize uninits) appSignature seg (s.withFaults faults) image =
          (.noError, s'.withFaults (faults.drop (imageCalls image.length))) ∧
        s'.Closed getMaxSize seg ∧ (s'.fileSize seg).toNat = n ∧
        s'.imageOf n seg = (s.imageOf n seg).writeAll (imageWrites appSignature image)) ∨
      ¬Quiet (imageCalls image.length) faults ∧
        (writeImage (handlers linuxHal getMaxSize uninits) appSignature seg (s.withFaults faults)
          image).1 ≠ .noError ∧
        Image.Cut (imageWrites appSignature image) (s.imageOf n seg)
          ((writeImage (handlers linuxHal getMaxSize uninits) appSignature seg (s.withFaults faults)
            image).2.imageOf n seg) := by
  have hheader : (imageHeader appSignature image).bytes.length = 16 := rfl
  have height : sizeofTransactionRecord.toNat = 8 := rfl
  have hbehind : (sizeofTransactionRecord + sizeofPersistenceHeader.toUInt64).toNat = 24 := rfl
  have hcalls : 1 + blockCalls 8 16 = 2 := by decide
  have hwithin₁ : within n 8 (imageHeader appSignature image).bytes =
      (imageHeader appSignature image).bytes := within_of_le (by omega)
  have hwithin₂ : within n 24 image = image := within_of_le (Nat.le_of_eq hlen)
  have hcall (offset : UInt64) (bytes : List UInt8) (s : Storage LinuxHal) :
      (handlers linuxHal getMaxSize uninits).write seg offset bytes s =
        s.izotStorageWriteSeg linuxHal getMaxSize seg (uninits seg) offset bytes := rfl
  have hfirst := @write_attempt getMaxSize seg (uninits seg) s n hmax h hn sizeofTransactionRecord
    (imageHeader appSignature image).bytes (by omega) (by omega) faults
  rw [height, hheader, hcalls] at hfirst
  rw [imageCalls, quiet_add, ← List.drop_drop]
  unfold imageWrites writeImage
  simp only [hcall]
  cases hfirst with
  | inr hlost =>
    obtain ⟨hnot, hlost⟩ := hlost
    generalize (s.withFaults faults).izotStorageWriteSeg linuxHal getMaxSize seg (uninits seg) _ _ = r
      at hlost
    have hcut : Image.Cut ((8, _) :: [(24, image)]) _ _ := hlost.2.cut
    rw [hwithin₁] at hcut
    simp only [ne_eq, hlost.1, not_false_eq_true, if_true]
    exact .inr ⟨fun h => hnot h.1, LonStatusCode.noConfusion, hcut⟩
  | inl hdone =>
    obtain ⟨s', hquiet, hdone, haccess⟩ := hdone
    have himage := haccess.image hn (by omega)
    have hn' : (s'.fileSize seg).toNat = n := (congrArg UInt64.toNat haccess.fileSize).trans hn
    rw [hwithin₁] at himage
    generalize faults.drop 2 = faults' at hdone ⊢
    have hsecond := @write_attempt getMaxSize seg (uninits seg) s' n hmax haccess.closed hn'
      (sizeofTransactionRecord + sizeofPersistenceHeader.toUInt64) image (by omega) (by omega) faults'
    rw [hbehind] at hsecond
    rw [hdone]
    dsimp only
    rw [if_neg (not_not_intro rfl)]
    cases hsecond with
    | inr hlost =>
      obtain ⟨hnot, hlost⟩ := hlost
      generalize (s'.withFaults faults').izotStorageWriteSeg linuxHal getMaxSize seg (uninits seg) _ _ = r
        at hlost
      have hcut : Image.Cut [(24, _)] _ _ := hlost.2.cut
      rw [hwithin₂, himage] at hcut
      simp only [ne_eq, hlost.1, not_false_eq_true, if_true]
      exact .inr ⟨fun h => hnot h.2, LonStatusCode.noConfusion, .after hcut⟩
    | inl hdone =>
      obtain ⟨s'', hquiet', hdone, haccess'⟩ := hdone
      have himage' := haccess'.image hn' (by omega)
      rw [hwithin₂, himage] at himage'
      rw [hdone]
      exact .inl ⟨s'', ⟨hquiet, hquiet'⟩, rfl, haccess'.closed,
        (congrArg UInt64.toNat haccess'.fileSize).trans hn', himage'⟩

theorem store_of_opened {s₁ s₂ : Storage LinuxHal} {status : LonStatusCode}
    (henter : s.writeRecord linuxHal getMaxSize seg (uninits seg) ⟨TX_SIGNATURE, TX_DATA_INVALID⟩ =
      (status, s₁))
    (hserialize : images.serialize seg = (.noError, image))
    (hopen : s₁.izotStorageOpenSegForWrite linuxHal getMaxSize seg (uninits seg)
        (sizeofPersistenceHeader.toUInt64 + (imageHeader appSignature image).length.toUInt64) =
      (some seg, s₂))
    {s₃ : Storage LinuxHal} {written : LonStatusCode}
    (hwrite : writeImage (handlers linuxHal getMaxSize uninits) appSignature seg s₂ image =
      (written, s₃)) :
    izotPersistentSegStore (handlers linuxHal getMaxSize uninits) appSignature seg s images =
      if written ≠ .noError then (written, s₃)
      else (.noError,
        (s₃.writeRecord linuxHal getMaxSize seg (uninits seg) ⟨TX_SIGNATURE, TX_DATA_VALID⟩).2) := by
  have henter' : (handlers linuxHal getMaxSize uninits).enterTransaction seg s =
      (status, s₁) := henter
  have hopen' : (handlers linuxHal getMaxSize uninits).openForWrite seg
      (sizeofPersistenceHeader.toUInt64 + (imageHeader appSignature image).length.toUInt64) s₁ =
      (some seg, s₂) := hopen
  unfold izotPersistentSegStore
  simp only [henter', hserialize, hopen', hwrite, ne_eq, not_true, if_false, reduceCtorEq]
  split
  next => rfl
  next => rfl

def firstCalls (s : Storage LinuxHal) (seg : IzotPersistentSegType) : Nat := s.openCalls seg + 1 + 2

theorem store_attempt (hmap : s.MapSound getMaxSize) (hmax : (getMaxSize seg).toNat + 24 < 2 ^ 31)
    (hw : s.hal.Working) (husable : s.hal.Usable seg) (himage : Storable getMaxSize images seg image)
    (hfits : (s.eraseOf seg (uninits seg)).eraseRequired = true →
      24 + image.length ≤ BLOCK_SIZE.toNat)
    (hn : 24 + (getMaxSize seg).toNat = n) (faults : List (Option Nat))
    {r : LonStatusCode × Storage LinuxHal} (hr : izotPersistentSegStore
      (handlers linuxHal getMaxSize uninits) appSignature seg (s.withFaults faults) images = r) :
    ¬Quiet (s.firstCalls seg) faults ∧
        Image.Cut (s.invalidation n seg (s.eraseOf seg (uninits seg))) (s.imageOf n seg)
          (r.2.imageOf n seg) ∨
      Quiet (s.firstCalls seg) faults ∧
        ¬Quiet (imageCalls image.length) (faults.drop (s.firstCalls seg)) ∧ r.1 ≠ .noError ∧
        Image.Cut (imageWrites appSignature image)
          ((s.imageOf n seg).writeAll (s.invalidation n seg (s.eraseOf seg (uninits seg))))
          (r.2.imageOf n seg) ∨
      Quiet (s.firstCalls seg) faults ∧
        Quiet (imageCalls image.length) (faults.drop (s.firstCalls seg)) ∧ r.1 = .noError ∧
        r.2.imageOf n seg =
          (((s.imageOf n seg).writeAll (s.invalidation n seg (s.eraseOf seg (uninits seg)))).writeAll
            (imageWrites appSignature image)).write 0 (validRecord.take (recordBytes
              (faults.drop (s.firstCalls seg + imageCalls image.length)))) := by
  have hlen := himage.length
  have hdata := @toNat_dataSize appSignature image (by omega)
  have hsize : ((s.mapped getMaxSize seg (uninits seg)).fileSize seg).toNat = n :=
    (fileSize_mapped hmap hmax himage.allocated).trans hn
  have hentered := @enter_attempt getMaxSize seg (uninits seg) s n hmap hmax hw husable hsize faults
    ⟨TX_SIGNATURE, TX_DATA_INVALID⟩
  generalize henter : (s.withFaults faults).writeRecord linuxHal getMaxSize seg (uninits seg)
    ⟨TX_SIGNATURE, TX_DATA_INVALID⟩ = r₁ at hentered
  obtain ⟨status, x₁⟩ := r₁
  have hquiet : Quiet (s.firstCalls seg) faults ↔ Quiet (s.openCalls seg + 1) faults ∧
      Quiet 2 (faults.drop (s.openCalls seg + 1)) := quiet_add
  have hdrop : faults.drop (s.firstCalls seg) = (faults.drop (s.openCalls seg + 1)).drop 2 := by
    rw [List.drop_drop, firstCalls]
  rw [invalidation, Image.writeAll_append, ← List.drop_drop, hquiet, hdrop]
  subst hr
  cases hentered with
  | inr hlost =>
    obtain ⟨hnot, hlost⟩ := hlost
    rw [store_of_entered henter himage.serialized hlost.1]
    exact .inl ⟨fun h => hnot h.1, hlost.2.left _⟩
  | inl hdone =>
    obtain ⟨s₁, hquiet₁, rfl, hclosed₁, hmap₁, himage₁⟩ := hdone
    have hn₁ : (s₁.fileSize seg).toNat = n := by
      rw [fileSize, hmap₁]
      exact hsize
    have hplaced₁ : s₁.Placed seg :=
      hclosed₁.settled.2.resolve_right fun h => Bool.noConfusion (himage.allocated.symm.trans h)
    have hmaxData := hclosed₁.map.size seg hplaced₁
    have herase : (s₁.segmentMap seg).erase = s.eraseOf seg (uninits seg) := by
      rw [hmap₁, erase_mapped]
    have herased : s₁.erasedBytes seg = eraseBytes (s.eraseOf seg (uninits seg)) := by
      rw [erasedBytes_eq hclosed₁, herase]
    generalize faults.drop (s.openCalls seg + 1) = faults₁ at *
    have hopened := @openForWrite_attempt getMaxSize seg (uninits seg) s₁ n hmax hclosed₁ hn₁
      (sizeofPersistenceHeader.toUInt64 + (imageHeader appSignature image).length.toUInt64)
      (UInt64.le_iff_toNat_le.mpr (by omega))
      (by rw [herase, hdata]; intro hreq; have := hfits hreq; omega) (by omega) faults₁
    rw [herased] at hopened
    generalize hopen : (s₁.withFaults faults₁).izotStorageOpenSegForWrite linuxHal getMaxSize seg
      (uninits seg) (sizeofPersistenceHeader.toUInt64 +
        (imageHeader appSignature image).length.toUInt64) = r₂ at hopened
    obtain ⟨opened, x₂⟩ := r₂
    rw [← himage₁]
    cases hopened with
    | inr hlost =>
      obtain ⟨hnot, rfl, hlost⟩ := hlost
      rw [store_of_not_opened henter himage.serialized hopen hlost.error]
      refine .inl ⟨fun h => hnot h.2, .right _ ?_⟩
      rw [← himage₁]
      exact hlost.cut
    | inl hdone =>
      obtain ⟨s₂, hquiet₂, heq, haccess₂⟩ := hdone
      obtain ⟨rfl, rfl⟩ := Prod.mk.inj heq
      have himage₂ := haccess₂.image hn₁ (Nat.zero_le n)
      have hn₂ : (s₂.fileSize seg).toNat = n := (congrArg UInt64.toNat haccess₂.fileSize).trans hn₁
      generalize faults₁.drop 2 = faults₂ at *
      have hwritten := @writeImage_attempt getMaxSize uninits appSignature seg s₂ n image hmax
        haccess₂.closed hn₂ (by omega) (by omega) faults₂
      generalize hwrite : writeImage (handlers linuxHal getMaxSize uninits) appSignature seg
        (s₂.withFaults faults₂) image = r₃ at hwritten
      obtain ⟨written, x₃⟩ := r₃
      have herasing : (s₁.imageOf n seg).writeAll [(0, within n 0 (eraseBytes
          (s.eraseOf seg (uninits seg))))] = s₂.imageOf n seg := himage₂.symm
      rw [store_of_opened henter himage.serialized hopen hwrite, herasing]
      cases hwritten with
      | inr hlost =>
        obtain ⟨hnot, hstatus, hcut⟩ := hlost
        rw [if_pos hstatus]
        exact .inr (.inl ⟨⟨hquiet₁, hquiet₂⟩, hnot, hstatus, hcut⟩)
      | inl hdone =>
        obtain ⟨s₃, hquiet₃, heq, hclosed₃, hn₃, himage₃⟩ := hdone
        obtain ⟨rfl, rfl⟩ := Prod.mk.inj heq
        rw [if_neg (not_not_intro rfl), ← himage₃]
        exact .inr (.inr ⟨⟨hquiet₁, hquiet₂⟩, hquiet₃, rfl,
          image_writeRecord hmax hclosed₃ hn₃ (by omega) _ _⟩)

theorem store_cut (hmap : s.MapSound getMaxSize) (hmax : (getMaxSize seg).toNat + 24 < 2 ^ 31)
    (hw : s.hal.Working) (husable : s.hal.Usable seg) (himage : Storable getMaxSize images seg image)
    (hfits : (s.eraseOf seg (uninits seg)).eraseRequired = true →
      24 + image.length ≤ BLOCK_SIZE.toNat)
    (hn : 24 + (getMaxSize seg).toNat = n) (faults : List (Option Nat)) :
    Image.Cut (s.invalidation n seg (s.eraseOf seg (uninits seg)) ++
        (imageWrites appSignature image ++ [(0, validRecord)]))
      (s.imageOf n seg)
      ((izotPersistentSegStore (handlers linuxHal getMaxSize uninits) appSignature seg
        (s.withFaults faults) images).2.imageOf n seg) := by
  rcases @store_attempt getMaxSize uninits appSignature images seg s n image hmap hmax hw husable
    himage hfits hn faults _ rfl with ⟨-, hcut⟩ | ⟨-, -, -, hcut⟩ | ⟨-, -, -, heq⟩
  · exact hcut.left _
  · exact .right _ (hcut.left _)
  · rw [heq]
    exact .right _ (.right _ (.during _))

end

end Storage

end LonStack
