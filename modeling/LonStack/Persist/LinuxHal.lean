import LonStack.Persist.Storage
import LonStack.Lib.Region

namespace LonStack

open Lib

-- What the storage functions use of the operating system, whose calls behave as documented.

inductive OsFile
  | segment (seg : IzotPersistentSegType)
  | other (k : Nat)
  deriving DecidableEq, Repr

/-- A regular file keeps what is written, a sink such as the null device does not, and in a stream such
as a terminal or a pipe no offset can be looked up. -/
inductive OsFileKind
  | regular
  | sink
  | stream
  deriving DecidableEq, Repr

structure OsFileContent where
  size : Nat
  data : Image

namespace OsFileContent

variable (c : OsFileContent)

def truncate (n : Nat) : OsFileContent := ⟨n, fun k => if k < c.size then c.data k else 0⟩

/-- Fills up to the offset if the file ends before it. -/
def writeAt (offset : Nat) (bytes : List UInt8) : OsFileContent :=
  let c := if c.size < offset then c.truncate offset else c
  ⟨max c.size (offset + bytes.length), c.data.write offset bytes⟩

end OsFileContent

structure LinuxOs where
  descriptors : List (Option OsFile)
  content : OsFile → OsFileContent
  otherKind : Nat → OsFileKind

namespace LinuxOs

variable (os : LinuxOs) (f : OsFile) (d : Nat)

def kind : OsFile → OsFileKind
  | .segment _ => .regular
  | .other k => os.otherKind k

def refersTo : Option OsFile := os.descriptors.getD d none

def size : Nat := if os.kind f = .regular then (os.content f).size else 0

def setContent (c : OsFileContent) : LinuxOs :=
  { os with content := Function.update os.content f c }

def writeAt (offset : Nat) (bytes : List UInt8) : LinuxOs :=
  if os.kind f = .regular then os.setContent f ((os.content f).writeAt offset bytes) else os

def lowestFree : Nat := os.descriptors.findIdx Option.isNone

def openFile : LinuxOs :=
  if os.lowestFree < os.descriptors.length then
    { os with descriptors := os.descriptors.set os.lowestFree (some f) }
  else { os with descriptors := os.descriptors ++ [some f] }

def closeFile : LinuxOs := { os with descriptors := os.descriptors.set d none }

end LinuxOs

/-- The static data of the platform, with the state of the operating system. `storageFd` is `none` for
-1. A call of the platform that gets as far as the operating system takes the next of the `faults`: it
fails, after it has stored so many bytes. -/
structure LinuxHal where
  persistentMemError : LonStatusCode
  persistentMemInitialized : Bool
  storageFd : IzotPersistentSegType → Option Nat
  os : LinuxOs
  faults : List (Option Nat)

namespace LinuxHal

variable (h : LinuxHal) (seg : IzotPersistentSegType)

def fail (status : LonStatusCode) : LonStatusCode × LinuxHal :=
  (status, { h with persistentMemError := status })

def guarded (call : LinuxHal → LonStatusCode × LinuxHal) : LonStatusCode × LinuxHal :=
  if h.persistentMemError ≠ .noError then (h.persistentMemError, h) else call h

def fault : Option Nat := h.faults.head?.join

def taken : LinuxHal := { h with faults := h.faults.tail }

def file : Option OsFile := (h.storageFd seg).bind h.os.refersTo

def halInitStorage : LonStatusCode × LinuxHal :=
  h.guarded fun h =>
    if h.persistentMemInitialized then (.noError, h)
    else
      let initialized := { h.taken with persistentMemInitialized := true }
      if h.fault = none then (.noError, initialized) else initialized.fail .persistentDataDirError

def halStorageInfo : LonStatusCode × LinuxHal := (h.persistentMemError, h)

/-- The file is created if there is none, and brought to its size. -/
def halOpenStorageSegment (maxDataSize : UInt64) : LonStatusCode × LinuxHal :=
  h.guarded fun h =>
    if (h.storageFd seg).isSome then (.noError, h)
    else if h.fault = none then
      let content := (h.os.content (.segment seg)).truncate maxDataSize.toNat
      (.noError, { h.taken with
        storageFd := Function.update h.storageFd seg (some h.os.lowestFree)
        os := (h.os.openFile (.segment seg)).setContent (.segment seg) content })
    else h.taken.fail .persistentDataAccessError

def halCloseStorageSegment : LonStatusCode × LinuxHal :=
  h.guarded fun h =>
    match h.storageFd seg with
    | none => (.noError, h)
    | some d =>
      (.noError, { h with
        storageFd := Function.update h.storageFd seg none
        os := h.os.closeFile d })

/-- Writes to the file. An offset is the distance of two virtual offsets, and none that is negative as
an `off_t` can be looked up. -/
def transfer (fileStart : UInt64) (bytes : List UInt8) : LonStatusCode × LinuxHal :=
  match h.file seg with
  | none => h.fail .persistentDataAccessError
  | some f =>
    if h.os.kind f = .stream ∨ 2 ^ 63 ≤ fileStart.toNat then h.fail .persistentDataAccessError
    else
      match h.fault with
      | none => (.noError, { h.taken with os := h.os.writeAt f fileStart.toNat bytes })
      | some n =>
        { h.taken with os := h.os.writeAt f fileStart.toNat (bytes.take n) }.fail
          .persistentDataAccessError

def halPrepareStorageSegment (segStart start size : UInt64) (eraseValue : UInt8) :
    LonStatusCode × LinuxHal :=
  h.guarded fun h => h.transfer seg (segStart - start) (List.replicate size.toNat eraseValue)

def halWriteStorageSegment (buf : List UInt8) (segStart start : UInt64) :
    LonStatusCode × LinuxHal :=
  h.guarded fun h => h.transfer seg (start - segStart) buf

def halReadStorageSegment (segStart start size : UInt64) :
    (LonStatusCode × List UInt8) × LinuxHal :=
  if h.persistentMemError ≠ .noError then ((h.persistentMemError, []), h)
  else
    let failed := h.fail .persistentDataAccessError
    match h.file seg with
    | none => ((failed.1, []), failed.2)
    | some f =>
      if h.os.kind f = .stream ∨ h.os.size f < (start - segStart).toNat + size.toNat ∨
          h.fault ≠ none then ((failed.1, []), failed.2.taken)
      else ((.noError, (h.os.content f).data.slice (start - segStart).toNat size.toNat), h.taken)

end LinuxHal

abbrev LINUX_FLASH_OFFSET : UInt64 := 0
abbrev FLASH_REGION_SIZE : UInt64 := 0x6000
abbrev BLOCK_SIZE : UInt64 := 0x1000
abbrev NO_OF_REGIONS : Nat := 1

def linuxHal : Hal LinuxHal where
  info :=
    { regionOffset := LINUX_FLASH_OFFSET
      regionSize := FLASH_REGION_SIZE
      blockSize := BLOCK_SIZE
      numberOfRegions := NO_OF_REGIONS
      erase := ⟨false, 0⟩ }
  persistentMemError := LinuxHal.persistentMemError
  initStorage := LinuxHal.halInitStorage
  storageInfo := LinuxHal.halStorageInfo
  openSegment seg size h := h.halOpenStorageSegment seg size
  closeSegment seg h := h.halCloseStorageSegment seg
  prepareSegment seg segStart start size value h :=
    h.halPrepareStorageSegment seg segStart start size value
  writeSegment seg data segStart start h := h.halWriteStorageSegment seg data segStart start
  readSegment seg segStart start size h := h.halReadStorageSegment seg segStart start size

namespace OsFileContent

variable {c : OsFileContent} {bytes bytes' : List UInt8} {offset n k : Nat}

@[simp] theorem size_truncate : (c.truncate n).size = n := rfl

theorem data_truncate (h : k < c.size) : (c.truncate n).data k = c.data k := if_pos h

theorem writeAt_of_le (h : offset ≤ c.size) :
    c.writeAt offset bytes = ⟨max c.size (offset + bytes.length), c.data.write offset bytes⟩ := by
  rw [writeAt, if_neg (Nat.not_lt_of_le h)]

theorem writeAt_append (h : offset ≤ c.size) :
    c.writeAt offset (bytes ++ bytes') =
      (c.writeAt offset bytes).writeAt (offset + bytes.length) bytes' := by
  rw [writeAt_of_le h, writeAt_of_le h, writeAt_of_le (Nat.le_max_right _ _), Image.write_append,
    List.length_append, Nat.max_assoc]
  congr 1
  omega

end OsFileContent

namespace LinuxOs

variable {os : LinuxOs} {f : OsFile} {d : Nat}

theorem refersTo_lowestFree_of_not (h : d ≠ os.lowestFree) :
    (os.openFile f).refersTo d = os.refersTo d := by
  unfold refersTo openFile
  split
  next hlt => simp only [List.getD_eq_getElem?_getD, List.getElem?_set_ne (Ne.symm h)]
  next hge =>
    have hlen : os.lowestFree = os.descriptors.length :=
      Nat.le_antisymm List.findIdx_le_length (Nat.le_of_not_lt hge)
    dsimp only
    rw [List.getD_eq_getElem?_getD, List.getD_eq_getElem?_getD, List.getElem?_append]
    split
    next => rfl
    next hd =>
      have hgt : os.descriptors.length < d := by omega
      rw [List.getElem?_eq_none (by rw [List.length_singleton]; omega),
        List.getElem?_eq_none (Nat.le_of_lt hgt)]

@[simp] theorem refersTo_openFile : (os.openFile f).refersTo os.lowestFree = some f := by
  unfold refersTo openFile
  split
  next hlt => rw [List.getD_eq_getElem?_getD, List.getElem?_set_self hlt]; rfl
  next hge =>
    have hlen : os.lowestFree = os.descriptors.length :=
      Nat.le_antisymm List.findIdx_le_length (Nat.le_of_not_lt hge)
    rw [hlen, List.getD_eq_getElem?_getD, List.getElem?_append_right (Nat.le_refl _), Nat.sub_self]
    rfl

theorem refersTo_lowestFree : os.refersTo os.lowestFree = none := by
  unfold refersTo
  rw [List.getD_eq_getElem?_getD]
  cases hget : os.descriptors[os.lowestFree]? with
  | none => rfl
  | some x =>
    obtain ⟨hlt, hx⟩ := List.getElem?_eq_some_iff.mp hget
    have hnone : (os.descriptors[os.lowestFree]).isNone = true := List.findIdx_getElem
    rw [hx] at hnone
    exact Option.isNone_iff_eq_none.mp hnone

@[simp] theorem content_openFile : (os.openFile f).content = os.content := by
  unfold openFile
  split <;> rfl

@[simp] theorem kind_openFile (f' : OsFile) : (os.openFile f).kind f' = os.kind f' := by
  unfold openFile
  split <;> cases f' <;> rfl

@[simp] theorem content_setContent (c : OsFileContent) :
    (os.setContent f c).content f = c := by
  rw [setContent]
  exact Function.update_self f c os.content

theorem content_setContent_of_ne {f' : OsFile} (c : OsFileContent) (h : f' ≠ f) :
    (os.setContent f c).content f' = os.content f' := by
  rw [setContent]
  exact Function.update_of_ne h c os.content

@[simp] theorem kind_setContent (c : OsFileContent) (f' : OsFile) :
    (os.setContent f c).kind f' = os.kind f' := by cases f' <;> rfl

theorem writeAt_segment (seg : IzotPersistentSegType) (offset : Nat) (bytes : List UInt8) :
    os.writeAt (.segment seg) offset bytes =
      os.setContent (.segment seg) ((os.content (.segment seg)).writeAt offset bytes) := if_pos rfl

theorem content_writeAt_of_ne {f' : OsFile} (offset : Nat) (bytes : List UInt8) (h : f' ≠ f) :
    (os.writeAt f offset bytes).content f' = os.content f' := by
  unfold writeAt
  split
  next => exact content_setContent_of_ne _ h
  next => rfl

@[simp] theorem kind_writeAt (offset : Nat) (bytes : List UInt8) (f' : OsFile) :
    (os.writeAt f offset bytes).kind f' = os.kind f' := by
  unfold writeAt
  split
  next => exact kind_setContent _ f'
  next => rfl

@[simp] theorem refersTo_writeAt (offset : Nat) (bytes : List UInt8) :
    (os.writeAt f offset bytes).refersTo d = os.refersTo d := by
  unfold writeAt
  split <;> rfl

end LinuxOs

namespace LinuxHal

variable {h : LinuxHal} {seg : IzotPersistentSegType} {f : OsFile} {bytes : List UInt8}
  {maxDataSize segStart start size fileStart : UInt64} {value : UInt8}

structure Working (h : LinuxHal) : Prop where
  healthy : h.persistentMemError = .noError
  works : h.faults = []

def Usable (h : LinuxHal) (seg : IzotPersistentSegType) : Prop :=
  h.storageFd seg ≠ none → ∃ f, h.file seg = some f ∧ h.os.kind f ≠ .stream

def initialized (h : LinuxHal) : LinuxHal := { h with persistentMemInitialized := true }

def opened (h : LinuxHal) (seg : IzotPersistentSegType) (maxDataSize : UInt64) : LinuxHal :=
  if (h.storageFd seg).isSome then h
  else { h with
    storageFd := Function.update h.storageFd seg (some h.os.lowestFree)
    os := (h.os.openFile (.segment seg)).setContent (.segment seg)
      ((h.os.content (.segment seg)).truncate maxDataSize.toNat) }

def closed (h : LinuxHal) (seg : IzotPersistentSegType) : LinuxHal :=
  match h.storageFd seg with
  | none => h
  | some d => { h with
      storageFd := Function.update h.storageFd seg none
      os := h.os.closeFile d }

def written (h : LinuxHal) (f : OsFile) (offset : Nat) (bytes : List UInt8) : LinuxHal :=
  { h with os := h.os.writeAt f offset bytes }

section

variable {seg' : IzotPersistentSegType} {offset : Nat}

theorem initialized_opened :
    (h.initialized.opened seg maxDataSize).persistentMemInitialized = true := by
  unfold opened
  split <;> rfl

theorem initialized_closed : (h.closed seg).persistentMemInitialized = h.persistentMemInitialized := by
  unfold closed
  split <;> rfl

@[simp] theorem opened_of_some {d : Nat} (hfd : h.storageFd seg = some d) :
    h.opened seg maxDataSize = h := by
  rw [opened, hfd]
  rfl

theorem opened_of_none (hfd : h.storageFd seg = none) :
    h.opened seg maxDataSize = { h with
      storageFd := Function.update h.storageFd seg (some h.os.lowestFree)
      os := (h.os.openFile (.segment seg)).setContent (.segment seg)
        ((h.os.content (.segment seg)).truncate maxDataSize.toNat) } := by
  rw [opened, hfd]
  rfl

theorem file_opened (hfd : h.storageFd seg = none) :
    (h.opened seg maxDataSize).file seg = some (.segment seg) := by
  rw [opened_of_none hfd, file]
  dsimp only
  rw [Function.update_self]
  exact LinuxOs.refersTo_openFile

theorem content_opened (hfd : h.storageFd seg = none) :
    (h.opened seg maxDataSize).os.content (.segment seg) =
      (h.os.content (.segment seg)).truncate maxDataSize.toNat := by
  rw [opened_of_none hfd]
  exact LinuxOs.content_setContent _

theorem content_opened_of_ne (hne : f ≠ .segment seg) :
    (h.opened seg maxDataSize).os.content f = h.os.content f := by
  unfold opened
  split
  next => rfl
  next =>
    dsimp only
    rw [LinuxOs.content_setContent_of_ne _ hne, LinuxOs.content_openFile]

@[simp] theorem kind_opened : (h.opened seg maxDataSize).os.kind f = h.os.kind f := by
  unfold opened
  split
  next => rfl
  next => rw [LinuxOs.kind_setContent, LinuxOs.kind_openFile]

theorem file_opened_of_ne (hne : seg' ≠ seg) (hfile : h.file seg' = some f) :
    (h.opened seg maxDataSize).file seg' = some f := by
  unfold opened
  split
  next => exact hfile
  next =>
    obtain ⟨d, hfd, hrefers⟩ := Option.bind_eq_some_iff.mp hfile
    have hd : d ≠ h.os.lowestFree := by
      rintro rfl
      rw [LinuxOs.refersTo_lowestFree] at hrefers
      cases hrefers
    unfold file
    dsimp only
    rw [Function.update_of_ne hne, hfd]
    exact (LinuxOs.refersTo_lowestFree_of_not hd).trans hrefers

theorem storageFd_opened_of_ne (hne : seg' ≠ seg) :
    (h.opened seg maxDataSize).storageFd seg' = h.storageFd seg' := by
  unfold opened
  split
  next => rfl
  next => exact Function.update_of_ne hne _ _

@[simp] theorem storageFd_closed : (h.closed seg).storageFd seg = none := by
  unfold closed
  split
  next hfd => exact hfd
  next => exact Function.update_self _ _ _

theorem storageFd_closed_of_ne (hne : seg' ≠ seg) :
    (h.closed seg).storageFd seg' = h.storageFd seg' := by
  unfold closed
  split
  next => rfl
  next => exact Function.update_of_ne hne _ _

@[simp] theorem content_closed : (h.closed seg).os.content = h.os.content := by
  unfold closed
  split <;> rfl

@[simp] theorem kind_closed : (h.closed seg).os.kind f = h.os.kind f := by
  unfold closed
  split <;> cases f <;> rfl

theorem file_closed_of_ne (hne : seg' ≠ seg) (hfd : h.storageFd seg' ≠ h.storageFd seg) :
    (h.closed seg).file seg' = h.file seg' := by
  unfold closed
  split
  next => rfl
  next d hd =>
    unfold file
    dsimp only
    rw [Function.update_of_ne hne]
    cases hfd' : h.storageFd seg' with
    | none => rfl
    | some d' =>
      have hdd : d ≠ d' := by
        rintro rfl
        exact hfd (hfd'.trans hd.symm)
      simp only [Option.bind_some, LinuxOs.refersTo, LinuxOs.closeFile,
        List.getD_eq_getElem?_getD, List.getElem?_set_ne hdd]

@[simp] theorem storageFd_written : (h.written f offset bytes).storageFd = h.storageFd := rfl

@[simp] theorem file_written : (h.written f offset bytes).file seg = h.file seg :=
  congrArg (h.storageFd seg).bind (funext fun _ => LinuxOs.refersTo_writeAt offset bytes)

@[simp] theorem kind_written {f' : OsFile} :
    (h.written f offset bytes).os.kind f' = h.os.kind f' := LinuxOs.kind_writeAt _ _ _

theorem content_written :
    (h.written (.segment seg) offset bytes).os.content (.segment seg) =
      (h.os.content (.segment seg)).writeAt offset bytes := by
  rw [written, LinuxOs.writeAt_segment]
  exact LinuxOs.content_setContent _

theorem content_written_of_ne {f' : OsFile} (hne : f' ≠ f) :
    (h.written f offset bytes).os.content f' = h.os.content f' :=
  LinuxOs.content_writeAt_of_ne _ _ hne

theorem kind_segment (os : LinuxOs) (seg : IzotPersistentSegType) :
    os.kind (.segment seg) ≠ .stream := OsFileKind.noConfusion

theorem Usable.opened (husable : h.Usable seg) :
    ∃ f, (h.opened seg maxDataSize).file seg = some f ∧
      (h.opened seg maxDataSize).os.kind f ≠ .stream := by
  cases hfd : h.storageFd seg with
  | none => exact ⟨_, file_opened hfd, kind_segment _ seg⟩
  | some d =>
    rw [opened_of_some hfd]
    exact husable (hfd ▸ Option.some_ne_none d)

end

theorem guarded_eq {call : LinuxHal → LonStatusCode × LinuxHal}
    (hhealthy : h.persistentMemError = .noError) : h.guarded call = call h :=
  if_neg (not_not_intro hhealthy)

theorem transfer_of_fault (hfile : h.file seg = some f) (hkind : h.os.kind f ≠ .stream)
    (hstart : fileStart.toNat < 2 ^ 63) (hfault : h.fault = none) :
    h.transfer seg fileStart bytes = (.noError, h.taken.written f fileStart.toNat bytes) := by
  rw [transfer, hfile]
  dsimp only
  rw [if_neg (not_or.mpr ⟨hkind, Nat.not_le_of_lt hstart⟩), hfault]
  rfl

theorem halPrepareStorageSegment_of_fault (hhealthy : h.persistentMemError = .noError)
    (hfile : h.file seg = some f) (hkind : h.os.kind f ≠ .stream)
    (hlt : (segStart - start).toNat < 2 ^ 63) (hfault : h.fault = none) :
    h.halPrepareStorageSegment seg segStart start size value =
      (.noError, h.taken.written f (segStart - start).toNat (List.replicate size.toNat value)) := by
  rw [halPrepareStorageSegment, guarded_eq hhealthy]
  exact transfer_of_fault hfile hkind hlt hfault

theorem halWriteStorageSegment_of_bad (hhealthy : h.persistentMemError = .noError)
    (hbad : ∀ f, h.file seg = some f → h.os.kind f = .stream) :
    h.halWriteStorageSegment seg bytes segStart start = h.fail .persistentDataAccessError := by
  rw [halWriteStorageSegment, guarded_eq hhealthy, transfer]
  cases hfile : h.file seg with
  | none => rfl
  | some f => exact if_pos (.inl (hbad f hfile))

theorem transfer_cases (h : LinuxHal) (seg : IzotPersistentSegType) (fileStart : UInt64)
    (bytes : List UInt8) :
    (∃ f, h.file seg = some f ∧ h.os.kind f ≠ .stream ∧ fileStart.toNat < 2 ^ 63 ∧
        h.fault = none) ∨
      ((h.transfer seg fileStart bytes).1 ≠ .noError ∧
        (h.transfer seg fileStart bytes).2.persistentMemError ≠ .noError) := by
  have hfail (h : LinuxHal) : (h.fail .persistentDataAccessError).1 ≠ .noError ∧
      (h.fail .persistentDataAccessError).2.persistentMemError ≠ .noError := ⟨nofun, nofun⟩
  cases hfile : h.file seg with
  | none =>
    unfold transfer
    rw [hfile]
    exact .inr (hfail _)
  | some f =>
    by_cases hbad : h.os.kind f = .stream ∨ 2 ^ 63 ≤ fileStart.toNat
    case pos =>
      unfold transfer
      simp only [hfile, if_pos hbad]
      exact .inr (hfail _)
    case neg =>
      obtain ⟨hkind, hstart⟩ := not_or.mp hbad
      cases hfault : h.fault with
      | none => exact .inl ⟨f, rfl, hkind, Nat.lt_of_not_le hstart, rfl⟩
      | some n =>
        unfold transfer
        simp only [hfile, if_neg hbad, hfault]
        exact .inr (hfail _)

theorem halPrepareStorageSegment_cases (h : LinuxHal) (seg : IzotPersistentSegType)
    (segStart start size : UInt64) (value : UInt8) :
    (h.persistentMemError = .noError ∧ h.fault = none ∧ (segStart - start).toNat < 2 ^ 63 ∧
        ∃ f, h.file seg = some f ∧ h.os.kind f ≠ .stream) ∨
      ((h.halPrepareStorageSegment seg segStart start size value).1 ≠ .noError ∧
        (h.halPrepareStorageSegment seg segStart start size value).2.persistentMemError ≠
          .noError) := by
  by_cases hhealthy : h.persistentMemError = .noError
  case pos =>
    rw [halPrepareStorageSegment, guarded_eq hhealthy]
    cases transfer_cases h seg (segStart - start) (List.replicate size.toNat value) with
    | inl hgood =>
      obtain ⟨f, hfile, hkind, hlt, hfault⟩ := hgood
      exact .inl ⟨hhealthy, hfault, hlt, f, hfile, hkind⟩
    | inr hbad => exact .inr hbad
  case neg =>
    have heq : h.halPrepareStorageSegment seg segStart start size value =
        (h.persistentMemError, h) := if_pos hhealthy
    rw [heq]
    exact .inr ⟨hhealthy, hhealthy⟩

namespace Working

variable (hw : h.Working)

include hw

theorem fault : h.fault = none := by rw [LinuxHal.fault, hw.works]; rfl

theorem taken : h.taken = h := by
  rw [LinuxHal.taken, hw.works]
  exact congrArg (fun faults => { h with faults := faults }) hw.works.symm

theorem halInitStorage : h.halInitStorage = (.noError, h.initialized) := by
  rw [LinuxHal.halInitStorage, guarded_eq hw.healthy, hw.fault, hw.taken]
  by_cases hinit : h.persistentMemInitialized = true
  case pos =>
    rw [if_pos hinit, initialized]
    exact congrArg (fun b => (LonStatusCode.noError, { h with persistentMemInitialized := b })) hinit
  case neg => rw [if_neg hinit, if_pos rfl]; rfl

theorem halOpenStorageSegment :
    h.halOpenStorageSegment seg maxDataSize = (.noError, h.opened seg maxDataSize) := by
  rw [LinuxHal.halOpenStorageSegment, guarded_eq hw.healthy, hw.fault, hw.taken, opened]
  split
  next => rfl
  next => rw [if_pos rfl]

theorem halCloseStorageSegment : h.halCloseStorageSegment seg = (.noError, h.closed seg) := by
  rw [LinuxHal.halCloseStorageSegment, guarded_eq hw.healthy, closed]
  cases h.storageFd seg <;> rfl

theorem transfer (hfile : h.file seg = some f) (hkind : h.os.kind f ≠ .stream)
    (hstart : fileStart.toNat < 2 ^ 63) :
    h.transfer seg fileStart bytes = (.noError, h.written f fileStart.toNat bytes) := by
  rw [transfer_of_fault hfile hkind hstart hw.fault, hw.taken]

theorem halWriteStorageSegment (hfile : h.file seg = some f) (hkind : h.os.kind f ≠ .stream)
    (hlt : (start - segStart).toNat < 2 ^ 63) :
    h.halWriteStorageSegment seg bytes segStart start =
      (.noError, h.written f (start - segStart).toNat bytes) := by
  rw [LinuxHal.halWriteStorageSegment, guarded_eq hw.healthy]
  exact hw.transfer hfile hkind hlt

theorem halReadStorageSegment (hfile : h.file seg = some f) (hkind : h.os.kind f ≠ .stream)
    (hle : (start - segStart).toNat + size.toNat ≤ h.os.size f) :
    h.halReadStorageSegment seg segStart start size =
      ((.noError, (h.os.content f).data.slice (start - segStart).toNat size.toNat), h) := by
  rw [LinuxHal.halReadStorageSegment, if_neg (not_not_intro hw.healthy), hfile]
  dsimp only
  rw [if_neg (not_or.mpr ⟨hkind, not_or.mpr ⟨Nat.not_lt_of_le hle, not_not_intro hw.fault⟩⟩),
    hw.taken]

theorem initialized : h.initialized.Working := ⟨hw.healthy, hw.works⟩

theorem opened : (h.opened seg maxDataSize).Working := by
  unfold LinuxHal.opened
  split
  next => exact hw
  next => exact ⟨hw.healthy, hw.works⟩

theorem closed : (h.closed seg).Working := by
  unfold LinuxHal.closed
  split
  next => exact hw
  next => exact ⟨hw.healthy, hw.works⟩

theorem written (offset : Nat) : (h.written f offset bytes).Working := ⟨hw.healthy, hw.works⟩

end Working

end LinuxHal

end LonStack
