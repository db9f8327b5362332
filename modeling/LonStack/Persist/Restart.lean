import LonStack.Lib.Run
import LonStack.Persist.LinuxStore

namespace LonStack

open Lib

structure Hal.Keeps {σ : Type} (hal : Hal σ) (seg : IzotPersistentSegType) (P : σ → Prop) : Prop where
  initStorage : ∀ h, P h → P (hal.initStorage h).2
  storageInfo : ∀ h, P h → P (hal.storageInfo h).2
  openSegment : ∀ size h, P h → P (hal.openSegment seg size h).2
  closeSegment : ∀ h, P h → P (hal.closeSegment seg h).2
  prepareSegment : ∀ segStart start size value h, P h →
    P (hal.prepareSegment seg segStart start size value h).2
  writeSegment : ∀ data segStart start h, P h → P (hal.writeSegment seg data segStart start h).2
  readSegment : ∀ segStart start size h, P h → P (hal.readSegment seg segStart start size h).2

namespace Storage

section

variable {σ : Type} {hal : Hal σ} {getMaxSize : IzotPersistentSegType → UInt32}
  {seg : IzotPersistentSegType} {uninit : EraseInfo} {P : σ → Prop} {s : Storage σ}

theorem readStorageInfo_keeps (hkeeps : hal.Keeps seg P) (h : P s.hal) :
    P (s.readStorageInfo hal uninit).2.hal := by
  have hinfo := hkeeps.storageInfo s.hal h
  unfold readStorageInfo
  split
  next =>
    dsimp only
    split
    next => exact hinfo
    next => split <;> exact hinfo
  next => exact h

theorem initSegmentMap_keeps (hkeeps : hal.Keeps seg P) (h : P s.hal) :
    P (s.initSegmentMap hal getMaxSize seg uninit).2.hal := by
  have hread := @readStorageInfo_keeps σ hal seg uninit P s hkeeps h
  unfold initSegmentMap
  dsimp only
  split
  next => exact hread
  next => split <;> exact hread

theorem openStorageSegment_keeps (hkeeps : hal.Keeps seg P) (h : P s.hal) :
    P (s.openStorageSegment hal getMaxSize seg uninit).2.hal := by
  have hinit := hkeeps.initStorage s.hal h
  have hmap := @initSegmentMap_keeps σ hal getMaxSize seg uninit P
    { s with hal := (hal.initStorage s.hal).2 } hkeeps hinit
  unfold openStorageSegment
  dsimp only
  split
  next => exact hinit
  next =>
    split
    next => exact hmap
    next => exact hkeeps.openSegment _ _ hmap

theorem prepareBlocks_keeps (hkeeps : hal.Keeps seg P) {segStart eraseBlockSize : UInt64}
    {value : UInt8} {n : Nat} {offset : UInt64} (h : P s.hal) :
    P (prepareBlocks hal seg segStart eraseBlockSize value n offset s).2.hal := by
  induction n generalizing offset s with
  | zero => exact h
  | succ n ih =>
    have hprepare := hkeeps.prepareSegment segStart offset eraseBlockSize value s.hal h
    unfold prepareBlocks
    dsimp only
    split
    next => exact hprepare
    next => exact ih hprepare

theorem writeBlocks_keeps (hkeeps : hal.Keeps seg P) {segStart nextOffset : UInt64} {n : Nat}
    {data : List UInt8} (h : P s.hal) :
    P (writeBlocks hal seg segStart n nextOffset data s).2.hal := by
  induction n generalizing nextOffset data s with
  | zero => exact h
  | succ n ih =>
    unfold writeBlocks
    split
    next => exact h
    next =>
      dsimp only
      generalize (if (s.storageBlockSize - nextOffset % s.storageBlockSize).toNat < data.length then
        (s.storageBlockSize - nextOffset % s.storageBlockSize).toNat else data.length) = sizeToWrite
      have hwrite := hkeeps.writeSegment (data.take sizeToWrite) segStart nextOffset s.hal h
      split
      next => exact hwrite
      next => exact ih hwrite

theorem prepareStorageSegment_keeps (hkeeps : hal.Keeps seg P) {size : UInt64} (h : P s.hal) :
    P (s.prepareStorageSegment hal seg size).2.hal := prepareBlocks_keeps hkeeps h

theorem writeRecord_keeps (hkeeps : hal.Keeps seg P) {r : TransactionRecord} (h : P s.hal) :
    P (s.writeRecord hal getMaxSize seg uninit r).2.hal := by
  have hopen := @openStorageSegment_keeps σ hal getMaxSize seg uninit P s hkeeps h
  unfold writeRecord
  dsimp only
  split
  next => exact hopen
  next => exact hkeeps.closeSegment _ (hkeeps.writeSegment _ _ _ _ hopen)

theorem access_keeps {e : StorageEvent} (hkeeps : hal.Keeps e.seg P) (h : P s.hal) :
    P (s.access hal getMaxSize e).hal := by
  have hopen := @openStorageSegment_keeps σ hal getMaxSize e.seg e.uninit P s hkeeps h
  unfold access
  cases e.op with
  | openForRead => exact hopen
  | openForWrite dataSize =>
    unfold izotStorageOpenSegForWrite
    dsimp only
    split
    next => exact hopen
    next =>
      split
      next => exact hkeeps.closeSegment _ (prepareStorageSegment_keeps hkeeps hopen)
      next => exact hkeeps.closeSegment _ hopen
  | read segmentOffset dataSize =>
    unfold izotStorageReadSeg
    dsimp only
    split
    next => exact hopen
    next =>
      split
      next => exact hkeeps.readSegment _ _ _ _ hopen
      next => exact hkeeps.closeSegment _ (hkeeps.readSegment _ _ _ _ hopen)
  | write segmentOffset data =>
    unfold izotStorageWriteSeg
    dsimp only
    split
    next => exact hopen
    next =>
      split
      next => exact writeBlocks_keeps hkeeps hopen
      next => exact hkeeps.closeSegment _ (writeBlocks_keeps hkeeps hopen)
  | isInvalid =>
    unfold izotStorageSegIsInvalid
    dsimp only
    split
    next => exact hopen
    next =>
      split
      next => exact hkeeps.readSegment _ _ _ _ hopen
      next => exact hkeeps.closeSegment _ (hkeeps.readSegment _ _ _ _ hopen)
  | startUpdate => exact writeRecord_keeps hkeeps h
  | finishUpdate => exact writeRecord_keeps hkeeps h
  | erase =>
    dsimp only
    split
    next heq =>
      rw [heq] at hkeeps
      exact prepareStorageSegment_keeps hkeeps h
    next =>
      split
      next heq =>
        rw [heq] at hkeeps
        exact prepareStorageSegment_keeps hkeeps h
      next => exact h

end

end Storage

namespace LinuxHal

/-- What the table of the descriptors holds when the process starts: only the first entry is written
out as -1. -/
def storageFdInit (seg : IzotPersistentSegType) : Option Nat :=
  if seg = .networkImage then none else some 0

def started (inherited : List (Option Nat)) (content : OsFile → OsFileContent)
    (otherKind : Nat → OsFileKind) (faults : List (Option Nat)) : LinuxHal where
  persistentMemError := .noError
  persistentMemInitialized := false
  storageFd := storageFdInit
  os :=
    { descriptors := inherited.map (·.map .other)
      content := content
      otherKind := otherKind }
  faults := faults

structure Untouched (seg : IzotPersistentSegType) (h : LinuxHal) : Prop where
  table : h.storageFd seg = storageFdInit seg
  closed : ∀ d, h.os.refersTo d ≠ some (.segment seg)

variable {h : LinuxHal} {seg other : IzotPersistentSegType}

theorem untouched_started (seg : IzotPersistentSegType) (inherited : List (Option Nat))
    (content : OsFile → OsFileContent) (otherKind : Nat → OsFileKind) (faults : List (Option Nat)) :
    Untouched seg (started inherited content otherKind faults) where
  table := rfl
  closed d := by
    unfold LinuxOs.refersTo started
    rw [List.getD_eq_getElem?_getD, List.getElem?_map]
    cases inherited[d]? with
    | none => exact nofun
    | some x => cases x <;> exact nofun

theorem Untouched.same {h' : LinuxHal} (hu : Untouched seg h) (htable : h'.storageFd = h.storageFd)
    (hos : ∀ d, h'.os.refersTo d = h.os.refersTo d) : Untouched seg h' where
  table := by rw [htable, hu.table]
  closed d := by rw [hos]; exact hu.closed d

theorem Untouched.guarded {call : LinuxHal → LonStatusCode × LinuxHal} (hu : Untouched seg h)
    (hcall : Untouched seg (call h).2) : Untouched seg (h.guarded call).2 := by
  unfold LinuxHal.guarded
  split
  next => exact hu
  next => exact hcall

theorem Untouched.transfer (hu : Untouched seg h) (fileStart : UInt64) (bytes : List UInt8) :
    Untouched seg (h.transfer other fileStart bytes).2 := by
  unfold LinuxHal.transfer
  split
  next => exact hu.same rfl fun _ => rfl
  next =>
    split
    next => exact hu.same rfl fun _ => rfl
    next =>
      split
      next => exact hu.same rfl fun _ => LinuxOs.refersTo_writeAt _ _
      next => exact hu.same rfl fun _ => LinuxOs.refersTo_writeAt _ _

theorem Untouched.open (hu : Untouched seg h) (hne : other ≠ seg) (maxDataSize : UInt64) :
    Untouched seg (h.halOpenStorageSegment other maxDataSize).2 := by
  refine hu.guarded ?_
  split
  next => exact hu
  next =>
    split
    next =>
      refine ⟨(Function.update_of_ne (Ne.symm hne) _ _).trans hu.table, fun d => ?_⟩
      by_cases hd : d = h.os.lowestFree
      case pos =>
        subst hd
        have hopened : (h.os.openFile (.segment other)).refersTo h.os.lowestFree =
            some (.segment other) := LinuxOs.refersTo_openFile
        intro heq
        have hseg := Option.some.inj (hopened.symm.trans heq)
        exact hne (OsFile.segment.inj hseg)
      case neg =>
        have hsame : (h.os.openFile (.segment other)).refersTo d = h.os.refersTo d :=
          LinuxOs.refersTo_lowestFree_of_not hd
        intro heq
        exact hu.closed d (hsame.symm.trans heq)
    next => exact hu.same rfl fun _ => rfl

theorem Untouched.close (hu : Untouched seg h) (hne : other ≠ seg) :
    Untouched seg (h.halCloseStorageSegment other).2 := by
  refine hu.guarded ?_
  split
  next => exact hu
  next d' _ =>
    refine ⟨(Function.update_of_ne (Ne.symm hne) _ _).trans hu.table, fun d heq => ?_⟩
    refine hu.closed d ?_
    unfold LinuxOs.refersTo LinuxOs.closeFile at heq
    unfold LinuxOs.refersTo
    rw [List.getD_eq_getElem?_getD, List.getElem?_set] at heq
    rw [List.getD_eq_getElem?_getD]
    split at heq
    next =>
      split at heq <;> cases heq
    next => exact heq

theorem untouched_keeps (hne : other ≠ seg) : linuxHal.Keeps other (Untouched seg) where
  initStorage h hu := by
    refine hu.guarded ?_
    split
    next => exact hu
    next => split <;> exact hu.same rfl fun _ => rfl
  storageInfo _ hu := hu
  openSegment size _ hu := hu.open hne size
  closeSegment _ hu := hu.close hne
  prepareSegment _ _ _ _ _ hu := hu.guarded (hu.transfer _ _)
  writeSegment _ _ _ _ hu := hu.guarded (hu.transfer _ _)
  readSegment segStart start size h hu := by
    change Untouched seg (h.halReadStorageSegment other segStart start size).2
    unfold halReadStorageSegment
    split
    next => exact hu
    next =>
      dsimp only
      split
      next => exact hu.same rfl fun _ => rfl
      next => split <;> exact hu.same rfl fun _ => rfl

end LinuxHal

namespace Storage

structure Restarted (getMaxSize : IzotPersistentSegType → UInt32) (seg : IzotPersistentSegType)
    (s : Storage LinuxHal) : Prop where
  run : ∃ inherited content otherKind faults history,
    Run (fun e s => s.access linuxHal getMaxSize e)
      (init (LinuxHal.started inherited content otherKind faults)) history s ∧
    ∀ x ∈ history, x.2.seg ≠ seg
  works : s.hal.faults = []

theorem Restarted.untouched {getMaxSize : IzotPersistentSegType → UInt32}
    {seg : IzotPersistentSegType} {s : Storage LinuxHal} (h : s.Restarted getMaxSize seg) :
    s.hal.Untouched seg := by
  obtain ⟨inherited, content, otherKind, faults, history, hrun, hother⟩ := h.run
  have hstep (e : StorageEvent) (t : Storage LinuxHal) (hne : (t, e).2.seg ≠ seg)
      (hu : t.hal.Untouched seg) : (t.access linuxHal getMaxSize e).hal.Untouched seg :=
    access_keeps (LinuxHal.untouched_keeps hne) hu
  exact hrun.invariant (I := fun s => s.hal.Untouched seg) hstep hother
    (LinuxHal.untouched_started _ _ _ _ _)

end Storage

end LonStack
