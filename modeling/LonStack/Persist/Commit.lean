import LonStack.Lib.Run
import LonStack.Persist.Segment

namespace LonStack

open Lib

structure Persistence (τ : Type) extends EventLog where
  commitFlag : Bool
  guardBandDuration : UInt64
  platform : τ

/-- What the log stores and a commit reads is given with the call. -/
inductive PersistenceEvent
  | segSetCommitFlag (seg : IzotPersistentSegType)
  | dataHasBeenUpdated (now : UInt32)
  | flushData
  | memCommitCheck (now : UInt32) (nodeState : UInt8) (images : SegImages)
  | segCommitScheduled
  | osalPrintLog (nodeState : UInt8) (now : UInt32) (status : LonStatusCode)
  | clearErrorLog
  deriving DecidableEq, Repr

namespace IzotPersistentSegType

def all : List IzotPersistentSegType :=
  [.networkImage, .securityII, .nodeDefinition, .applicationData, .uniqueId, .connectionTable, .isi]

theorem mem_all (seg : IzotPersistentSegType) : seg ∈ all := by cases seg <;> decide

end IzotPersistentSegType

namespace Persistence

section

variable {τ : Type} (H : SegHandlers τ) (appSignature : UInt32) (nodeState : UInt8) (now : UInt32)
  (images : SegImages) (p : Persistence τ)

def init (guardBandDuration : UInt64) (errorLog : UInt32) (nodeState : UInt8) (platform : τ) :
    Persistence τ where
  persistenceList _ := false
  scheduled := false
  lastUpdate := 0
  errorLog := errorLog
  nodeState := nodeState
  commitFlag := false
  guardBandDuration := guardBandDuration
  platform := platform

def printLogs (statuses : List LonStatusCode) : Persistence τ :=
  { p with toEventLog := p.osalPrintLogs nodeState now statuses }

def memGuardBandRemaining : UInt32 :=
  let timeElapsed := (now.toUInt64 - p.lastUpdate).toUInt32
  if timeElapsed.toUInt64 ≤ p.guardBandDuration then
    (p.guardBandDuration - timeElapsed.toUInt64).toUInt32
  else 0

/-- All that a store logs comes before its result. -/
def commitSegment (seg : IzotPersistentSegType) : Persistence τ :=
  if p.persistenceList seg then
    let (status, s, errors) :=
      izotPersistentSegStore H.reporting appSignature seg (p.platform, []) images
    let p := { p with platform := s }.printLogs nodeState now (errors ++ storeErrors seg images status)
    if status = .noError then
      { p with
        persistenceList := Function.update p.persistenceList seg false
        commitFlag := false }
    else p
  else p

/-- Nothing is scheduled any more, whatever has been stored. -/
def memCommit : Persistence τ :=
  { IzotPersistentSegType.all.foldl (commitSegment H appSignature nodeState now images) p with
    scheduled := false }

def segSetCommitFlag (seg : IzotPersistentSegType) : Persistence τ :=
  { p with toCommitTimer := p.toCommitTimer.segSetCommitFlag seg }

def memStartCommitTimer : Persistence τ :=
  { p with toCommitTimer := p.toCommitTimer.memStartCommitTimer now }

def memSetCommitFlag : Persistence τ := { p with commitFlag := true }

def memCommitCheck : Persistence τ :=
  if p.scheduled ∧ (p.memGuardBandRemaining now = 0 ∨ p.commitFlag) then
    p.memCommit H appSignature nodeState now images
  else p

def segCommitScheduled : Bool × Persistence τ :=
  if IzotPersistentSegType.all.any p.persistenceList then (true, p.memSetCommitFlag) else (false, p)

def clearErrorLog : Persistence τ := { p with errorLog := 0 }

def step : PersistenceEvent → Persistence τ
  | .segSetCommitFlag seg => p.segSetCommitFlag seg
  | .dataHasBeenUpdated now => p.memStartCommitTimer now
  | .flushData => p.memSetCommitFlag
  | .memCommitCheck now nodeState images => p.memCommitCheck H appSignature nodeState now images
  | .segCommitScheduled => p.segCommitScheduled.2
  | .osalPrintLog nodeState now status => p.printLogs nodeState now [status]
  | .clearErrorLog => p.clearErrorLog

end

end Persistence

structure SegCall where
  seg : IzotPersistentSegType
  request : SegRequest
  succeeded : Bool
  errors : List LonStatusCode
  deriving DecidableEq, Repr

def SegCall.Succeeds (c : SegCall) : Prop := c.succeeded = true ∧ c.errors = []

instance (c : SegCall) : Decidable c.Succeeds := inferInstanceAs (Decidable (_ ∧ _))

namespace SegHandlers

variable {τ : Type} (H : SegHandlers τ) (seg : IzotPersistentSegType)

def call (request : SegRequest) (succeeded : Bool) (s : τ) : SegCall :=
  ⟨seg, request, succeeded, H.errors seg request s⟩

def logged : SegHandlers (τ × List SegCall) where
  enterTransaction seg s :=
    let r := H.enterTransaction seg s.1
    (r.1, r.2, s.2 ++ [H.call seg .enterTransaction (r.1 = .noError) s.1])
  exitTransaction seg s :=
    let r := H.exitTransaction seg s.1
    (r.1, r.2, s.2 ++ [H.call seg .exitTransaction (r.1 = .noError) s.1])
  openForWrite seg size s :=
    let r := H.openForWrite seg size s.1
    (r.1, r.2, s.2 ++ [H.call seg (.openForWrite size) r.1.isSome s.1])
  write seg offset data s :=
    let r := H.write seg offset data s.1
    (r.1, r.2, s.2 ++ [H.call seg (.write offset data) (r.1 = .noError) s.1])
  isInvalid seg s :=
    let r := H.isInvalid seg s.1
    (r.1, r.2, s.2)
  openForRead seg s :=
    let r := H.openForRead seg s.1
    (r.1, r.2, s.2)
  read seg offset size s :=
    let r := H.read seg offset size s.1
    (r.1, r.2, s.2)
  errors seg request s := H.errors seg request s.1

end SegHandlers

def storedCalls (appSignature : UInt32) (seg : IzotPersistentSegType) (image : List UInt8) :
    List SegCall :=
  [.enterTransaction,
    .openForWrite
      (sizeofPersistenceHeader.toUInt64 + (imageHeader appSignature image).length.toUInt64),
    .write sizeofTransactionRecord (imageHeader appSignature image).bytes,
    .write (sizeofTransactionRecord + sizeofPersistenceHeader.toUInt64) image,
    .exitTransaction].map fun request => ⟨seg, request, true, []⟩

namespace Persistence

section

variable {τ : Type} (p : Persistence τ)

def Flagged : Prop := ∃ seg, p.persistenceList seg = true

instance : Decidable p.Flagged :=
  decidable_of_iff (IzotPersistentSegType.all.any p.persistenceList = true)
    ⟨fun h => (List.any_eq_true.mp h).imp fun _ h => h.2,
      fun ⟨seg, h⟩ => List.any_eq_true.mpr ⟨seg, seg.mem_all, h⟩⟩

def Due (now : UInt32) : Prop :=
  p.scheduled ∧ (p.memGuardBandRemaining now = 0 ∨ p.commitFlag)

instance (now : UInt32) : Decidable (p.Due now) := inferInstanceAs (Decidable (_ ∧ _))

def Storable : PersistenceEvent → Prop
  | .memCommitCheck now _ images => p.Due now → ∀ seg, p.persistenceList seg = true →
    (images.serialize seg).1 = .noError
  | _ => True

instance : (e : PersistenceEvent) → Decidable (p.Storable e)
  | .memCommitCheck now _ images =>
    decidable_of_iff (p.Due now → ∀ seg ∈ IzotPersistentSegType.all, p.persistenceList seg = true →
        (images.serialize seg).1 = .noError)
      ⟨fun h hdue seg => h hdue seg seg.mem_all, fun h hdue seg _ => h hdue seg⟩
  | .segSetCommitFlag _ | .dataHasBeenUpdated _ | .flushData | .segCommitScheduled
  | .osalPrintLog .. | .clearErrorLog => .isTrue trivial

end

section

variable {τ : Type} (H : SegHandlers τ) (appSignature : UInt32)
  (p : Persistence (τ × List SegCall)) (x : Persistence (τ × List SegCall) × PersistenceEvent)

def newCalls (e : PersistenceEvent) : List SegCall :=
  (p.step H.logged appSignature e).platform.2.drop p.platform.2.length

/-- Every commit stores all that is flagged, and the flag of a segment is followed by the start of the
timer. -/
structure Obliging : Prop where
  prompt : x.1.Flagged → x.1.scheduled = false → ∃ now, x.2 = .dataHasBeenUpdated now
  storable : x.1.Storable x.2
  succeed : ∀ c ∈ x.1.newCalls H appSignature x.2, c.Succeeds

def ClearsStored : Prop :=
  ∀ seg, x.1.persistenceList seg = true →
    (x.1.step H.logged appSignature x.2).persistenceList seg = false →
      ∃ now nodeState images, x.2 = .memCommitCheck now nodeState images ∧
        storedCalls appSignature seg (images.serialize seg).2 <:+: x.1.newCalls H appSignature x.2

/-- As long as a segment is flagged, a commit is scheduled, but for the time between the flag and the
start of the timer. -/
def Remembered (h : List (Persistence (τ × List SegCall) × PersistenceEvent)) : Prop :=
  p.Flagged → p.scheduled = true ∨ ∃ x seg, h.head? = some x ∧ x.2 = .segSetCommitFlag seg

structure Recovers : Prop where
  requested : p.Flagged → p.scheduled = true →
    p.segCommitScheduled.1 = true ∧ ∀ now, p.segCommitScheduled.2.Due now
  committed : ∀ now nodeState images, p.Due now →
    Obliging H appSignature (p, .memCommitCheck now nodeState images) →
      ¬(p.step H.logged appSignature (.memCommitCheck now nodeState images)).Flagged ∧
        (p.step H.logged appSignature
          (.memCommitCheck now nodeState images)).segCommitScheduled.1 = false

end

structure Calls {τ : Type} (s s' : (τ × List SegCall) × List LonStatusCode) (calls : List SegCall) :
    Prop where
  made : s'.1.2 = s.1.2 ++ calls
  errors : s'.2 = s.2 ++ calls.flatMap SegCall.errors

theorem Calls.trans {τ : Type} {s s' s'' : (τ × List SegCall) × List LonStatusCode}
    {calls calls' : List SegCall} (h : Calls s s' calls) (h' : Calls s' s'' calls') :
    Calls s s'' (calls ++ calls') where
  made := by rw [h'.made, h.made, List.append_assoc]
  errors := by rw [h'.errors, h.errors, List.append_assoc, List.flatMap_append]

theorem Calls.single {τ : Type} {s s' : (τ × List SegCall) × List LonStatusCode} {c : SegCall}
    (hcall : s'.1.2 = s.1.2 ++ [c]) (herrors : s'.2 = s.2 ++ c.errors) : Calls s s' [c] where
  made := hcall
  errors := by rw [herrors, List.flatMap_singleton]

variable {τ : Type} {H : SegHandlers τ} {appSignature : UInt32} {nodeState : UInt8} {now : UInt32}
  {images : SegImages} {p : Persistence (τ × List SegCall)} {seg : IzotPersistentSegType}

theorem eq_of_succeeds {request : SegRequest} {succeeded : Bool} {errors : List LonStatusCode}
    (h : SegCall.Succeeds ⟨seg, request, succeeded, errors⟩) :
    (⟨seg, request, succeeded, errors⟩ : SegCall) = ⟨seg, request, true, []⟩ := by
  obtain ⟨rfl, rfl⟩ := h
  rfl

theorem errors_of_succeed {calls : List SegCall} (h : ∀ c ∈ calls, c.Succeeds) :
    calls.flatMap SegCall.errors = [] :=
  List.flatMap_eq_nil_iff.mpr fun c hc => (h c hc).2

theorem write_calls (offset : UInt64) (data : List UInt8)
    (s : (τ × List SegCall) × List LonStatusCode) :
    ∃ c, Calls s (H.logged.reporting.write seg offset data s).2 [c] ∧
      (c.Succeeds → (H.logged.reporting.write seg offset data s).1 = .noError ∧
        c = ⟨seg, .write offset data, true, []⟩) :=
  ⟨H.call seg (.write offset data) ((H.write seg offset data s.1.1).1 = .noError) s.1.1,
    .single rfl rfl, fun h => ⟨of_decide_eq_true h.1, eq_of_succeeds h⟩⟩

theorem openForWrite_calls (size : UInt64) (s : (τ × List SegCall) × List LonStatusCode) :
    ∃ c, Calls s (H.logged.reporting.openForWrite seg size s).2 [c] ∧
      (c.Succeeds → (H.logged.reporting.openForWrite seg size s).1.isSome = true ∧
        c = ⟨seg, .openForWrite size, true, []⟩) :=
  ⟨H.call seg (.openForWrite size) (H.openForWrite seg size s.1.1).1.isSome s.1.1,
    .single rfl rfl, fun h => ⟨h.1, eq_of_succeeds h⟩⟩

theorem enterTransaction_calls (s : (τ × List SegCall) × List LonStatusCode) :
    ∃ c, Calls s (H.logged.reporting.enterTransaction seg s).2 [c] ∧
      (c.Succeeds → c = ⟨seg, .enterTransaction, true, []⟩) :=
  ⟨H.call seg .enterTransaction ((H.enterTransaction seg s.1.1).1 = .noError) s.1.1,
    .single rfl rfl, eq_of_succeeds⟩

theorem exitTransaction_calls (s : (τ × List SegCall) × List LonStatusCode) :
    ∃ c, Calls s (H.logged.reporting.exitTransaction seg s).2 [c] ∧
      (c.Succeeds → c = ⟨seg, .exitTransaction, true, []⟩) :=
  ⟨H.call seg .exitTransaction ((H.exitTransaction seg s.1.1).1 = .noError) s.1.1,
    .single rfl rfl, eq_of_succeeds⟩

theorem writeImage_calls (image : List UInt8) (s : (τ × List SegCall) × List LonStatusCode) :
    ∃ calls, Calls s (writeImage H.logged.reporting appSignature seg s image).2 calls ∧
      ((∀ c ∈ calls, c.Succeeds) →
        (writeImage H.logged.reporting appSignature seg s image).1 = .noError ∧
          calls = [⟨seg, .write sizeofTransactionRecord (imageHeader appSignature image).bytes, true, []⟩,
            ⟨seg, .write (sizeofTransactionRecord + sizeofPersistenceHeader.toUInt64) image, true,
              []⟩]) := by
  have hwrite := @write_calls τ H seg
  rw [writeImage]
  generalize H.logged.reporting.write seg = write at hwrite ⊢
  obtain ⟨c, hheader, hsucceeds⟩ := hwrite sizeofTransactionRecord (imageHeader appSignature image).bytes s
  generalize write _ (imageHeader appSignature image).bytes s = r at hheader hsucceeds ⊢
  obtain ⟨status, s'⟩ := r
  dsimp only at hheader hsucceeds ⊢
  by_cases hstatus : status = .noError
  case neg =>
    rw [if_pos hstatus]
    exact ⟨_, hheader, fun hsucceed =>
      absurd (hsucceeds (hsucceed _ (List.mem_singleton_self _))).1 hstatus⟩
  case pos =>
    rw [if_neg (not_not_intro hstatus)]
    obtain ⟨c', himage, hsucceeds'⟩ :=
      hwrite (sizeofTransactionRecord + sizeofPersistenceHeader.toUInt64) image s'
    generalize write _ image s' = r at himage hsucceeds' ⊢
    obtain ⟨status', s''⟩ := r
    dsimp only at himage hsucceeds' ⊢
    refine ⟨_, hheader.trans himage, fun hsucceed => ?_⟩
    obtain ⟨-, rfl⟩ := hsucceeds (hsucceed c List.mem_cons_self)
    obtain ⟨hstatus', rfl⟩ := hsucceeds' (hsucceed c' (List.mem_cons_of_mem _ List.mem_cons_self))
    rw [hstatus', if_neg (not_not_intro rfl)]
    exact ⟨rfl, rfl⟩

theorem store_calls (s : (τ × List SegCall) × List LonStatusCode) :
    ∃ calls, Calls s (izotPersistentSegStore H.logged.reporting appSignature seg s images).2 calls ∧
      ((∀ c ∈ calls, c.Succeeds) → (images.serialize seg).1 = .noError →
        (izotPersistentSegStore H.logged.reporting appSignature seg s images).1 = .noError ∧
          calls = storedCalls appSignature seg (images.serialize seg).2) := by
  have henters := @enterTransaction_calls τ H seg
  have hexits := @exitTransaction_calls τ H seg
  have hopens := @openForWrite_calls τ H seg
  have himages := @writeImage_calls τ H appSignature seg
  rw [izotPersistentSegStore]
  generalize H.logged.reporting.enterTransaction seg = enterTransaction at henters ⊢
  generalize H.logged.reporting.exitTransaction seg = exitTransaction at hexits ⊢
  generalize H.logged.reporting.openForWrite seg = openForWrite at hopens ⊢
  generalize writeImage H.logged.reporting appSignature seg = writeImage at himages ⊢
  generalize images.serialize seg = serialized
  obtain ⟨status, image⟩ := serialized
  obtain ⟨c₁, henter, hentered⟩ := henters s
  generalize enterTransaction s = r at henter ⊢
  obtain ⟨entered, s₁⟩ := r
  dsimp only at henter ⊢
  by_cases hstatus : status = .noError
  case neg =>
    rw [if_pos hstatus]
    exact ⟨_, henter, fun _ h => absurd h hstatus⟩
  case pos =>
    rw [if_neg (not_not_intro hstatus)]
    generalize hsize : sizeofPersistenceHeader.toUInt64 +
      (imageHeader appSignature image).length.toUInt64 = size
    obtain ⟨c₂, hopen, hsome⟩ := hopens size s₁
    generalize openForWrite size s₁ = r at hopen hsome ⊢
    obtain ⟨opened, s₂⟩ := r
    dsimp only at hopen hsome ⊢
    have hopen := henter.trans hopen
    by_cases hopened : opened = none
    case pos =>
      rw [if_pos hopened]
      obtain ⟨c₃, hexit, -⟩ := hexits s₂
      dsimp only
      rw [if_neg (not_not_intro rfl)]
      refine ⟨_, hopen.trans hexit, fun hsucceed => ?_⟩
      have hnone := (hsome (hsucceed c₂ (by simp))).1
      rw [hopened] at hnone
      exact absurd hnone Bool.false_ne_true
    case neg =>
      rw [if_neg hopened]
      obtain ⟨writes, hwrites, hsucceeds⟩ := himages image s₂
      generalize writeImage s₂ image = r at hwrites hsucceeds ⊢
      obtain ⟨written, s₃⟩ := r
      dsimp only at hwrites hsucceeds ⊢
      have hwrites := hopen.trans hwrites
      by_cases hwritten : written = .noError
      case neg =>
        rw [if_pos hwritten]
        refine ⟨_, hwrites, fun hsucceed _ => absurd (hsucceeds fun c hc => ?_).1 hwritten⟩
        exact hsucceed c (List.mem_append_right _ hc)
      case pos =>
        rw [if_neg (not_not_intro hwritten)]
        obtain ⟨c₅, hexit, hexited⟩ := hexits s₃
        refine ⟨_, hwrites.trans hexit, fun hsucceed _ => ⟨rfl, ?_⟩⟩
        obtain ⟨-, hcalls⟩ := hsucceeds fun c hc =>
          hsucceed c (List.mem_append_left _ (List.mem_append_right _ hc))
        rw [hentered (hsucceed c₁ (by simp)), (hsome (hsucceed c₂ (by simp))).2, hcalls,
          hexited (hsucceed c₅ (by simp)), ← hsize]
        rfl

theorem commitSegment_calls (p : Persistence (τ × List SegCall)) (seg : IzotPersistentSegType) :
    ∃ calls, (p.commitSegment H.logged appSignature nodeState now images seg).platform.2 =
        p.platform.2 ++ calls ∧
      ((∀ c ∈ calls, c.Succeeds) →
        (p.persistenceList seg = true → (images.serialize seg).1 = .noError) →
          (∀ a ≠ seg,
            (p.commitSegment H.logged appSignature nodeState now images seg).persistenceList a =
              p.persistenceList a) ∧
          (p.commitSegment H.logged appSignature nodeState now images seg).persistenceList seg =
            false ∧
          (p.persistenceList seg = true →
            calls = storedCalls appSignature seg (images.serialize seg).2)) := by
  rw [commitSegment]
  by_cases hflag : p.persistenceList seg = true
  case neg =>
    rw [if_neg hflag]
    exact ⟨[], (List.append_nil _).symm,
      fun _ _ => ⟨fun _ _ => rfl, Bool.eq_false_iff.mpr hflag, fun h => absurd h hflag⟩⟩
  case pos =>
    rw [if_pos hflag]
    obtain ⟨calls, hcalls, hstored⟩ :=
      @store_calls τ H appSignature images seg (p.platform, [])
    generalize izotPersistentSegStore H.logged.reporting appSignature seg (p.platform, []) images = r
      at hcalls hstored ⊢
    obtain ⟨status, platform, errors⟩ := r
    obtain ⟨hcalls, herrors⟩ := hcalls
    dsimp only at hcalls herrors hstored ⊢
    refine ⟨calls, ?_, fun hsucceed hstorable => ?_⟩
    · split
      next => exact hcalls
      next => exact hcalls
    · obtain ⟨rfl, hstore⟩ := hstored hsucceed (hstorable hflag)
      have hsilent : errors ++ storeErrors seg images .noError = [] := by
        rw [herrors, errors_of_succeed hsucceed, storeErrors, if_pos rfl, List.append_nil,
          List.append_nil]
      rw [hsilent, if_pos rfl]
      exact ⟨fun a ha => Function.update_of_ne ha .., Function.update_self .., fun _ => hstore⟩

theorem commitSegments_calls (segs : List IzotPersistentSegType)
    (p : Persistence (τ × List SegCall)) :
    ∃ calls, (segs.foldl (commitSegment H.logged appSignature nodeState now images) p).platform.2 =
        p.platform.2 ++ calls ∧
      ((∀ c ∈ calls, c.Succeeds) →
        (∀ seg, p.persistenceList seg = true → (images.serialize seg).1 = .noError) →
          (∀ a, p.persistenceList a = false →
            (segs.foldl (commitSegment H.logged appSignature nodeState now images) p).persistenceList
              a = false) ∧
          ∀ seg ∈ segs,
            (segs.foldl (commitSegment H.logged appSignature nodeState now images) p).persistenceList
              seg = false ∧
            (p.persistenceList seg = true →
              storedCalls appSignature seg (images.serialize seg).2 <:+: calls)) := by
  induction segs generalizing p with
  | nil => exact ⟨[], (List.append_nil _).symm, fun _ _ => ⟨fun _ h => h, by simp⟩⟩
  | cons first segs ih =>
    rw [List.foldl_cons]
    obtain ⟨calls₁, hcalls₁, hstored₁⟩ := @commitSegment_calls τ H
      appSignature nodeState now images p first
    obtain ⟨calls₂, hcalls₂, hstored₂⟩ :=
      ih (p.commitSegment H.logged appSignature nodeState now images first)
    rw [hcalls₁, List.append_assoc] at hcalls₂
    refine ⟨calls₁ ++ calls₂, hcalls₂, fun hsucceed hstorable => ?_⟩
    obtain ⟨hkeep₁, hfirst, hcalls⟩ := hstored₁
      (fun c hc => hsucceed c (List.mem_append_left _ hc)) (hstorable first)
    have hkeep : ∀ a, p.persistenceList a = false →
        (p.commitSegment H.logged appSignature nodeState now images first).persistenceList a =
          false := by
      intro a ha
      by_cases heq : a = first
      case pos => rw [heq, hfirst]
      case neg => rw [hkeep₁ a heq, ha]
    obtain ⟨hkeep₂, hrest⟩ := hstored₂ (fun c hc => hsucceed c (List.mem_append_right _ hc)) fun a ha => by
      apply hstorable
      by_contra hclear
      rw [hkeep a (Bool.eq_false_iff.mpr hclear)] at ha
      exact Bool.false_ne_true ha
    refine ⟨fun a ha => hkeep₂ a (hkeep a ha), fun seg hseg => ?_⟩
    by_cases heq : seg = first
    case pos =>
      rw [heq]
      refine ⟨hkeep₂ first hfirst, fun hflag => ?_⟩
      rw [hcalls hflag]
      exact List.infix_append' [] _ _
    case neg =>
      obtain ⟨hclear, hcontains⟩ := hrest seg ((List.mem_cons.mp hseg).resolve_left heq)
      refine ⟨hclear, fun hflag => ?_⟩
      -- the flag of another segment is kept until its own store
      exact (hcontains ((hkeep₁ seg heq).trans hflag)).trans
        (List.suffix_append calls₁ calls₂).isInfix

variable {x : Persistence (τ × List SegCall) × PersistenceEvent}

theorem memCommitCheck_due (hdue : p.Due now)
    (hok : Obliging H appSignature (p, .memCommitCheck now nodeState images)) :
    ∀ seg, (p.step H.logged appSignature
        (.memCommitCheck now nodeState images)).persistenceList seg = false ∧
      (p.persistenceList seg = true → storedCalls appSignature seg (images.serialize seg).2 <:+:
        p.newCalls H appSignature (.memCommitCheck now nodeState images)) := by
  intro seg
  have hstep : p.step H.logged appSignature (.memCommitCheck now nodeState images) =
      p.memCommit H.logged appSignature nodeState now images := if_pos hdue
  obtain ⟨calls, hcalls, hstored⟩ := @commitSegments_calls τ H appSignature nodeState now images
    IzotPersistentSegType.all p
  have hnew : p.newCalls H appSignature (.memCommitCheck now nodeState images) = calls := by
    rw [newCalls, hstep, memCommit]
    dsimp only
    rw [hcalls, List.drop_left]
  have hsucceed := hok.succeed
  dsimp only at hsucceed
  rw [hnew] at hsucceed ⊢
  rw [hstep, memCommit]
  exact (hstored hsucceed (hok.storable hdue)).2 seg seg.mem_all

theorem clearsStored (hok : Obliging H appSignature x) : ClearsStored H appSignature x := by
  obtain ⟨p, e⟩ := x
  intro seg hflag hclear
  dsimp only at hflag hclear
  cases e with
  | memCommitCheck now nodeState images =>
    by_cases hdue : p.Due now
    case pos => exact ⟨now, nodeState, images, rfl, (memCommitCheck_due hdue hok seg).2 hflag⟩
    case neg =>
      have hstep : p.step H.logged appSignature (.memCommitCheck now nodeState images) = p :=
        if_neg hdue
      rw [hstep, hflag] at hclear
      exact absurd hclear.symm Bool.false_ne_true
  | segSetCommitFlag a =>
    rw [step, segSetCommitFlag] at hclear
    by_cases ha : seg = a
    case pos =>
      rw [ha] at hclear
      exact absurd ((Function.update_self ..).symm.trans hclear) Bool.noConfusion
    case neg =>
      have hkept : p.persistenceList seg = false :=
        (Function.update_of_ne ha ..).symm.trans hclear
      exact absurd (hflag.symm.trans hkept) Bool.noConfusion
  | dataHasBeenUpdated now => exact absurd (hflag.symm.trans hclear) Bool.noConfusion
  | flushData => exact absurd (hflag.symm.trans hclear) Bool.noConfusion
  | segCommitScheduled =>
    rw [step, segCommitScheduled] at hclear
    split at hclear
    · exact absurd (hflag.symm.trans hclear) Bool.noConfusion
    · exact absurd (hflag.symm.trans hclear) Bool.noConfusion
  | osalPrintLog nodeState now status =>
    have hkept := EventLog.keeps_osalPrintLog nodeState now status hflag
    exact absurd (hkept.symm.trans hclear) Bool.noConfusion
  | clearErrorLog => exact absurd (hflag.symm.trans hclear) Bool.noConfusion

theorem remembered_step {h : List (Persistence (τ × List SegCall) × PersistenceEvent)}
    (hok : Obliging H appSignature x) :
    (x.1.step H.logged appSignature x.2).Remembered (x :: h) := by
  obtain ⟨p, e⟩ := x
  intro hflagged
  dsimp only at hflagged ⊢
  cases e with
  | segSetCommitFlag seg => exact .inr ⟨_, seg, rfl, rfl⟩
  | dataHasBeenUpdated now => exact .inl rfl
  | memCommitCheck now nodeState images =>
    by_cases hdue : p.Due now
    case pos =>
      obtain ⟨seg, hflag⟩ := hflagged
      exact absurd (hflag.symm.trans (memCommitCheck_due hdue hok seg).1) Bool.noConfusion
    case neg =>
      have hstep : p.step H.logged appSignature (.memCommitCheck now nodeState images) = p :=
        if_neg hdue
      rw [hstep] at hflagged ⊢
      by_contra hnot
      obtain ⟨_, hevent⟩ := hok.prompt hflagged (Bool.eq_false_iff.mpr fun h => hnot (.inl h))
      cases hevent
  | flushData =>
    by_contra hnot
    obtain ⟨_, hevent⟩ := hok.prompt hflagged (Bool.eq_false_iff.mpr fun h => hnot (.inl h))
    cases hevent
  | segCommitScheduled =>
    by_contra hnot
    have hsame : (p.step H.logged appSignature .segCommitScheduled).persistenceList =
        p.persistenceList ∧
        (p.step H.logged appSignature .segCommitScheduled).scheduled = p.scheduled := by
      rw [step, segCommitScheduled]
      split
      · exact ⟨rfl, rfl⟩
      · exact ⟨rfl, rfl⟩
    rw [Flagged, hsame.1] at hflagged
    obtain ⟨_, hevent⟩ := hok.prompt hflagged (Bool.eq_false_iff.mpr fun h =>
      hnot (.inl (hsame.2.trans h)))
    cases hevent
  | osalPrintLog nodeState now status =>
    -- a new error schedules a commit, and one that is the last error already changes nothing
    rcases EventLog.osalPrintLog_cases nodeState now p.toEventLog status with hsame | hnew
    · have hstep : p.step H.logged appSignature (.osalPrintLog nodeState now status) = p :=
        congrArg (fun l => { p with toEventLog := l }) hsame
      rw [hstep] at hflagged ⊢
      by_contra hnot
      obtain ⟨_, hevent⟩ := hok.prompt hflagged (Bool.eq_false_iff.mpr fun h => hnot (.inl h))
      cases hevent
    · exact .inl hnew.2.2.2
  | clearErrorLog =>
    by_contra hnot
    obtain ⟨_, hevent⟩ := hok.prompt hflagged (Bool.eq_false_iff.mpr fun h => hnot (.inl h))
    cases hevent

theorem recovers (p : Persistence (τ × List SegCall)) : p.Recovers H appSignature where
  requested hflagged hscheduled := by
    have hany : IzotPersistentSegType.all.any p.persistenceList = true := by
      obtain ⟨seg, hflag⟩ := hflagged
      exact List.any_eq_true.mpr ⟨seg, seg.mem_all, hflag⟩
    rw [segCommitScheduled, if_pos hany]
    exact ⟨rfl, fun _ => ⟨hscheduled, .inr rfl⟩⟩
  committed now nodeState images hdue hok := by
    have hclear := fun seg => (memCommitCheck_due hdue hok seg).1
    refine ⟨fun ⟨seg, hflag⟩ => absurd (hflag.symm.trans (hclear seg)) Bool.noConfusion, ?_⟩
    rw [segCommitScheduled, if_neg]
    rw [List.any_eq_true]
    rintro ⟨seg, -, hflag⟩
    exact absurd (hflag.symm.trans (hclear seg)) Bool.noConfusion

end Persistence

/-- In every run whose commits can store all that is flagged, no flag is cleared without a store and
none is forgotten. -/
theorem commits_remembered {τ : Type} {H : SegHandlers τ} {appSignature errorLog : UInt32}
    {guard : UInt64} {nodeState : UInt8} {start : τ} {p : Persistence (τ × List SegCall)}
    {h : List (Persistence (τ × List SegCall) × PersistenceEvent)}
    (hrun : Run (fun e p => p.step H.logged appSignature e)
      (.init guard errorLog nodeState (start, [])) h p)
    (hok : ∀ x ∈ h, Persistence.Obliging H appSignature x) :
    Always (fun h p => p.Remembered h ∧ p.Recovers H appSignature) h p ∧
      ∀ x ∈ h, Persistence.ClearsStored H appSignature x := by
  refine ⟨?_, fun x hx => Persistence.clearsStored (hok x hx)⟩
  induction hrun with
  | refl => exact ⟨fun ⟨_, hflag⟩ => absurd hflag Bool.false_ne_true, Persistence.recovers _⟩
  | next e hrun ih =>
    rw [List.forall_mem_cons] at hok
    exact ⟨⟨Persistence.remembered_step hok.1, Persistence.recovers _⟩, ih hok.2⟩

def workingHandlers : SegHandlers Unit where
  enterTransaction _ s := (.noError, s)
  exitTransaction _ s := (.noError, s)
  openForWrite seg _ s := (some seg, s)
  write _ _ _ s := (.noError, s)
  isInvalid _ s := (false, s)
  openForRead seg s := (some seg, s)
  read _ _ _ s := ((.noError, []), s)
  errors _ _ _ := []

def flagAndCommit (seg : IzotPersistentSegType) : List PersistenceEvent :=
  [.segSetCommitFlag seg, .dataHasBeenUpdated 5, .memCommitCheck 1005 4 ⟨[1, 2, 3], none⟩]

def flagAndCommitRun (seg : IzotPersistentSegType) :
    List (Persistence (Unit × List SegCall) × PersistenceEvent) :=
  history (fun e p => p.step workingHandlers.logged 7 e) (.init 1000 0 4 ((), [])) (flagAndCommit seg)

theorem obliging_networkImage :
    ∀ x ∈ flagAndCommitRun .networkImage, Persistence.Obliging workingHandlers 7 x := by
  intro x hx
  rcases List.mem_cons.mp hx with rfl | hx
  · exact ⟨fun _ hclear => absurd hclear (by decide), by decide +kernel, by decide +kernel⟩
  rcases List.mem_cons.mp hx with rfl | hx
  · exact ⟨fun _ _ => ⟨5, rfl⟩, trivial, by decide +kernel⟩
  rcases List.mem_cons.mp hx with rfl | hx
  · exact ⟨fun hflagged => absurd hflagged (by decide), trivial, by decide +kernel⟩
  · exact absurd hx List.not_mem_nil

theorem commits_remembered_networkImage :
    Always (fun h p => p.Remembered h ∧ p.Recovers workingHandlers 7) (flagAndCommitRun .networkImage)
        ((flagAndCommit .networkImage).foldl (fun p e => p.step workingHandlers.logged 7 e)
          (.init 1000 0 4 ((), []))) ∧
      ∀ x ∈ flagAndCommitRun .networkImage, Persistence.ClearsStored workingHandlers 7 x :=
  commits_remembered (Run.history _ _ (flagAndCommit .networkImage)) obliging_networkImage

theorem not_commits_remembered :
    ¬∀ (p : Persistence (Unit × List SegCall))
      (h : List (Persistence (Unit × List SegCall) × PersistenceEvent)),
      Run (fun e p => p.step workingHandlers.logged 7 e) (.init 1000 0 4 ((), [])) h p →
        Always (fun h p => p.Remembered h ∧ p.Recovers workingHandlers 7) h p := by
  intro hall
  have halways := hall _ _ (Run.history _ _ (flagAndCommit .nodeDefinition))
  rcases (halways.head _ _).1 (by decide +kernel) with hscheduled | ⟨x, seg, hx, hevent⟩
  · exact absurd hscheduled (by decide +kernel)
  · cases hx
    cases hevent

end LonStack
