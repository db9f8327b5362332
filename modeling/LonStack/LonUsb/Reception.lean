import LonStack.LonUsb.UplinkLaws
import LonStack.Lib.Stuffing

namespace LonStack.LonUsb

open Lib

structure Arrival where
  now : OsalTickCount
  last : Bool
  byte : UInt8

def arrivals (now : OsalTickCount) : List UInt8 → List Arrival
  | [] => []
  | b :: chunk => ⟨now, chunk.isEmpty, b⟩ :: arrivals now chunk

abbrev Outcome := LonUsbLinkState × LonStatusCode

def arrive (r : Outcome) (x : Arrival) : Outcome :=
  onSuccess r fun s => s.processUplinkByte x.now x.last x.byte

theorem onSuccess_noError (s : LonUsbLinkState) (next : LonUsbLinkState → Outcome) :
    onSuccess (s, .noError) next = next s :=
  if_pos rfl

theorem onSuccess_of_ne {r : Outcome} (h : r.2 ≠ .noError) (next : LonUsbLinkState → Outcome) :
    onSuccess r next = r :=
  if_neg h

theorem map_byte_arrivals (now : OsalTickCount) (chunk : List UInt8) :
    (arrivals now chunk).map Arrival.byte = chunk := by
  induction chunk with
  | nil => rfl
  | cons b chunk ih => rw [arrivals, List.map_cons, ih]

theorem now_of_mem_arrivals {now : OsalTickCount} {chunk : List UInt8} {x : Arrival}
    (hx : x ∈ arrivals now chunk) : x.now = now := by
  induction chunk with
  | nil => cases hx
  | cons b chunk ih =>
    cases hx with
    | head => rfl
    | tail _ hx => exact ih hx

theorem foldl_arrive_of_ne {r : Outcome} (h : r.2 ≠ .noError) (xs : List Arrival) :
    xs.foldl arrive r = r := by
  induction xs with
  | nil => rfl
  | cons x xs ih => rw [List.foldl_cons, arrive, onSuccess_of_ne h, ih]

theorem processChunk_eq_foldl (now : OsalTickCount) (s : LonUsbLinkState) (chunk : List UInt8) :
    processChunk now s chunk = (arrivals now chunk).foldl arrive (s, .noError) := by
  induction chunk generalizing s with
  | nil => rfl
  | cons b chunk ih =>
    rw [arrivals, List.foldl_cons, arrive, onSuccess_noError, processChunk]
    generalize s.processUplinkByte now chunk.isEmpty b = r
    by_cases h : r.2 = .noError
    case pos =>
      obtain ⟨t, status⟩ := r
      rw [show status = .noError from h, onSuccess_noError, ih]
    case neg => rw [onSuccess_of_ne h, foldl_arrive_of_ne h]

theorem uplinks_foldl_arrive (r : Outcome) (xs : List Arrival) :
    Uplinks r.1 (xs.foldl arrive r).1 := by
  induction xs generalizing r with
  | nil => exact .refl _
  | cons x xs ih =>
    have hx : Uplinks r.1 (arrive r x).1 :=
      .onSuccess (.refl _) fun t => t.uplinks_processUplinkByte x.now x.last x.byte
    exact hx.trans (ih _)

def feedUplink (s : LonUsbLinkState) (chunks : List (OsalTickCount × List UInt8)) :
    LonUsbLinkState :=
  chunks.foldl (fun s c => (s.processUplinkBytes c.1 c.2).1) s

def allArrivals (chunks : List (OsalTickCount × List UInt8)) : List Arrival :=
  chunks.flatMap fun c => arrivals c.1 c.2

theorem map_byte_allArrivals (chunks : List (OsalTickCount × List UInt8)) :
    (allArrivals chunks).map Arrival.byte = chunks.flatMap Prod.snd := by
  rw [allArrivals, List.map_flatMap]
  exact List.flatMap_congr fun c _ => map_byte_arrivals c.1 c.2

theorem feedUplink_eq {s t : LonUsbLinkState} (chunks : List (OsalTickCount × List UInt8))
    (hs : s.shutdown = false) (h : (allArrivals chunks).foldl arrive (s, .noError) = (t, .noError)) :
    feedUplink s chunks = t := by
  induction chunks generalizing s with
  | nil => exact congrArg Prod.fst h
  | cons c chunks ih =>
    have hchunk : s.processUplinkBytes c.1 c.2 = (arrivals c.1 c.2).foldl arrive (s, .noError) := by
      rw [← processChunk_eq_foldl]
      exact if_neg (by rw [hs]; decide)
    rw [allArrivals, List.flatMap_cons, List.foldl_append, ← hchunk] at h
    have hup := s.uplinks_processUplinkBytes c.1 c.2
    rw [feedUplink, List.foldl_cons]
    by_cases hc : (s.processUplinkBytes c.1 c.2).2 = .noError
    case pos =>
      have hpair : s.processUplinkBytes c.1 c.2 = ((s.processUplinkBytes c.1 c.2).1, .noError) :=
        Prod.ext rfl hc
      rw [hpair] at h
      exact ih (hup.shutdown.trans hs) h
    case neg =>
      rw [foldl_arrive_of_ne hc] at h
      exact absurd (congrArg Prod.snd h) hc

theorem feedUplink_single {s : LonUsbLinkState} (hs : s.shutdown = false) (now : OsalTickCount)
    (chunk : List UInt8) :
    feedUplink s [(now, chunk)] = ((arrivals now chunk).foldl arrive (s, .noError)).1 := by
  rw [← processChunk_eq_foldl]
  exact congrArg Prod.fst (if_neg (by rw [hs]; decide))

namespace LonUsbLinkState

variable (s : LonUsbLinkState)

def readByte (b : UInt8) : Outcome :=
  ((s.storeByte b).checkUplinkCompleted.1, (s.storeByte b).checkUplinkCompleted.2.1)

theorem checkMsgTimer_of_timely {now : OsalTickCount}
    (h : s.uplinkState = .idle ∨ ¬s.llpTimeout < now - s.uplinkMsgTimer) :
    s.checkMsgTimer now = s := by
  refine if_neg fun hlate => ?_
  cases h with
  | inl hidle => exact hlate.1 hidle
  | inr htimely => exact htimely hlate.2

theorem uplinkState_checkUplinkCompleted :
    s.checkUplinkCompleted.1.uplinkState = .idle ∨
      s.checkUplinkCompleted.1.uplinkMsgTimer = s.uplinkMsgTimer ∧
        s.checkUplinkCompleted.1.uplinkState = s.uplinkState := by
  unfold checkUplinkCompleted
  dsimp only
  split
  case isTrue => exact .inr ⟨rfl, rfl⟩
  case isFalse =>
    split
    case isTrue => exact .inr ⟨rfl, rfl⟩
    case isFalse =>
      split
      case isTrue => exact .inl rfl
      case isFalse => exact .inr ⟨rfl, rfl⟩

end LonUsbLinkState

structure Open (start : OsalTickCount) (llpTimeout : UInt32) (r : Outcome) : Prop where
  noError : r.2 = .noError
  state : r.1.uplinkState = .message
  timer : r.1.uplinkMsgTimer = start
  timeout : r.1.llpTimeout = llpTimeout

section Message

variable {start : OsalTickCount} {llpTimeout : UInt32} {r : Outcome}

theorem arrive_plain (ho : Open start llpTimeout r) {x : Arrival}
    (hx : ¬llpTimeout < x.now - start) (hb : x.byte ≠ FRAME_SYNC) :
    arrive r x = onSuccess r fun s => s.readByte x.byte := by
  obtain ⟨s, status⟩ := r
  obtain ⟨rfl, hstate, rfl, rfl⟩ := ho
  dsimp only at hstate hx
  rw [arrive, onSuccess_noError, onSuccess_noError, LonUsbLinkState.processUplinkByte]
  simp only [hstate]
  unfold LonUsbLinkState.messageByte
  rw [if_neg hb]
  have hup := (s.uplinks_storeByte x.byte).trans (LonUsbLinkState.uplinks_checkUplinkCompleted _)
  have hcheck := (s.storeByte x.byte).uplinkState_checkUplinkCompleted
  have htimely : (s.storeByte x.byte).checkUplinkCompleted.1.checkMsgTimer x.now =
      (s.storeByte x.byte).checkUplinkCompleted.1 := by
    refine LonUsbLinkState.checkMsgTimer_of_timely _ (hcheck.imp id fun h => ?_)
    rw [hup.llpTimeout, h.1]
    exact hx
  unfold LonUsbLinkState.readByte
  generalize (s.storeByte x.byte).checkUplinkCompleted = c at *
  obtain ⟨t, status, completed⟩ := c
  dsimp only at htimely ⊢
  rw [htimely]
  split
  case isTrue => rfl
  case isFalse h =>
    rw [Decidable.not_not.mp h]
    split <;> rfl

theorem arrive_pair (ho : Open start llpTimeout r) {x y : Arrival}
    (hx : ¬llpTimeout < x.now - start) (hxb : x.byte = FRAME_SYNC) (hyb : y.byte = FRAME_SYNC) :
    arrive (arrive r x) y = onSuccess r fun s => s.readByte FRAME_SYNC := by
  obtain ⟨s, status⟩ := r
  obtain ⟨rfl, hstate, rfl, rfl⟩ := ho
  dsimp only at hstate hx
  have hstore : arrive (s, .noError) x = ((s.storeByte FRAME_SYNC).setUplinkState .escapedData,
      .noError) := by
    rw [arrive, onSuccess_noError, LonUsbLinkState.processUplinkByte]
    simp only [hstate]
    unfold LonUsbLinkState.messageByte
    rw [if_pos hxb, hxb, LonUsbLinkState.checkMsgTimer_of_timely
      ((s.storeByte FRAME_SYNC).setUplinkState .escapedData) (.inr hx)]
  have hunescape : ((s.storeByte FRAME_SYNC).setUplinkState .escapedData).unescape FRAME_SYNC =
      s.storeByte FRAME_SYNC := by
    rw [LonUsbLinkState.unescape, if_pos rfl]
    have : (s.storeByte FRAME_SYNC).uplinkState = .message := hstate
    generalize s.storeByte FRAME_SYNC = t at *
    cases t
    subst this
    rfl
  rw [hstore, arrive, onSuccess_noError, onSuccess_noError, hyb]
  change LonUsbLinkState.escapedDataByte _ FRAME_SYNC = _
  rw [LonUsbLinkState.escapedDataByte, hunescape]
  rfl

theorem foldl_arrive_message (bs : List UInt8) {xs : List Arrival}
    (hxs : xs.map Arrival.byte = stuff FRAME_SYNC bs) (hok : ∀ x ∈ xs, ¬llpTimeout < x.now - start)
    (hopen : ∀ p b q, bs = p ++ b :: q →
      Open start llpTimeout (p.foldl (fun r b => onSuccess r fun s => s.readByte b) r)) :
    xs.foldl arrive r = bs.foldl (fun r b => onSuccess r fun s => s.readByte b) r :=
  foldl_stuff Arrival.byte arrive _ FRAME_SYNC (Open start llpTimeout)
    (fun x => ¬llpTimeout < x.now - start)
    (fun _ _ ho hx hb => arrive_plain ho hx hb)
    (fun _ _ _ ho hx _ hxb hyb => arrive_pair ho hx hxb hyb) bs r xs hxs hok hopen

end Message

end LonStack.LonUsb
