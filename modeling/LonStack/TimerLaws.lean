import Mathlib.Algebra.Ring.Int.Defs
import Mathlib.Algebra.Ring.Nat
import LonStack.Lib.Run
import LonStack.Timer

namespace LonStack

open Lib

theorem toInt_toBitVec (x : UInt32) :
    x.toBitVec.toInt = if x.toNat < 2 ^ 31 then (x.toNat : Int) else x.toNat - 2 ^ 32 := by
  rw [BitVec.toInt_eq_toNat_cond, UInt32.toNat_toBitVec]
  have := x.toNat_lt
  split <;> split <;> omega

theorem toInt_nonpos_iff (x : UInt32) : x.toBitVec.toInt ≤ 0 ↔ x = 0 ∨ 2 ^ 31 ≤ x.toNat := by
  have hlt := x.toNat_lt
  have hzero : x = 0 ↔ x.toNat = 0 := UInt32.toNat_inj.symm
  rw [toInt_toBitVec, hzero]
  split <;> omega

theorem toInt_neg_iff (x : UInt32) : x.toBitVec.toInt < 0 ↔ 2 ^ 31 ≤ x.toNat := by
  have hlt := x.toNat_lt
  rw [toInt_toBitVec]
  split <;> omega

namespace LonTimer

def setRepeat (timer : LonTimer) (tickCount firstDuration repeatDuration : UInt32) : LonTimer :=
  { timer.set tickCount (min firstDuration LON_TIMER_MAX_DURATION) with
    repeatTimeout := min repeatDuration LON_TIMER_MAX_DURATION }

def remaining (timer : LonTimer) (tickCount : UInt32) : UInt32 :=
  if timer.running tickCount then timer.expiration - tickCount else 0

def poll (tickCount : UInt32) (timer : LonTimer) : LonTimer := (timer.expired tickCount).2

abbrev PollHistory := List (LonTimer × UInt32)

variable {timer : LonTimer} {tickCount r : UInt32}

theorem isExpired_iff :
    timer.isExpired tickCount = true ↔
      timer.expiration ≠ 0 ∧ (tickCount - timer.expiration).toNat ≤ 2 ^ 31 := by
  unfold isExpired delta
  rw [Bool.and_eq_true, decide_eq_true_iff, decide_eq_true_iff, toInt_nonpos_iff,
    ← UInt32.toNat_inj, UInt32.toNat_sub, UInt32.toNat_sub]
  have htick := tickCount.toNat_lt
  have hexp := timer.expiration.toNat_lt
  refine and_congr_right fun _ => ?_
  change _ = 0 ∨ _ ↔ _
  omega

theorem poll_of_expired (h : timer.isExpired tickCount = true) :
    timer.poll tickCount = timer.reported tickCount := by
  unfold poll expired
  rw [if_pos h]

theorem poll_of_not_expired (h : ¬timer.isExpired tickCount = true) :
    timer.poll tickCount = timer := by
  unfold poll expired
  rw [if_neg h]

theorem min_max_duration (d : UInt32) :
    min d LON_TIMER_MAX_DURATION = if d ≤ LON_TIMER_MAX_DURATION then d else LON_TIMER_MAX_DURATION :=
  rfl

theorem min_max_duration_le (d : UInt32) :
    min d LON_TIMER_MAX_DURATION ≤ LON_TIMER_MAX_DURATION := by
  rw [min_max_duration]
  split
  case isTrue h => exact h
  case isFalse h => exact UInt32.le_refl _

theorem set_of_pos (hpos : r ≠ 0) (hmax : r ≤ LON_TIMER_MAX_DURATION) :
    timer.set tickCount r = ⟨0, if tickCount + r = 0 then 1 else tickCount + r⟩ := by
  unfold set
  rw [if_neg hpos, min_max_duration, if_pos hmax]

def late (timer : LonTimer) (tickCount : UInt32) : UInt32 := tickCount - timer.expiration

/-- The time to the next expiration. It makes up for the lateness, unless that exceeds the repeat
duration. -/
def restart (timer : LonTimer) (tickCount : UInt32) : UInt32 :=
  if timer.repeatTimeout < timer.late tickCount then timer.repeatTimeout
  else timer.repeatTimeout - timer.late tickCount

theorem reported_eq_restart (h : timer.isExpired tickCount = true) (hpos : timer.repeatTimeout ≠ 0)
    (hmax : timer.repeatTimeout ≤ LON_TIMER_MAX_DURATION) :
    timer.reported tickCount =
      { timer.set tickCount (timer.restart tickCount) with
        repeatTimeout := timer.repeatTimeout } := by
  have hlate := (isExpired_iff.mp h).2
  have hcap : (timer.repeatTimeout + (timer.expiration - tickCount)).toBitVec.toInt < 0 ↔
      timer.repeatTimeout < timer.late tickCount := by
    have hexp := timer.expiration.toNat_lt
    have htick := tickCount.toNat_lt
    have hr : timer.repeatTimeout.toNat ≤ 0x7FFFFFFF := UInt32.le_iff_toNat_le.mp hmax
    have hr' : timer.repeatTimeout.toNat ≠ 0 := fun h => hpos (UInt32.toNat_inj.mp h)
    unfold late
    rw [toInt_neg_iff, UInt32.lt_iff_toNat_lt, UInt32.toNat_add, UInt32.toNat_sub,
      UInt32.toNat_sub]
    rw [UInt32.toNat_sub] at hlate
    omega
  have hfirst : timer.repeatTimeout + (timer.expiration - tickCount) =
      timer.repeatTimeout - timer.late tickCount := by
    unfold late
    rw [UInt32.sub_eq_add_neg timer.repeatTimeout, UInt32.neg_sub]
  unfold reported restart
  rw [if_neg hpos, ← hfirst]
  dsimp only
  simp only [hcap]

structure Rearmed (r tickCount : UInt32) (timer : LonTimer) : Prop where
  running : timer.expiration ≠ 0
  repeatTimeout : timer.repeatTimeout = r
  next : timer.expiration - tickCount ≤ r
  again : ∀ n < 2 ^ 31, timer.isExpired (timer.expiration + UInt32.ofNat n) = true

/-- The lateness is not the repeat duration, after which nothing would be left to wait for, and a
whole repeat duration does not end at tick 0, which no timer expires at. -/
def Repeats (r tickCount : UInt32) (timer : LonTimer) : Prop :=
  timer.late tickCount ≠ r ∧
    ¬(tickCount + r = 0 ∧ (timer.late tickCount = 0 ∨ r < timer.late tickCount))

instance (r tickCount : UInt32) (timer : LonTimer) : Decidable (timer.Repeats r tickCount) :=
  inferInstanceAs (Decidable (_ ∧ ¬(_ ∧ (_ ∨ _))))

theorem isExpired_later (h : timer.expiration ≠ 0) {n : Nat} (hn : n < 2 ^ 31) :
    timer.isExpired (timer.expiration + UInt32.ofNat n) = true := by
  refine isExpired_iff.mpr ⟨h, ?_⟩
  have hexp := timer.expiration.toNat_lt
  rw [UInt32.toNat_sub, UInt32.toNat_add, UInt32.toNat_ofNat']
  omega

theorem restart_eq_zero_iff (hpos : timer.repeatTimeout ≠ 0) :
    timer.restart tickCount = 0 ↔ timer.late tickCount = timer.repeatTimeout := by
  unfold restart
  have hzero : (0 : UInt32).toNat = 0 := rfl
  rw [← UInt32.toNat_inj.ne, hzero] at hpos
  split
  case isTrue hlt =>
    rw [UInt32.lt_iff_toNat_lt] at hlt
    rw [← UInt32.toNat_inj, ← UInt32.toNat_inj, hzero]
    omega
  case isFalse hle =>
    rw [UInt32.lt_iff_toNat_lt] at hle
    rw [← UInt32.toNat_inj, ← UInt32.toNat_inj,
      UInt32.toNat_sub_of_le _ _ (UInt32.le_iff_toNat_le.mpr (by omega)), hzero]
    omega

theorem restart_le : timer.restart tickCount ≤ timer.repeatTimeout := by
  unfold restart
  split
  case isTrue => exact UInt32.le_refl _
  case isFalse hle =>
    rw [UInt32.lt_iff_toNat_lt] at hle
    rw [UInt32.le_iff_toNat_le, UInt32.toNat_sub_of_le _ _ (UInt32.le_iff_toNat_le.mpr (by omega))]
    omega

theorem restart_eq_iff :
    timer.restart tickCount = timer.repeatTimeout ↔
      timer.late tickCount = 0 ∨ timer.repeatTimeout < timer.late tickCount := by
  unfold restart
  split
  case isTrue hlt => exact iff_of_true rfl (.inr hlt)
  case isFalse hle =>
    have hzero : (0 : UInt32).toNat = 0 := rfl
    rw [UInt32.lt_iff_toNat_lt] at hle
    rw [UInt32.lt_iff_toNat_lt, ← UInt32.toNat_inj, ← UInt32.toNat_inj,
      UInt32.toNat_sub_of_le _ _ (UInt32.le_iff_toNat_le.mpr (by omega)), hzero]
    omega

theorem set_next_le_iff {d : UInt32} (hpos : d ≠ 0) (hmax : d ≤ LON_TIMER_MAX_DURATION)
    (hle : d ≤ r) :
    (timer.set tickCount d).expiration - tickCount ≤ r ↔ ¬(tickCount + d = 0 ∧ d = r) := by
  rw [set_of_pos hpos hmax]
  have htick := tickCount.toNat_lt
  have hd : d.toNat ≤ 0x7FFFFFFF := UInt32.le_iff_toNat_le.mp hmax
  have hzero : (0 : UInt32).toNat = 0 := rfl
  rw [UInt32.le_iff_toNat_le] at hle
  dsimp only
  split
  case isTrue hwrap =>
    have hsum := UInt32.toNat_inj.mpr hwrap
    rw [UInt32.toNat_add, hzero] at hsum
    have hone : (1 : UInt32).toNat = 1 := rfl
    have hne : d.toNat ≠ 0 := fun h => hpos (UInt32.toNat_inj.mp h)
    rw [UInt32.le_iff_toNat_le, UInt32.toNat_sub, hone, and_iff_right hwrap, ← UInt32.toNat_inj]
    omega
  case isFalse hwrap =>
    rw [UInt32.add_comm, UInt32.add_sub_cancel, UInt32.le_iff_toNat_le]
    exact iff_of_true hle fun h => hwrap (UInt32.add_comm d tickCount ▸ h.1)

theorem rearmed_reported_iff (h : timer.isExpired tickCount = true)
    (hpos : timer.repeatTimeout ≠ 0) (hmax : timer.repeatTimeout ≤ LON_TIMER_MAX_DURATION) :
    (timer.reported tickCount).Rearmed timer.repeatTimeout tickCount ↔
      timer.Repeats timer.repeatTimeout tickCount := by
  rw [reported_eq_restart h hpos hmax]
  by_cases hstop : timer.late tickCount = timer.repeatTimeout
  case pos =>
    have hzero := (restart_eq_zero_iff hpos).mpr hstop
    refine iff_of_false (fun hre => hre.running ?_) fun hre => hre.1 hstop
    rw [hzero]
    rfl
  case neg =>
    have hfirst : timer.restart tickCount ≠ 0 := fun h => hstop ((restart_eq_zero_iff hpos).mp h)
    have hfirstMax : timer.restart tickCount ≤ LON_TIMER_MAX_DURATION :=
      UInt32.le_trans restart_le hmax
    have hnext := @set_next_le_iff timer tickCount _ _ hfirst hfirstMax
      restart_le
    have hrun : (timer.set tickCount (timer.restart tickCount)).expiration ≠ 0 := by
      rw [set_of_pos hfirst hfirstMax]
      dsimp only
      split
      case isTrue => decide
      case isFalse h => exact h
    have hwhole : (tickCount + timer.restart tickCount = 0 ∧
          timer.restart tickCount = timer.repeatTimeout) ↔
        (tickCount + timer.repeatTimeout = 0 ∧
          (timer.late tickCount = 0 ∨ timer.repeatTimeout < timer.late tickCount)) := by
      rw [← restart_eq_iff]
      exact ⟨fun ⟨ha, hb⟩ => ⟨hb ▸ ha, hb⟩, fun ⟨ha, hb⟩ => ⟨hb.symm ▸ ha, hb⟩⟩
    unfold Repeats
    rw [← hwhole, ← hnext]
    constructor
    · intro hre
      exact ⟨hstop, hre.next⟩
    · rintro ⟨-, hle⟩
      exact ⟨hrun, rfl, hle, fun n hn => isExpired_later hrun hn⟩

theorem poll_repeatTimeout (hpos : timer.repeatTimeout ≠ 0)
    (hmax : timer.repeatTimeout ≤ LON_TIMER_MAX_DURATION) :
    (timer.poll tickCount).repeatTimeout = timer.repeatTimeout := by
  by_cases hexp : timer.isExpired tickCount = true
  case pos => rw [poll_of_expired hexp, reported_eq_restart hexp hpos hmax]
  case neg => rw [poll_of_not_expired hexp]

theorem min_max_duration_ne_zero (h : r ≠ 0) : min r LON_TIMER_MAX_DURATION ≠ 0 := by
  rw [min_max_duration]
  split
  case isTrue => exact h
  case isFalse => decide

theorem repeatTimeout_of_mem {s t : LonTimer} {h : PollHistory} (hrun : Run poll s h t)
    (hpos : s.repeatTimeout ≠ 0) (hmax : s.repeatTimeout ≤ LON_TIMER_MAX_DURATION) :
    t.repeatTimeout = s.repeatTimeout ∧ ∀ x ∈ h, x.1.repeatTimeout = s.repeatTimeout := by
  induction hrun with
  | refl => exact ⟨rfl, fun x hx => absurd hx List.not_mem_nil⟩
  | @next h t tickCount _ ih =>
    obtain ⟨ht, hmem⟩ := ih
    refine ⟨?_, List.forall_mem_cons.mpr ⟨ht, hmem⟩⟩
    rw [poll_repeatTimeout (ht ▸ hpos) (ht ▸ hmax), ht]

/-- Whenever an expiration of a repeating timer is reported, the timer goes on exactly if the poll
does not come a repeat duration late and no whole repeat duration ends at tick 0. -/
theorem rearmed_iff_repeats (timer : LonTimer) (start first repeatDuration : UInt32)
    (hrepeat : repeatDuration ≠ 0) {h : PollHistory} {t : LonTimer}
    (hrun : Run poll (timer.setRepeat start first repeatDuration) h t) :
    (∀ x ∈ h, x.1.isExpired x.2 = true →
        (x.1.poll x.2).Rearmed (min repeatDuration LON_TIMER_MAX_DURATION) x.2) ↔
      ∀ x ∈ h, x.1.isExpired x.2 = true →
        x.1.Repeats (min repeatDuration LON_TIMER_MAX_DURATION) x.2 := by
  have hpos := min_max_duration_ne_zero hrepeat
  have hmax := min_max_duration_le repeatDuration
  have hmem := (repeatTimeout_of_mem hrun hpos hmax).2
  have hstep : ∀ x ∈ h, x.1.isExpired x.2 = true →
      ((x.1.poll x.2).Rearmed (min repeatDuration LON_TIMER_MAX_DURATION) x.2 ↔
        x.1.Repeats (min repeatDuration LON_TIMER_MAX_DURATION) x.2) := by
    intro x hx hexp
    have hr : x.1.repeatTimeout = min repeatDuration LON_TIMER_MAX_DURATION := hmem x hx
    rw [poll_of_expired hexp, ← hr]
    exact rearmed_reported_iff hexp (hr ▸ hpos) (hr ▸ hmax)
  constructor
  · intro hre x hx hexp
    exact (hstep x hx hexp).mp (hre x hx hexp)
  · intro hre x hx hexp
    exact (hstep x hx hexp).mpr (hre x hx hexp)

theorem rearmed_iff_repeats_on_time :
    (∀ x ∈ [((default : LonTimer).setRepeat 0 100 100, (100 : UInt32))], x.1.isExpired x.2 = true →
        (x.1.poll x.2).Rearmed (min 100 LON_TIMER_MAX_DURATION) x.2) ↔
      ∀ x ∈ [((default : LonTimer).setRepeat 0 100 100, (100 : UInt32))],
        x.1.isExpired x.2 = true → x.1.Repeats (min 100 LON_TIMER_MAX_DURATION) x.2 :=
  rearmed_iff_repeats default 0 100 100 (by decide) (.single 100 _)

theorem not_rearmed_late :
    ¬∀ (timer t : LonTimer) (start first repeatDuration : UInt32) (h : PollHistory),
      repeatDuration ≠ 0 → Run poll (timer.setRepeat start first repeatDuration) h t →
        ∀ x ∈ h, x.1.isExpired x.2 = true →
          (x.1.poll x.2).Rearmed (min repeatDuration LON_TIMER_MAX_DURATION) x.2 := by
  intro hall
  have hre := hall default _ 0 100 100 _ (by decide) (.single 200 _) _ List.mem_cons_self (by decide)
  exact hre.running (by decide)

/-- The delay that a duration gives: tick 0 is skipped. -/
def delay (start duration : UInt32) : Nat :=
  if start + duration = 0 then duration.toNat + 1 else duration.toNat

def tickAt (start : UInt32) (e : Nat) : UInt32 := start + UInt32.ofNat e

def pollAt (start : UInt32) (e : Nat) (timer : LonTimer) : LonTimer := timer.poll (tickAt start e)

/-- What the three functions answer `e` milliseconds after a timer was started with the delay
`d`, if the polls of `h` came before. -/
structure OnTime (start : UInt32) (d : Nat) (h : List (LonTimer × Nat)) (e : Nat)
    (timer : LonTimer) : Prop where
  running : timer.running (tickAt start e) = true ↔ e < d
  expired : (timer.expired (tickAt start e)).1 = true ↔ d ≤ e ∧ ∀ x ∈ h, x.2 < d
  remaining : (timer.remaining (tickAt start e)).toNat = d - e

theorem running_iff :
    timer.running tickCount = true ↔
      timer.expiration ≠ 0 ∧ 0 < (timer.expiration - tickCount).toNat ∧
        (timer.expiration - tickCount).toNat < 2 ^ 31 := by
  unfold running delta
  have hlt := (timer.expiration - tickCount).toNat_lt
  rw [Bool.and_eq_true, decide_eq_true_iff, decide_eq_true_iff, toInt_toBitVec]
  refine and_congr_right fun _ => ?_
  split <;> omega

theorem remaining_toNat :
    (timer.remaining tickCount).toNat =
      if timer.running tickCount then (timer.expiration - tickCount).toNat else 0 := by
  unfold remaining
  split <;> rfl

theorem expired_fst : (timer.expired tickCount).1 = timer.isExpired tickCount := by
  unfold expired
  split
  case isTrue h => exact h.symm
  case isFalse h => exact (Bool.eq_false_iff.mpr h).symm

section

variable {start d : UInt32} {e : Nat}

theorem delay_le (hmax : d ≤ LON_TIMER_MAX_DURATION) : delay start d ≤ 2 ^ 31 := by
  have hd : d.toNat ≤ 0x7FFFFFFF := UInt32.le_iff_toNat_le.mp hmax
  unfold delay
  split <;> omega

theorem delay_eq_iff (hmax : d ≤ LON_TIMER_MAX_DURATION) :
    delay start d = 2 ^ 31 ↔ d = LON_TIMER_MAX_DURATION ∧ start + d = 0 := by
  have hd : d.toNat ≤ 0x7FFFFFFF := UInt32.le_iff_toNat_le.mp hmax
  have hlong : d = LON_TIMER_MAX_DURATION ↔ d.toNat = 0x7FFFFFFF := UInt32.toNat_inj.symm
  rw [hlong]
  unfold delay
  split
  case isTrue h => rw [and_iff_left h]; omega
  case isFalse h => exact iff_of_false (by omega) fun hw => h hw.2

theorem set_eq_tickAt (hpos : d ≠ 0) (hmax : d ≤ LON_TIMER_MAX_DURATION) :
    timer.set start d = ⟨0, tickAt start (delay start d)⟩ := by
  rw [set_of_pos hpos hmax]
  unfold tickAt delay
  congr 1
  split
  case isTrue h =>
    rw [UInt32.ofNat_add, UInt32.ofNat_toNat, ← UInt32.add_assoc, h]
    rfl
  case isFalse => rw [UInt32.ofNat_toNat]

theorem tickAt_delay_ne_zero (hpos : d ≠ 0) (hmax : d ≤ LON_TIMER_MAX_DURATION) :
    tickAt start (delay start d) ≠ 0 := by
  have hset : (LonTimer.set default start d).expiration = tickAt start (delay start d) :=
    congrArg expiration (set_eq_tickAt hpos hmax)
  rw [← hset, set_of_pos hpos hmax]
  dsimp only
  split
  case isTrue => decide
  case isFalse h => exact h

theorem tickAt_sub (n e : Nat) (hn : n ≤ e + 2 ^ 31) (he : e < n + 2 ^ 31) :
    (tickAt start n - tickAt start e).toNat = if e ≤ n then n - e else n + 2 ^ 32 - e := by
  unfold tickAt
  have hstart := start.toNat_lt
  rw [UInt32.toNat_sub, UInt32.toNat_add, UInt32.toNat_add, UInt32.toNat_ofNat',
    UInt32.toNat_ofNat']
  split <;> omega

theorem isExpired_tickAt {n : Nat} (ht : timer.expiration = tickAt start n)
    (hne : timer.expiration ≠ 0) (hn : n < 2 ^ 31) (he : e < 2 ^ 31 + n) :
    timer.isExpired (tickAt start e) = true ↔ n ≤ e := by
  rw [isExpired_iff, and_iff_right hne, ht, tickAt_sub e n (by omega) (by omega)]
  split <;> omega

theorem running_tickAt {n : Nat} (ht : timer.expiration = tickAt start n)
    (hne : timer.expiration ≠ 0) (hn : n < 2 ^ 31) (he : e < 2 ^ 31 + n) :
    timer.running (tickAt start e) = true ↔ e < n := by
  rw [running_iff, and_iff_right hne, ht, tickAt_sub n e (by omega) (by omega)]
  split <;> omega

theorem onTime_of_armed {n : Nat} {h : List (LonTimer × Nat)}
    (ht : timer.expiration = tickAt start n) (hne : timer.expiration ≠ 0) (hn : n < 2 ^ 31)
    (he : e < 2 ^ 31 + n) (hbefore : ∀ x ∈ h, x.2 < n) : OnTime start n h e timer where
  running := running_tickAt ht hne hn he
  expired := by
    rw [expired_fst, isExpired_tickAt ht hne hn he]
    exact (and_iff_left hbefore).symm
  remaining := by
    have hrun := running_tickAt ht hne hn he
    rw [remaining_toNat, ht, tickAt_sub n e (by omega) (by omega)]
    split
    case isTrue h =>
      have := hrun.mp h
      rw [if_pos (by omega)]
    case isFalse h =>
      have := mt hrun.mpr h
      omega

theorem onTime_of_stopped {n : Nat} {h : List (LonTimer × Nat)} (ht : timer.expiration = 0)
    (he : n ≤ e) (hreported : ∃ x ∈ h, n ≤ x.2) : OnTime start n h e timer := by
  have hrun : ¬timer.running (tickAt start e) = true := fun h => (running_iff.mp h).1 ht
  have hexp : ¬timer.isExpired (tickAt start e) = true := fun h => (isExpired_iff.mp h).1 ht
  obtain ⟨x, hx, hxn⟩ := hreported
  refine ⟨iff_of_false hrun (by omega), ?_, ?_⟩
  · rw [expired_fst]
    refine iff_of_false hexp fun h => ?_
    have := h.2 x hx
    omega
  · rw [remaining_toNat, if_neg hrun]
    omega

theorem armed_or_stopped {n : Nat} {s t : LonTimer} {h : List (LonTimer × Nat)}
    (hrun : Run (pollAt start) s h t) (hs : s.expiration = tickAt start n) (hne : s.expiration ≠ 0)
    (honce : s.repeatTimeout = 0) (hn : n < 2 ^ 31) (hbound : ∀ x ∈ h, x.2 < 2 ^ 31 + n) :
    (t = s ∧ ∀ x ∈ h, x.2 < n) ∨ (t.expiration = 0 ∧ ∃ x ∈ h, n ≤ x.2) := by
  induction hrun with
  | refl => exact .inl ⟨rfl, fun x hx => absurd hx List.not_mem_nil⟩
  | @next h t e _ ih =>
    rw [List.forall_mem_cons] at hbound
    rcases ih hbound.2 with ⟨rfl, hbefore⟩ | ⟨hstopped, x, hx, hxn⟩
    · have hexp := isExpired_tickAt hs hne hn hbound.1
      by_cases hlate : n ≤ e
      case pos =>
        right
        refine ⟨?_, _, List.mem_cons_self, hlate⟩
        unfold pollAt
        rw [poll_of_expired (hexp.mpr hlate), reported, if_pos honce]
      case neg =>
        left
        refine ⟨poll_of_not_expired (mt hexp.mp hlate), ?_⟩
        exact List.forall_mem_cons.mpr ⟨by dsimp only; omega, hbefore⟩
    · right
      refine ⟨?_, x, List.mem_cons_of_mem _ hx, hxn⟩
      unfold pollAt
      rw [poll_of_not_expired fun h => (isExpired_iff.mp h).1 hstopped]
      exact hstopped

end

/-- A one-shot timer runs until its delay is over and is then reported exactly once, unless the
longest duration would end at tick 0. -/
theorem onTime_iff (start d : UInt32) (hpos : d ≠ 0) (hmax : d ≤ LON_TIMER_MAX_DURATION) :
    (∀ (timer t : LonTimer) (h : List (LonTimer × Nat)) (e : Nat),
        Run (pollAt start) (timer.set start d) h t → (∀ x ∈ h, x.2 ≤ e) →
          e < 2 ^ 31 + delay start d → OnTime start (delay start d) h e t) ↔
      ¬(d = LON_TIMER_MAX_DURATION ∧ start + d = 0) := by
  rw [← delay_eq_iff hmax]
  have hle : delay start d ≤ 2 ^ 31 := delay_le hmax
  have hset (timer : LonTimer) : timer.set start d = ⟨0, tickAt start (delay start d)⟩ :=
    set_eq_tickAt hpos hmax
  have hne : tickAt start (delay start d) ≠ 0 := tickAt_delay_ne_zero hpos hmax
  constructor
  · intro hall hlong
    -- the timer is taken for an expired one at once
    have hrun := (hall default _ [] 0 .refl (fun x hx => absurd hx List.not_mem_nil) (by omega)).running
    have hzero := (running_iff.mp (hrun.mpr (by omega))).2.2
    rw [hset, tickAt_sub _ 0 (by omega) (by omega), if_pos (by omega)] at hzero
    omega
  · intro hlong timer t h e hrun hlater he
    have hbound : ∀ x ∈ h, x.2 < 2 ^ 31 + delay start d := fun x hx =>
      Nat.lt_of_le_of_lt (hlater x hx) he
    rw [hset] at hrun
    rcases armed_or_stopped hrun rfl hne rfl (by omega) hbound with
      ⟨rfl, hbefore⟩ | ⟨hstopped, x, hx, hxn⟩
    · exact onTime_of_armed rfl hne (by omega) he hbefore
    · exact onTime_of_stopped hstopped (Nat.le_trans hxn (hlater x hx)) ⟨x, hx, hxn⟩

theorem onTime_iff_short :
    (∀ (timer t : LonTimer) (h : List (LonTimer × Nat)) (e : Nat),
        Run (pollAt 0xFFFFFFFF) (timer.set 0xFFFFFFFF 1) h t → (∀ x ∈ h, x.2 ≤ e) →
          e < 2 ^ 31 + delay 0xFFFFFFFF 1 → OnTime 0xFFFFFFFF (delay 0xFFFFFFFF 1) h e t) ↔
      ¬((1 : UInt32) = LON_TIMER_MAX_DURATION ∧ (0xFFFFFFFF : UInt32) + 1 = 0) :=
  onTime_iff 0xFFFFFFFF 1 (by decide) (by decide)

theorem not_onTime_longest :
    ¬∀ (start d : UInt32), d ≠ 0 → d ≤ LON_TIMER_MAX_DURATION →
      ∀ (timer t : LonTimer) (h : List (LonTimer × Nat)) (e : Nat),
        Run (pollAt start) (timer.set start d) h t → (∀ x ∈ h, x.2 ≤ e) →
          e < 2 ^ 31 + delay start d → OnTime start (delay start d) h e t := by
  intro hall
  have hrun := (hall 0x80000001 0x7FFFFFFF (by decide) (by decide) default _ [] 0 .refl
    (fun x hx => absurd hx List.not_mem_nil) (by decide)).running
  exact absurd (hrun.mpr (by decide)) (by decide)

section

variable {start : UInt32}

theorem running_eq :
    timer.running tickCount = (timer.expiration ≠ 0 && !timer.isExpired tickCount) := by
  unfold running isExpired
  by_cases hzero : timer.expiration = 0
  · simp [hzero]
  · rw [Bool.eq_iff_iff]
    simp [hzero]

theorem delay_ofNat {n : Nat} (hn : n < 65536) :
    n ≤ delay start (UInt32.ofNat n) ∧ delay start (UInt32.ofNat n) < 2 ^ 31 := by
  have hto : (UInt32.ofNat n).toNat = n := by simp; omega
  unfold delay
  rw [hto]
  split <;> omega

theorem expiration_set {n : Nat} (hn : n < 65536) (hpos : n ≠ 0) :
    (timer.set start (UInt32.ofNat n)).expiration =
        tickAt start (delay start (UInt32.ofNat n)) ∧
      (timer.set start (UInt32.ofNat n)).expiration ≠ 0 := by
  have hto : (UInt32.ofNat n).toNat = n := by simp; omega
  have hne : UInt32.ofNat n ≠ 0 := by
    rw [ne_eq, ← UInt32.toNat_inj, hto, UInt32.toNat_zero]
    exact hpos
  have hmax : UInt32.ofNat n ≤ LON_TIMER_MAX_DURATION := by
    rw [UInt32.le_iff_toNat_le, hto]
    change n ≤ 0x7FFFFFFF
    omega
  rw [congrArg expiration (set_eq_tickAt hne hmax)]
  exact ⟨rfl, tickAt_delay_ne_zero hne hmax⟩

theorem isExpired_set_iff {n : Nat} (hn : n < 65536) :
    (timer.set start (UInt32.ofNat n)).isExpired tickCount = true ↔
      n ≠ 0 ∧ delay start (UInt32.ofNat n) ≤ (tickCount - start).toNat ∧
        (tickCount - start).toNat ≤ delay start (UInt32.ofNat n) + 2 ^ 31 := by
  by_cases hpos : n = 0
  case pos =>
    refine iff_of_false (fun hexp => (isExpired_iff.mp hexp).1 ?_) fun h => h.1 hpos
    simp [set, hpos]
  case neg =>
    obtain ⟨hset, hne⟩ := @expiration_set timer start n hn hpos
    rw [isExpired_iff, and_iff_right hne, and_iff_right hpos, hset]
    have hdelay := @delay_ofNat start n hn
    generalize delay start (UInt32.ofNat n) = d at hdelay ⊢
    have helapsed := (tickCount - start).toNat_lt
    have hsub : tickCount - tickAt start d = (tickCount - start) - UInt32.ofNat d := by
      rw [tickAt, UInt32.sub_eq_add_neg, UInt32.sub_eq_add_neg, UInt32.sub_eq_add_neg, UInt32.neg_add,
        UInt32.add_assoc, UInt32.sub_eq_add_neg]
    rw [hsub, UInt32.toNat_sub, UInt32.toNat_ofNat']
    omega

theorem le_elapsed {n : Nat} (hn : n < 65536)
    (hstopped : (timer.set start (UInt32.ofNat n)).running tickCount = false) :
    n ≤ (tickCount - start).toNat := by
  by_cases hpos : n = 0
  case pos => omega
  case neg =>
    have hne := (@expiration_set timer start n hn hpos).2
    have hexp : (timer.set start (UInt32.ofNat n)).isExpired tickCount = true := by
      simpa [running_eq, hne] using hstopped
    exact Nat.le_trans (delay_ofNat hn).1 ((isExpired_set_iff hn).mp hexp).2.1
end

end LonTimer

end LonStack
