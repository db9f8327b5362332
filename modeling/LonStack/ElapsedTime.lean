import Mathlib.Algebra.Ring.Nat
import LonStack.Timer

namespace LonStack

structure ElapsedTime where
  day : UInt16
  hour : UInt8
  minute : UInt8
  second : UInt8
  millisecond : UInt16
  deriving DecidableEq, Repr, Inhabited

namespace ElapsedTime

def addMs (ms : Nat) (next : UInt32 → UInt32) (totalMs : UInt32) : UInt32 :=
  if LON_TIMER_MAX_DURATION - UInt32.ofNat ms < totalMs then LON_TIMER_MAX_DURATION
  else next (totalMs + UInt32.ofNat ms)

/-- The factor of the days is not the number of milliseconds of a day. -/
def toMs (t : ElapsedTime) : UInt32 :=
  if t.day = 0xFFFF then LON_TIMER_MAX_DURATION
  else if 50 ≤ t.day then LON_TIMER_MAX_DURATION
  else
    addMs (t.hour.toNat * 3600000)
      (addMs (t.minute.toNat * 60000)
        (addMs (t.second.toNat * 1000) (addMs t.millisecond.toNat id)))
      (UInt32.ofNat (t.day.toNat * 864000000))

variable (t : ElapsedTime)

def dayMs : Nat :=
  t.hour.toNat * 3600000 + t.minute.toNat * 60000 + t.second.toNat * 1000 + t.millisecond.toNat

def ms : Nat := t.day.toNat * 86400000 + t.dayMs

def maxMs : Nat := LON_TIMER_MAX_DURATION.toNat

def Exact : Prop := t.toMs.toNat = if t.day = 0xFFFF then maxMs else min maxMs t.ms

instance : Decidable t.Exact := inferInstanceAs (Decidable (_ = _))

def computedMs : Nat := t.day.toNat * 864000000 % 2 ^ 32 + t.dayMs

def Adds (f : UInt32 → UInt32) (a : Nat) : Prop :=
  ∀ x : UInt32, x.toNat ≤ maxMs → (f x).toNat = min maxMs (x.toNat + a)

theorem adds_id : Adds id 0 := by
  intro x hx
  change x.toNat = _
  omega

theorem addMs_toNat {a ms : Nat} {next : UInt32 → UInt32} (hnext : Adds next a) (hms : ms ≤ maxMs)
    (total : UInt32) : (addMs ms next total).toNat = min maxMs (total.toNat + (ms + a)) := by
  have hmax : LON_TIMER_MAX_DURATION.toNat = maxMs := rfl
  have hbound : maxMs = 0x7FFFFFFF := rfl
  have htotal := total.toNat_lt
  have hofNat : (UInt32.ofNat ms).toNat = ms := by
    rw [UInt32.toNat_ofNat']
    omega
  have hroom : (LON_TIMER_MAX_DURATION - UInt32.ofNat ms).toNat = maxMs - ms := by
    rw [UInt32.toNat_sub, hofNat, hmax]
    omega
  unfold addMs
  split
  case isTrue hlong =>
    rw [UInt32.lt_iff_toNat_lt, hroom] at hlong
    rw [hmax]
    omega
  case isFalse hfits =>
    rw [UInt32.lt_iff_toNat_lt, hroom] at hfits
    have hsum : (total + UInt32.ofNat ms).toNat = total.toNat + ms := by
      rw [UInt32.toNat_add, hofNat]
      omega
    rw [hnext _ (by omega), hsum, Nat.add_assoc]

theorem Adds.addMs {a ms : Nat} {next : UInt32 → UInt32} (hnext : Adds next a)
    (hms : ms ≤ maxMs) : Adds (addMs ms next) (ms + a) := fun x _ => addMs_toNat hnext hms x

theorem toMs_toNat (h : t.day.toNat < 50) : t.toMs.toNat = min maxMs t.computedMs := by
  have hbound : maxMs = 0x7FFFFFFF := rfl
  have hhour := t.hour.toNat_lt
  have hminute := t.minute.toNat_lt
  have hsecond := t.second.toNat_lt
  have hmilli := t.millisecond.toNat_lt
  have hinvalid : t.day ≠ 0xFFFF := by
    intro heq
    rw [heq] at h
    exact absurd h (by decide)
  have hfew : ¬50 ≤ t.day := fun hle => Nat.not_le.mpr h (UInt16.le_iff_toNat_le.mp hle)
  have hadds : Adds (addMs (t.minute.toNat * 60000)
      (addMs (t.second.toNat * 1000) (addMs t.millisecond.toNat id))) _ :=
    ((adds_id.addMs (by omega)).addMs (by omega)).addMs (by omega)
  unfold toMs
  rw [if_neg hinvalid, if_neg hfew, addMs_toNat hadds (by omega), UInt32.toNat_ofNat']
  unfold computedMs dayMs
  omega

theorem toMs_of_le (h : 50 ≤ t.day.toNat) : t.toMs = LON_TIMER_MAX_DURATION := by
  have hmany : 50 ≤ t.day := UInt16.le_iff_toNat_le.mpr h
  unfold toMs
  rw [if_pos hmany, ite_self]

theorem dayFactor_eq_iff : ∀ d < 50, d * 864000000 % 2 ^ 32 = d * 86400000 ↔ d = 0 := by decide

/-- A time of one to 49 days is converted exactly only if it is too long and is found to be. -/
theorem exact_iff :
    t.Exact ↔
      t.day = 0 ∨ 50 ≤ t.day.toNat ∨ (maxMs ≤ t.ms ∧ maxMs ≤ t.computedMs) := by
  have hbound : maxMs = 0x7FFFFFFF := rfl
  have hzero : t.day = 0 ↔ t.day.toNat = 0 := UInt16.toNat_inj.symm
  unfold Exact
  by_cases hmany : 50 ≤ t.day.toNat
  case pos =>
    have hms : maxMs ≤ t.ms := by
      unfold ms
      omega
    refine iff_of_true ?_ (.inr (.inl hmany))
    rw [toMs_of_le t hmany, min_eq_left hms, ite_self]
    rfl
  case neg =>
    have hinvalid : t.day ≠ 0xFFFF := by
      intro heq
      rw [heq] at hmany
      exact hmany (by decide)
    have hfactor := dayFactor_eq_iff t.day.toNat (by omega)
    rw [if_neg hinvalid, toMs_toNat t (by omega), hzero, ← hfactor]
    unfold ms computedMs
    generalize t.day.toNat * 864000000 % 2 ^ 32 = computed
    generalize t.day.toNat * 86400000 = days
    omega

theorem not_exact_one_day : ¬∀ t : ElapsedTime, t.Exact := by
  intro hall
  exact absurd (hall ⟨1, 0, 0, 0, 0⟩) (by decide)

end ElapsedTime

end LonStack
