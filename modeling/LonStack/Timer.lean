namespace LonStack

abbrev LON_TIMER_MAX_DURATION : UInt32 := 0x7FFFFFFF

/-- A timer counts in ticks of the 32-bit clock; `expiration = 0` says that it is not running. -/
structure LonTimer where
  repeatTimeout : UInt32
  expiration : UInt32
  deriving DecidableEq, Repr, Inhabited

namespace LonTimer

def set (timer : LonTimer) (tickCount duration : UInt32) : LonTimer :=
  if duration = 0 then { timer with expiration := 0 }
  else
    let expiration := tickCount + min duration LON_TIMER_MAX_DURATION
    { repeatTimeout := 0, expiration := if expiration = 0 then 1 else expiration }

def delta (timer : LonTimer) (tickCount : UInt32) : Int :=
  (timer.expiration - tickCount).toBitVec.toInt

def isExpired (timer : LonTimer) (tickCount : UInt32) : Bool :=
  timer.expiration ≠ 0 && timer.delta tickCount ≤ 0

def reported (timer : LonTimer) (tickCount : UInt32) : LonTimer :=
  if timer.repeatTimeout = 0 then { timer with expiration := 0 }
  else
    let late := timer.expiration - tickCount
    let first :=
      if (timer.repeatTimeout + late).toBitVec.toInt < 0 then timer.repeatTimeout
      else timer.repeatTimeout + late
    { (timer.set tickCount first) with repeatTimeout := timer.repeatTimeout }

def expired (timer : LonTimer) (tickCount : UInt32) : Bool × LonTimer :=
  if timer.isExpired tickCount then (true, timer.reported tickCount) else (false, timer)

def running (timer : LonTimer) (tickCount : UInt32) : Bool :=
  timer.expiration ≠ 0 && 0 < timer.delta tickCount

end LonTimer

end LonStack
