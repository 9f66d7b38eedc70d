import ODataService.Time.Stamp

/-!
# The range of times

A clock may show any number of microseconds since 1970-01-01T00:00:00Z, but only the instants of the
calendar are times. What lies beyond is refused in one of three ways, by the number of days.
-/

namespace ODataService.Time

/-- Why a number of microseconds is no time. -/
inductive RangeFault where
  /-- The day is not on the calendar. -/
  | beyondCalendar
  /-- There are more days than an interval may have. -/
  | tooManyDays (days : Int)
  /-- The number of days does not fit into 32 bits. -/
  | beyondWord
deriving DecidableEq, Repr

/-- The wording of the fault. -/
def RangeFault.message : RangeFault → String
  | beyondCalendar => "date value out of range"
  | tooManyDays days => s!"days={days}; must have magnitude <= 999999999"
  | beyondWord => "Python int too large to convert to C int"

/-- The most days that an interval may have. -/
def maxDays : Int := 999999999

/-- The fault of a number of microseconds, if it is no time. -/
def rangeFault? (micros : Int) : Option RangeFault :=
  let days := micros / dayMicros
  if days < -0x80000000 || 0x80000000 ≤ days then some .beyondWord
  else if days < -maxDays || maxDays < days then some (.tooManyDays days)
  else if !isOnCalendar (micros / 1000) then some .beyondCalendar
  else none

end ODataService.Time
