/-!
# The calendar

Dates of the Gregorian calendar from the year 1 on, and their number of days since 0001-01-01.
`Date.ofOrdinal` finds the date of such a number again.
-/

namespace ODataService.Time

/-- Whether a year has 366 days. -/
def isLeapYear (y : Nat) : Bool := y % 4 == 0 && (y % 100 != 0 || y % 400 == 0)

/-- The days of the years before `y`. -/
def daysBeforeYear (y : Nat) : Nat :=
  let p := y - 1
  365 * p + p / 4 - p / 100 + p / 400

def daysInMonth (y m : Nat) : Nat :=
  match m with
  | 1 | 3 | 5 | 7 | 8 | 10 | 12 => 31
  | 4 | 6 | 9 | 11 => 30
  | 2 => if isLeapYear y then 29 else 28
  | _ => 0

/-- The days of a year before the month `m`. -/
def daysBeforeMonth (y : Nat) : Nat → Nat
  | 0 => 0
  | m + 1 => daysBeforeMonth y m + daysInMonth y m

/-- A day of the calendar. -/
structure Date where
  year : Nat
  month : Nat
  day : Nat
deriving DecidableEq, Repr

/-- The greatest year of a date. -/
def maxYear : Nat := 9999

namespace Date

/-- The number of days from 0001-01-01 to the date. -/
def ordinal (d : Date) : Nat :=
  daysBeforeYear d.year + daysBeforeMonth d.year d.month + (d.day - 1)

/-- The year that the day of a given number falls in: an estimate by the mean length of a year,
which is off by one year at most. -/
def yearOf (n : Nat) : Nat :=
  let y := n * 400 / 146097 + 1
  if n < daysBeforeYear y then y - 1 else if daysBeforeYear (y + 1) ≤ n then y + 1 else y

/-- The month, from `m` on, that the day `n` of a year falls in; at most `fuel` months are
passed over. -/
def monthOf (y n : Nat) : Nat → Nat → Nat
  | 0, m => m
  | fuel + 1, m => if n < daysBeforeMonth y (m + 1) then m else monthOf y n fuel (m + 1)

/-- The date with the given number. -/
def ofOrdinal (n : Nat) : Date :=
  let y := yearOf n
  let rest := n - daysBeforeYear y
  let m := monthOf y rest 11 1
  ⟨y, m, rest - daysBeforeMonth y m + 1⟩

end Date

/-- The number of 1970-01-01. -/
def epochOrdinal : Nat := 719162

/-- The day of the week of a day number, Monday being 0. -/
def weekday (ordinal : Nat) : Nat := ordinal % 7

/-- The number of the Monday on which week 1 of a year starts: the week that holds its first
Thursday. It may lie before 0001-01-01. -/
def firstMonday (y : Nat) : Int :=
  let newYear : Int := daysBeforeYear y
  let w : Int := weekday (daysBeforeYear y)
  if 3 < w then newYear - w + 7 else newYear - w

/-- The number of weeks of a year: 53 when it starts on a Thursday, or on a Wednesday and is a leap
year. -/
def weeksOfYear (y : Nat) : Nat :=
  let w := weekday (daysBeforeYear y)
  if w = 3 || (w = 2 && isLeapYear y) then 53 else 52

/-- The microseconds of a day. -/
def dayMicros : Int := 86400000000

end ODataService.Time
