import ODataService.Text.Split
import ODataService.Text.Quoted
import ODataService.Time.Calendar

/-!
# Reading timestamps

A timestamp is a date, or a date, one character of any kind and a time. Dates are written
`YYYY-MM-DD` or `YYYYMMDD`, or by week as `YYYY-Www`, `YYYY-Www-D`, `YYYYWww` or `YYYYWwwD`. Times
are hours, optionally minutes, optionally seconds, with colons between them or without, and
optionally a fraction behind a point or comma, of which six digits count. An offset from universal
time may follow as `Z` or as a sign and a time; without one the time is universal.

`Timestamp.parse` gives microseconds since 1970-01-01T00:00:00Z.
-/

namespace ODataService.Time

/-- Why a text is no timestamp. -/
inductive TimestampFault where
  | malformed
  | year (y : Nat)
  | month
  | day
  | hour
  | minute
  | second
  /-- An offset of a day or more, in microseconds. -/
  | offset (micros : Int)
deriving DecidableEq, Repr

/-- A span of time as messages show it: its days, which alone may be negative, and the seconds and
microseconds beyond them, each unless it is zero. -/
def spanText (micros : Int) : String :=
  let rest := micros % dayMicros
  let parts : List (String × Int) :=
    [("days", micros / dayMicros), ("seconds", rest / 1000000), ("microseconds", rest % 1000000)]
  let shown := (parts.filter (·.2 != 0)).map fun (name, n) => s!"{name}={n}"
  "datetime.timedelta(" ++ Text.joinWith ", " shown ++ ")"

/-- The wording of a fault of `text`. -/
def TimestampFault.message (text : String) : TimestampFault → String
  | malformed => s!"Invalid isoformat string: {Text.quoted text}"
  | year y => s!"year {y} is out of range"
  | month => "month must be in 1..12"
  | day => "day is out of range for month"
  | hour => "hour must be in 0..23"
  | minute => "minute must be in 0..59"
  | second => "second must be in 0..59"
  | offset micros =>
    "offset must be a timedelta strictly between -timedelta(hours=24) and timedelta(hours=24)," ++
      s!" not {spanText micros}."

namespace Timestamp

/-- Reads exactly `n` digits. -/
def digits : Nat → List Char → Option (Nat × List Char)
  | 0, cs => some (0, cs)
  | n + 1, cs =>
    match cs with
    | c :: cs =>
      if c.isDigit then
        (digits n cs).map fun (v, rest) => ((c.toNat - 0x30) * Nat.pow 10 n + v, rest)
      else none
    | [] => none

/-- Whether the character at a position is the given one. -/
def charAt (cs : List Char) (i : Nat) (c : Char) : Bool := cs[i]? == some c

/-- Where the date ends. The character behind a week may be the separator of the time or belong
to the day of the week: behind `YYYY-Www-` a digit in the place after next makes it a separator,
and behind `YYYYWww` the number of digits that follow decides, because those of a time come in
pairs. -/
def dateLength (cs : List Char) : Nat :=
  if cs.length = 7 then 7
  else if charAt cs 4 '-' then
    if charAt cs 5 'W' then
      if charAt cs 8 '-' then
        if (cs[10]?.map Char.isDigit).getD false then 8 else 10
      else 8
    else 10
  else if charAt cs 4 'W' then
    let stop := 7 + ((cs.drop 7).takeWhile Char.isDigit).length
    if stop < 9 then stop else if stop % 2 = 0 then 7 else 8
  else 8

/-- A date by year, month and day, or by year, week and day of the week. -/
inductive DateParts where
  | ofMonth (d : Date)
  | ofWeek (year week day : Nat)

/-- Reads a hyphen where the date is written with them. -/
def hyphen (used : Bool) (cs : List Char) : Option (List Char) :=
  if used then
    match cs with
    | '-' :: cs => some cs
    | _ => none
  else some cs

/-- Reads a date. -/
def dateParts (cs : List Char) : Option DateParts := do
  let (year, cs) ← digits 4 cs
  -- hyphens are used throughout or not at all, which the first place decides
  let (used, cs) :=
    match cs with
    | '-' :: cs => (true, cs)
    | cs => (false, cs)
  match cs with
  | 'W' :: cs =>
    let (week, cs) ← digits 2 cs
    -- a week alone is its Monday
    if cs.isEmpty then return .ofWeek year week 1
    let cs ← hyphen used cs
    let (day, _) ← digits 1 cs
    return .ofWeek year week day
  | cs =>
    let (month, cs) ← digits 2 cs
    let cs ← hyphen used cs
    let (day, _) ← digits 2 cs
    return .ofMonth ⟨year, month, day⟩

def checkWeek : DateParts → Except TimestampFault Unit
  | .ofMonth _ => .ok ()
  | .ofWeek year week day =>
    if week < 1 || weeksOfYear year < week || day < 1 || 7 < day then .error .malformed
    else .ok ()

/-- The number of the day that date parts denote. The weeks of the year 0 are in no month. -/
def dayNumber : DateParts → Except TimestampFault Nat
  | .ofMonth d =>
    if d.year < 1 then .error (.year d.year)
    else if d.month < 1 || 12 < d.month then .error .month
    else if d.day < 1 || daysInMonth d.year d.month < d.day then .error .day
    else .ok d.ordinal
  -- the last week of a year may end in the next one
  | .ofWeek year week day =>
    let n := (firstMonday year + (week - 1) * 7 + (day - 1)).toNat
    if year < 1 then .error .month
    else if maxYear < Date.yearOf n then .error (.year (Date.yearOf n))
    else .ok n

/-- The fields of a time of day, or of an offset. -/
structure Clock where
  hour : Nat := 0
  minute : Nat := 0
  second : Nat := 0
  micro : Nat := 0
deriving DecidableEq, Repr

/-- The seconds of the full fields. -/
def Clock.seconds (c : Clock) : Nat := c.hour * 3600 + c.minute * 60 + c.second

/-- What stands behind the full fields of a time: nothing or a single ASCII character, which is
left over unless it is the end, or a fraction. -/
inductive ClockTail where
  | finish (leftOver : Bool)
  | fraction (cs : List Char)

/-- The character that ends a text. -/
def endMark : Char := '\x00'

/-- Reads up to `fields` fields of two digits. `colons` says whether colons stand between them,
which the character behind the first field decides; `followed` says whether something follows
the text. -/
def clockFields (followed : Bool) : Nat → Option Bool → List Char → Option (List Nat × ClockTail)
  | 0, _, cs => some ([], .fraction cs)
  | fields + 1, colons, cs => do
    let (v, cs) ← digits 2 cs
    match cs with
    | [] => return ([v], .finish followed)
    -- a single character is no field, and what it means depends on where it stands
    | [c] => if c.toNat < 0x80 then return ([v], .finish (c != endMark)) else none
    | c :: rest =>
      let colons := colons.getD (c == ':')
      if colons && c == ':' then
        let (vs, tail) ← clockFields followed fields (some colons) rest
        return (v :: vs, tail)
      else if c == '.' || c == ',' then return ([v], .fraction rest)
      else if colons then none
      else
        let (vs, tail) ← clockFields followed fields (some colons) cs
        return (v :: vs, tail)

/-- Reads a fraction: its microseconds, and whether something is left over behind its digits. -/
def fractionMicros (followed : Bool) (cs : List Char) : Option (Nat × Bool) := do
  -- digits behind the sixth are read over
  let n := min cs.length 6
  let (v, rest) ← digits n cs
  let leftOver :=
    match rest.dropWhile Char.isDigit with
    | [] => followed
    | c :: _ => c != endMark
  return (v * Nat.pow 10 (6 - n), leftOver)

/-- Reads a time: its fields, and whether something is left over. -/
def clock (followed : Bool) (cs : List Char) : Option (Clock × Bool) := do
  let (vs, tail) ← clockFields followed 3 none cs
  let c : Clock := { hour := vs.getD 0 0, minute := vs.getD 1 0, second := vs.getD 2 0 }
  match tail with
  | .finish leftOver => return (c, leftOver)
  | .fraction cs =>
    let (micro, leftOver) ← fractionMicros followed cs
    return ({ c with micro := micro }, leftOver)

def startsOffset (c : Char) : Bool := c == '+' || c == '-' || c == 'Z'

/-- A time of day and its offset from universal time in microseconds. -/
structure TimeParts where
  clock : Clock
  offset : Int := 0

/-- The microseconds of an offset; one without full seconds is none. -/
def offsetMicros (negative : Bool) (c : Clock) : Int :=
  if c.seconds = 0 then 0
  else
    let n : Int := c.seconds * 1000000 + c.micro
    if negative then -n else n

/-- Reads a time with its offset. -/
def timeParts (cs : List Char) : Option TimeParts := do
  let body := cs.takeWhile (! startsOffset ·)
  match cs.dropWhile (! startsOffset ·) with
  | [] =>
    let (c, leftOver) ← clock false body
    if leftOver then none else return { clock := c }
  | sign :: rest =>
    -- what is left over in front of the offset does not count
    let (c, _) ← clock true body
    if sign = 'Z' then
      match rest with
      | [] => return { clock := c }
      | e :: _ => if e = endMark then return { clock := c } else none
    else
      let (o, leftOver) ← clock false rest
      if leftOver then none else return ⟨c, offsetMicros (sign == '-') o⟩

/-- Checks that an offset is shorter than a day. -/
def checkOffset (micros : Int) : Except TimestampFault Unit :=
  if micros ≤ -dayMicros || dayMicros ≤ micros then .error (.offset micros) else .ok ()

/-- Checks the fields of a time of day. -/
def checkClock (c : Clock) : Except TimestampFault Unit :=
  if 23 < c.hour then .error .hour
  else if 59 < c.minute then .error .minute
  else if 59 < c.second then .error .second
  else .ok ()

/-- The instant of a day and time. Of several faults a week that does not exist comes first, then
the offset, the day and the time of day. -/
def instant (date : DateParts) (t : TimeParts) : Except TimestampFault Int := do
  checkWeek date
  checkOffset t.offset
  let day ← dayNumber date
  checkClock t.clock
  let days : Int := (day : Int) - epochOrdinal
  return days * dayMicros + (t.clock.seconds : Int) * 1000000 + t.clock.micro - t.offset

/-- Reads what follows the date: nothing, or a character and a time. -/
def timeAfterDate : List Char → Option TimeParts
  | [] => some { clock := {} }
  | _ :: cs => timeParts cs

/-- Reads a timestamp as microseconds since the epoch. -/
def parse (text : String) : Except TimestampFault Int :=
  let cs := text.toList
  let n := dateLength cs
  if cs.length < 7 then .error .malformed
  else
    match dateParts (cs.take n), timeAfterDate (cs.drop n) with
    | some date, some t => instant date t
    | _, _ => .error .malformed

end Timestamp

end ODataService.Time
