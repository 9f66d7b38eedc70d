import ODataService.Time.Calendar

/-!
# Writing stamps

The times at which a record was created and last written are stored as texts of the form
`YYYY-MM-DDTHH:MM:SS.mmmZ`. An instant is given by its milliseconds since 1970-01-01T00:00:00Z.
-/

namespace ODataService.Time

/-- The last `width` decimal digits of a number. -/
def decimalDigits : Nat → Nat → List Char
  | 0, _ => []
  | width + 1, n => decimalDigits width (n / 10) ++ [Nat.digitChar (n % 10)]

/-- A date as `YYYY-MM-DD`. -/
def dateText (d : Date) : List Char :=
  decimalDigits 4 d.year ++ '-' :: decimalDigits 2 d.month ++ '-' :: decimalDigits 2 d.day

/-- The milliseconds of a day as `HH:MM:SS.mmm`. -/
def clockText (millis : Nat) : List Char :=
  decimalDigits 2 (millis / 3600000) ++ ':' :: decimalDigits 2 (millis / 60000 % 60) ++
    ':' :: decimalDigits 2 (millis / 1000 % 60) ++ '.' :: decimalDigits 3 (millis % 1000)

/-- The milliseconds of a day. -/
def dayMillis : Int := 86400000

/-- Whether an instant is on a day of the calendar, which ends with the year 9999. -/
def isOnCalendar (millis : Int) : Bool :=
  let day := millis / dayMillis + epochOrdinal
  0 ≤ day && day < daysBeforeYear (maxYear + 1)

/-- The stamp of an instant. -/
def stampText (millis : Int) : String :=
  let day := (millis / dayMillis + epochOrdinal).toNat
  let rest := (millis % dayMillis).toNat
  String.ofList (dateText (Date.ofOrdinal day) ++ 'T' :: clockText rest ++ ['Z'])

end ODataService.Time
