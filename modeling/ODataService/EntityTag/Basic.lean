import ODataService.EntityTag.RollingHash
import ODataService.Json.Writer
import ODataService.Query.Select
import ODataService.Text.Split
import ODataService.Time.Timestamp

/-!
# Entity tags

The weak tag that tells the versions of a record apart. It holds the milliseconds of the record's
`updated_at`; of a record without that time, its identifier; and of one without an identifier, the
hash of its text.
-/

namespace ODataService.EntityTag

/-- The property that holds the time of the last write. -/
def timestampField : String := "updated_at"

/-- Why a record has no tag: its time is no finite number. -/
inductive Fault where
  | infiniteTime
  | timeNotANumber
deriving DecidableEq, Repr

/-- A weak tag with the given content. -/
def weak (content : String) : String := s!"W/\"{content}\""

/-- The milliseconds of a number of microseconds: the nearest binary64 number of seconds, times
1000, rounded to an integer. -/
def millisOfMicros (micros : Int) : Int :=
  match (Binary64.ofRatio (micros < 0) micros.natAbs 1000000).mulNat 1000 with
  | .finite s m e => Binary64.roundToInt s m e
  | _ => 0

/-- A timestamp with `Z` written as an offset. -/
def withOffset (text : String) : String :=
  match text.toList.getLast? with
  -- only a capital `Z`, and only at the end
  | some 'Z' => String.ofList (text.toList.dropLast ++ ['+', '0', '0', ':', '0', '0'])
  | _ => text

/-- The milliseconds that a time denotes: a number is their count, a text is read as a timestamp,
and other values denote none. -/
def timeMillis (v : Json) : Except Fault (Option Int) :=
  match v with
  | .int n => .ok (some n)
  | .real .nan => .error .timeNotANumber
  -- neither infinity nor NaN has an integer part
  | .real (.infinity _) => .error .infiniteTime
  | .real (.finite s m e) => .ok (some (Binary64.truncate s m e))
  | .str text =>
    match Time.Timestamp.parse (withOffset (Text.strip text)) with
    | .ok micros => .ok (some (millisOfMicros micros))
    -- a text that is no time counts as no time
    | .error _ => .ok none
  | _ => .ok none

/-- Whether a value can identify a record. -/
def isIdentifier (v : Json) : Bool :=
  match v with
  | .null => false
  | .str s => s != ""
  | _ => true

def identifier? (r : Record) : Option Json :=
  (Query.keyFields.map (Json.member r)).find? isIdentifier

/-- The tag of a record without a time. -/
def ofIdentity (r : Record) : String :=
  match identifier? r with
  | some v => weak v.display
  | none => weak (rollingHash (Json.obj r).compact)

/-- The tag of a record whose time is known. -/
def ofTime (millis : Option Int) (r : Record) : String :=
  match millis with
  | some n => weak (toString n)
  | none => ofIdentity r

/-- The tag of a record. -/
def ofRecord (r : Record) : Except Fault String := do
  let millis ← timeMillis (Json.member r timestampField)
  return ofTime millis r

end ODataService.EntityTag
