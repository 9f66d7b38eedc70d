import ODataService.Action
import ODataService.Query.Answer
import ODataService.Schema.ObjectType
import ODataService.Time.Stamp

/-!
# The store in memory

Tables of records by entity set and identifier, both in the order of insertion. The store fills in
the identifiers and the times of creation and of the last write of every record; what a client
sends for these four properties is ignored, except for the identifier of a new record.

Times have millisecond resolution and increase strictly from write to write, whatever the clock
does: a reading that is not later than the last stamp is replaced by the next millisecond. A time
beyond the calendar is no stamp, and a clock that shows none stands still.
-/

namespace ODataService

/-- A clock in microseconds since the epoch that moves on by the same amount at every reading. -/
structure Clock where
  now : Int := 1700000000000000
  step : Int := 1000
deriving DecidableEq, Repr

/-- The clock after a reading. -/
def Clock.tick (c : Clock) : Clock := { c with now := c.now + c.step }

/-- The records of an entity set by their identifiers. -/
abbrev Table := Assoc Record

/-- The state of the store in memory. -/
structure Store where
  types : Assoc ObjectType := []
  tables : Assoc Table := []
  /-- The last stamp in milliseconds since the epoch. -/
  lastStamp : Option Int := none
  clock : Clock := {}

namespace Store

/-- The properties that the store fills in. -/
def systemFields : List String := ["_id", "id", "created_at", "updated_at"]

/-- The properties of a record other than the system properties. -/
def ownFields (r : Record) : Record := r.filter fun (k, _) => !k.isAmong systemFields

/-- The declarations of the object types. -/
def registry (s : Store) : Registry := s.types.map fun (name, t) => (.str name, some t)

/-- Adds an object type; an entity set that exists already keeps its records. -/
def register (s : Store) (t : ObjectType) : Except Failure Store :=
  if t.name = "" then .error .unnamedType
  else
    .ok { s with
      types := Assoc.set s.types t.name t
      tables := if Assoc.has s.tables t.name then s.tables else Assoc.set s.tables t.name [] }

/-- The table of an entity set. -/
def table (s : Store) (name : String) : Except Failure Table :=
  if Assoc.has s.types name then .ok ((Assoc.get? s.tables name).getD [])
  else .error (.unknownType name)

/-- The store with another table in the place of an entity set's. -/
def setTable (s : Store) (name : String) (t : Table) : Store :=
  { s with tables := Assoc.set s.tables name t }

/-- The stamp of the next write: the reading of the clock, or the millisecond behind the last
stamp. -/
def nextStamp (s : Store) : Int :=
  let now := s.clock.now / 1000
  match s.lastStamp with
  | some last => if now ≤ last then last + 1 else now
  | none => now

/-- Why there is no next stamp, if there is none: the clock shows no time, or the stamp would lie
behind the last day of the calendar. -/
def stampFault? (s : Store) : Option Time.RangeFault :=
  match Time.rangeFault? s.clock.now with
  | some fault => some fault
  | none => if Time.isOnCalendar s.nextStamp then none else some .beyondCalendar

/-- The store after its clock was read, which moves on only if it shows a time. -/
def clockRead (s : Store) : Store :=
  if (Time.rangeFault? s.clock.now).isNone then { s with clock := s.clock.tick } else s

/-- The store after the next stamp was taken. -/
def stamped (s : Store) : Store :=
  { s with lastStamp := some s.nextStamp, clock := s.clock.tick }

/-- The text of the next stamp. -/
def stamp (s : Store) : Json := .str (Time.stampText s.nextStamp)

/-- The properties that the store fills in for a new record. -/
def systemMembers (id : String) (stamp : Json) : Record :=
  [("_id", .str id), ("id", .str id), ("created_at", stamp), ("updated_at", stamp)]

def newRecord (data : Record) (id : String) (stamp : Json) : Record :=
  ownFields data ++ systemMembers id stamp

/-- A record with changed properties and its old times. -/
def mergedRecord (old data : Record) : Record := Keyed.merge old (ownFields data)

/-- A record with changed properties as it is stored. -/
def changedRecord (old data : Record) (stamp : Json) : Record :=
  Keyed.set (mergedRecord old data) "updated_at" stamp

/-- The identifier that a new record asks for: its `_id`, or its `id` when it has no `_id`. Null
and the empty text ask for none. -/
def givenId? (data : Record) : Option String :=
  match (Keyed.get? data "_id").getD (Json.member data "id") with
  | .null | .str "" => none
  | v => some v.display

def add (s : Store) (name : String) (t : Table) (data : Record) (id : String) : Record × Store :=
  let r := newRecord data id s.stamp
  (r, s.stamped.setTable name (Assoc.set t id r))

def change (s : Store) (name : String) (t : Table) (id : String) (old data : Record) :
    Record × Store :=
  let r := changedRecord old data s.stamp
  (r, s.stamped.setTable name (Assoc.set t id r))

/-- The store with a changed record, where there is no next stamp. -/
def changeUnstamped (s : Store) (name : String) (t : Table) (id : String) (old data : Record) :
    Store :=
  s.clockRead.setTable name (Assoc.set t id (mergedRecord old data))

end Store

end ODataService
