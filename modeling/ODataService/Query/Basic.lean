import ODataService.Filter.Tree

/-!
# Queries

What a record store is asked for: which records, in which order, which page of them and which of
their properties. `Query.toWire` is the form in which a remote record store receives a query;
members that ask for nothing are left out.
-/

namespace ODataService

/-- A property that records are ordered by. -/
structure SortKey where
  field : String
  descending : Bool := false
deriving DecidableEq, Repr

/-- The direction's name. -/
def SortKey.direction (k : SortKey) : String := if k.descending then "desc" else "asc"

structure Query where
  filter : Option Filter := none
  /-- The most significant key first. -/
  orderBy : List SortKey := []
  limit : Option Nat := none
  offset : Option Nat := none
  /-- The properties asked for; none means all. -/
  fields : Option (List String) := none
  search : Option String := none

namespace Query

/-- The query whose answer is counted: the same records, without order, page and projection. -/
def forCount (q : Query) : Query := { filter := q.filter, search := q.search }

/-- A member with a value that may be missing. -/
def wireMember {α : Type} (name : String) (encode : α → Json) : Option α → Record
  | some v => [(name, encode v)]
  | none => []

def wireKey (k : SortKey) : Json := .obj [("field", .str k.field), ("order", .str k.direction)]

/-- A list that is left out when it is empty. -/
def presentList {α : Type} : List α → Option (List α)
  | [] => none
  | xs => some xs

/-- A number in the wire form. -/
def wireNat (n : Nat) : Json := .int n

def toWire (q : Query) : Json :=
  .obj (wireMember "where" Filter.toWhere q.filter ++
    wireMember "orderBy" (fun ks => .arr (ks.map wireKey)) (presentList q.orderBy) ++
    wireMember "limit" wireNat q.limit ++
    wireMember "offset" wireNat q.offset ++
    wireMember "fields" (fun fs => .arr (fs.map .str)) (q.fields.bind presentList) ++
    wireMember "search" .str (q.search.filter (· != "")))

/-- Reads a non-negative integer member that may be null or missing. -/
def readCount? (v : Json) : Option (Option Nat) :=
  match v with
  | .null => some none
  | .int n => if n < 0 then none else some (some n.toNat)
  | _ => none

end Query

end ODataService
