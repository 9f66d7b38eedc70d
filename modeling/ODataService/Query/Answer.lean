import ODataService.Filter.Evaluation
import ODataService.Json.Writer
import ODataService.Query.Select
import ODataService.Query.Basic
import ODataService.Sorting.Runs
import ODataService.Text.Case

/-!
# Answering a query

`Query.run` answers a query on a list of records: it keeps the records that satisfy the filter and
hold the search term, orders them, takes the page and projects each record.

Sorting is stable in both directions. Null comes first, then numbers with booleans as 0 and 1,
then texts by code point, then arrays and objects by the text that stands for them. NaN has no place
among the numbers; records of which some have one are sorted by runs.
-/

namespace ODataService.Query

/-- Whether a term occurs in one of the texts of a record, in any case. -/
def hasTerm (term : String) (r : Record) : Bool :=
  r.any fun
    | (_, .str s) => Text.contains (Text.lower s) (Text.lower term)
    | _ => false

/-- Whether a record matches a search; a missing or empty term matches all. -/
def matchesSearch (term : Option String) (r : Record) : Bool :=
  match term with
  | none | some "" => true
  | some term => hasTerm term r

/-- Where a value is sorted. NaN is a number without a place among the others. -/
inductive SortPlace where
  | null
  | number (x : Option Magnitude)
  | text (s : String)
  | other (s : String)
deriving DecidableEq, Repr

/-- The place of a value. -/
def sortPlace (v : Json) : SortPlace :=
  match v with
  | .null => .null
  | .bool b => .number (Scalar.bool b).magnitude?
  | .int n => .number (Scalar.int n).magnitude?
  | .real x => .number (Scalar.real x).magnitude?
  | .str s => .text s
  | .arr items => .other (Json.arr items).display
  | .obj members => .other (Json.obj members).display

namespace SortPlace

/-- The group of values that a place belongs to. -/
def rank : SortPlace → Nat
  | null => 0
  | number _ => 1
  | text _ => 2
  | other _ => 3

/-- Whether a place lies strictly before another. -/
def before : SortPlace → SortPlace → Bool
  | number (some x), number (some y) => x.less y
  | text s, text t => s < t
  | other s, other t => s < t
  | a, b => a.rank < b.rank

end SortPlace

def placeOf (k : SortKey) (r : Record) : SortPlace := sortPlace (Json.member r k.field)

/-- Whether a record may stand in front of another under a sort key. -/
def inOrder (k : SortKey) (r s : Record) : Bool :=
  let a := placeOf k r
  let b := placeOf k s
  if k.descending then !a.before b else !b.before a

/-- Orders records of which some have no place among the others. -/
def orderWithGaps (k : SortKey) (rows : List Record) : List Record :=
  let before (r s : Record) : Bool := (placeOf k r).before (placeOf k s)
  if k.descending then (Sorting.byRuns before rows.reverse).reverse
  else Sorting.byRuns before rows

def orderByKey (k : SortKey) (rows : List Record) : List Record :=
  if rows.any (placeOf k · == .number none) then orderWithGaps k rows
  else rows.mergeSort (inOrder k)

/-- Orders records by the keys, the most significant first. -/
def order (keys : List SortKey) (rows : List Record) : List Record := keys.foldr orderByKey rows

def page {α : Type} (offset limit : Option Nat) (rows : List α) : List α :=
  let rows := rows.drop (offset.getD 0)
  match limit with
  | some n => rows.take n
  | none => rows

def selects (q : Query) (r : Record) : Bool :=
  Filter.admits q.filter r && matchesSearch q.search r

/-- The answer to a query. -/
def run (q : Query) (rows : List Record) : List Record :=
  (page q.offset q.limit (order q.orderBy (rows.filter (selects q)))).map (project q.fields)

end ODataService.Query
