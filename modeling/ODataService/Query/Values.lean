import ODataService.Json.Members
import ODataService.Query.Answer

/-!
# Queries on values of any kind

What a query is put to need not be a list of records. A value that is none does no harm as long as
the query looks at no property: it is passed on, and its members, if it has any, make the record
that is answered. `Query.answer_records` says that on records this is `Query.run`.
-/

namespace ODataService

/-- Whether a filter, if there is one, admits a value. -/
def Filter.judge (f : Option Filter) (v : Json) : Except ValueFault Bool :=
  match f with
  | none => .ok true
  | f => v.asRecord.map (Filter.admits f)

namespace Query

/-- Keeps the selected properties of a value; only a record has properties to select. -/
def projectValue (fields : Option (List String)) (v : Json) : Except ValueFault Json :=
  match fields, v with
  | none, v | some [], v => .ok v
  | fields, .obj r => .ok (.obj (project fields r))
  | _, v => .error (.lacks v.kindName "items")

/-- The row of an answer that a value gives. -/
def rowOf (fields : Option (List String)) (v : Json) : Except ValueFault Record := do
  let v ← projectValue fields v
  v.asData

/-- Whether a query looks at properties before it projects. -/
def readsProperties (q : Query) : Bool :=
  q.filter.isSome || (q.search.filter (· != "")).isSome || !q.orderBy.isEmpty

def answer (q : Query) (vs : List Json) : Except ValueFault (List Record) :=
  match Json.asRecords vs with
  | .ok rows => .ok (q.run rows)
  | .error fault =>
    if q.readsProperties then .error fault
    else (page q.offset q.limit vs).mapM (rowOf q.fields)

/-- Records as values are records again. -/
theorem asRecords_map_obj (rows : List Record) : Json.asRecords (rows.map .obj) = .ok rows := by
  induction rows with
  | nil => rfl
  | cons r rows ih =>
    unfold Json.asRecords at ih ⊢
    simp only [List.map_cons, List.mapM_cons, ih]
    rfl

/-- On records the answer is the one that the query gives. -/
theorem answer_records (q : Query) (rows : List Record) :
    q.answer (rows.map .obj) = .ok (q.run rows) := by
  simp only [answer, asRecords_map_obj]

end Query

end ODataService
