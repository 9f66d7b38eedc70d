import ODataService.Action
import ODataService.Expand.Entry
import ODataService.Query.Reading
import ODataService.Schema.ObjectType

/-!
# Embedding related records

`Expand.resolve` replaces the keys that records hold in their relationship fields by the records
that they refer to. For each entry of the `$expand` text the distinct keys of all records are
looked up with one query. A key whose record is not found stays as it is, and properties that are
no relationship are passed over.

What a store finds need not be a record. Such values are passed over as long as no relationship is
resolved in them.

The number of levels bounds the nesting; it is what ends the recursion where relationships form a
cycle.
-/

namespace ODataService.Expand

variable {ω : Type}

/-- Where related records come from. What names their type may be any value. -/
structure Source (ω : Type) where
  registry : Registry
  find : Json → Query → Action ω (List Json)

/-- A value that can be the key of a record. -/
def key? (v : Json) : Option Scalar := v.scalar?.filter (· != .null)

/-- Adds a key unless it is there already. -/
def addKey (keys : List Scalar) (k : Scalar) : List Scalar :=
  if keys.any (k.sameKey ·) then keys else keys ++ [k]

/-- The distinct keys that records hold in a property, in order of appearance. -/
def keysOf (property : String) (rows : List Record) : List Scalar :=
  (rows.filterMap fun r => key? (Json.member r property)).foldl addKey []

/-- The query for the records with the given keys, under the options of an entry. A projection
keeps the key and the properties that are expanded in turn. -/
def relatedQuery (keys : List Scalar) (options : Assoc String) (keep : List String) :
    Except Rejection Query := do
  let q ← Query.ofParams true options
  return { q with
    -- the keys narrow the filter of the options, they do not replace it
    filter := Filter.all [some (.oneOf Query.idField keys), q.filter]
    fields := Query.includeFields q.fields (Query.idField :: keep) }

/-- The last of the related records that has the given key. -/
def recordOf? (related : List Record) (k : Scalar) : Option Record :=
  related.reverse.find? fun r =>
    match key? (Json.member r Query.idField) with
    | some id => id.sameKey k
    | none => false

/-- Replaces the key in a property by the record that has it. -/
def embed (property : String) (related : List Record) (r : Record) : Record :=
  match key? (Json.member r property) with
  | none => r
  | some k =>
    match recordOf? related k with
    | some found => Keyed.set r property (.obj found)
    | none => r

/-- The properties that are expanded in the related records, if there is a level left for them. -/
def nestedProperties (levels : Nat) (nested : Option String) : Except Rejection (List String) :=
  match levels, nested with
  | _ + 1, some text => (parse text).map fun entries => entries.map Entry.property
  -- without a level left the nested text is not even parsed
  | _, _ => .ok []

/-- What a resolution came to: the values as far as they were done, and why it stopped early. -/
structure Outcome where
  rows : List Json
  failure : Option Failure := none

/-- How a text is resolved in the values of an entity set, one level further down. -/
abbrev Resolver (ω : Type) := Json → List Json → String → StateM ω Outcome

/-- A resolution that fails if it stopped early. -/
def Outcome.rowsOrFail (o : Outcome) : Action ω (List Json) :=
  match o.failure with
  | some f => Action.fail f
  | none => pure o.rows

/-- Values that have to be records. -/
def requireRecords (vs : List Json) : Action ω (List Record) :=
  match Json.asRecords vs with
  | .ok rows => pure rows
  | .error fault => Action.fail (.value fault)

/-- Looks the records of some keys up and resolves what is nested in them. -/
def related (source : Source ω) (levels : Nat) (deeper : Resolver ω) (target : Json)
    (keys : List Scalar) (e : Entry) : Action ω (List Record) := do
  let keep ← Action.ofRejection (nestedProperties levels e.nested?)
  let q ← Action.ofRejection (relatedQuery keys e.options keep)
  let found ← source.find target q
  match e.nested? with
  | none => requireRecords found
  | some text =>
    -- what is nested replaces properties of the rows found, an `_id` among them
    let o ← (deeper target found text : StateM ω Outcome)
    let done ← o.rowsOrFail
    requireRecords done

/-- Resolves a relationship in the records that refer by it. -/
def resolveRelationship (source : Source ω) (levels : Nat) (deeper : Resolver ω) (f : Field)
    (vs : List Json) (e : Entry) : Action ω (List Json) := do
  let rows ← requireRecords vs
  match keysOf e.property rows with
  | [] => return vs
  -- one query for all rows
  | keys => do
    let found ← related source levels deeper f.reference keys e
    return rows.map fun r => .obj (embed e.property found r)

/-- Resolves one entry. Values that are no records do no harm unless it names a relationship. -/
def resolveEntry (source : Source ω) (levels : Nat) (deeper : Resolver ω) (type : ObjectType)
    (vs : List Json) (e : Entry) : Action ω (List Json) :=
  match Assoc.get? type.fields e.property with
  | none => pure vs
  | some f =>
    if f.isRelationship then resolveRelationship source levels deeper f vs e else pure vs

/-- Resolves entries one after the other, up to the first that fails. -/
def resolveEntries (source : Source ω) (levels : Nat) (deeper : Resolver ω) (type : ObjectType) :
    List Entry → List Json → StateM ω Outcome
  | [], vs => pure { rows := vs }
  | e :: es, vs => do
    match ← (resolveEntry source levels deeper type vs e).run with
    | .ok vs => resolveEntries source levels deeper type es vs
    | .error f => pure { rows := vs, failure := some f }

/-- Resolves an `$expand` text in the values of an entity set, as far as it can. -/
def outcome (source : Source ω) : (levels : Nat) → Resolver ω
  | 0, _, vs, _ => pure { rows := vs }
  | levels + 1, entitySet, vs, text =>
    if vs.isEmpty || text = "" then pure { rows := vs }
    else
      match parse text with
      | .error r => pure { rows := vs, failure := some (.rejected r) }
      | .ok entries =>
        match source.registry.resolve? entitySet with
        | .error fault => pure { rows := vs, failure := some (.value fault) }
        -- an entity set without a declaration has no relationships
        | .ok none => pure { rows := vs }
        | .ok (some type) => resolveEntries source levels (outcome source levels) type entries vs

/-- Resolves an `$expand` text in the values of an entity set. -/
def resolve (source : Source ω) (levels : Nat) (entitySet : Json) (vs : List Json)
    (text : String) : Action ω (List Json) := do
  let o ← (outcome source levels entitySet vs text : StateM ω Outcome)
  o.rowsOrFail

end ODataService.Expand
