import ODataService.Engine
import ODataService.Store.Basic

/-!
# Operations of the store in memory

The operations that the service needs, on the state of `ODataService.Store.Basic`. An operation
that fails leaves tables and stamps as they are. Only an update that finds no stamp any more has
changed the properties of the record by then.
-/

namespace ODataService.Store

/-- An action on the store in memory. -/
abbrev Run (α : Type) := Action (World Store) α

def result {α : Type} : Except Failure α → Run α
  | .ok a => pure a
  | .error f => Action.fail f

/-- The table of an entity set. -/
def tableOf (name : String) : Run Table := do
  let w ← get
  result (w.store.table name)

/-- Puts another store in the place of the present one. -/
def put (s : Store) : Run Unit := modify fun w => { w with store := s }

/-- The name of an object type that a value names; object types have texts as names. -/
def nameOf (name : Json) : Except Failure String :=
  match name with
  | .str s => .ok s
  | v =>
    -- a value that could be a key is just not declared; any other is no name at all
    match v.asKey with
    | .ok _ => .error (.unknownType v.display)
    | .error fault => .error (.value fault)

/-- The answer to a query. -/
def find (name : String) (q : Query) : Run (List Record) := do
  let t ← tableOf name
  return q.run t.values

/-- The number of records that a query asks for, without its page. -/
def count (name : String) (q : Query) : Run Nat := do
  let t ← tableOf name
  return (q.forCount.run t.values).length

/-- The record with an identifier. -/
def fetch (name id : String) : Run (Option Record) := do
  let t ← tableOf name
  return Assoc.get? t id

/-- Refuses a record that leaves required properties open. -/
def checkRequired (name : String) (data : Record) : Run Unit := do
  let w ← get
  match (Assoc.get? w.store.types name).map (·.openFields data) with
  | some (f :: fs) => Action.fail (.missingFields name (f :: fs))
  | _ => pure ()

/-- The identifier of a new record: the one it asks for, or a generated one. -/
def chooseId (data : Record) : Run String :=
  match givenId? data with
  | some id => pure id
  | none => Action.newId

/-- Adds a record. -/
def insert (name : String) (data : Record) : Run Record := do
  let t ← tableOf name
  checkRequired name data
  -- the identifier is used up even if the stamp fails
  let id ← chooseId data
  if Assoc.has t id then Action.fail (.duplicateId name id)
  else do
    let w ← get
    match w.store.stampFault? with
    | none =>
      let (r, s) := w.store.add name t data id
      put s
      return r
    | some fault =>
      -- the clock was read, and no record was added
      put w.store.clockRead
      Action.fail (.noStamp fault)

/-- Adds records in order, up to the first that fails. -/
def seed (name : String) (rows : List Record) : Run (List Record) := rows.mapM (insert name)

/-- Changes properties of a record. -/
def update (name id : String) (data : Record) : Run (Option Record) := do
  let t ← tableOf name
  match Assoc.get? t id with
  | none => return none
  | some old =>
    let w ← get
    match w.store.stampFault? with
    | none =>
      let (r, s) := w.store.change name t id old data
      put s
      return some r
    | some fault =>
      -- the properties were merged before the stamp was asked for
      put (w.store.changeUnstamped name t id old data)
      Action.fail (.noStamp fault)

/-- Removes a record. -/
def delete (name id : String) : Run Bool := do
  let t ← tableOf name
  if Assoc.has t id then
    let w ← get
    put (w.store.setTable name (Assoc.erase t id))
    return true
  else return false

def declare (t : ObjectType) : Run Unit := do
  let w ← get
  let s ← result (w.store.register t)
  put s

/-- The store in memory as a record store of the service. -/
def engine : Engine Store where
  registry := Store.registry
  find name q := do
    let name ← result (nameOf name)
    let rows ← find name q
    return rows.map .obj
  get name id := do
    let r ← fetch name id
    return r.map .obj
  create name data := do
    let r ← insert name data
    return .obj r
  update name id data := do
    let r ← update name id data
    return r.map .obj
  delete := delete
  count name q := do
    let n ← count name q
    return n

end ODataService.Store
