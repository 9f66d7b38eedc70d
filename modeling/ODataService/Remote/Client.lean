import ODataService.Engine
import ODataService.Remote.Connection

/-!
# The remote record store

A record store behind a connection. Declarations of object types are loaded by `refresh`, all or
none of them, and answered from memory until the next one; operations on records are passed on as
they come.
-/

namespace ODataService.Remote

/-- The state of a remote record store. The names of object types are what the store lists, which
may be any scalar. -/
structure Client where
  connection : Connection
  types : Keyed ObjectType := []

/-- An action on a remote record store. -/
abbrev Run (α : Type) := Action (World Client) α

def usable {α : Type} : Except ValueFault α → Run α
  | .ok a => pure a
  | .error fault => Action.fail (.value fault)

/-- Sends a request. -/
def send (method path : String) (payload : Option Json) : Run Json := do
  let w ← get
  let (answer, connection) := w.store.connection.send method path payload
  set { w with store := { w.store with connection := connection } }
  match answer with
  | .ok v => pure v
  | .error f => Action.fail f

/-- The path under which operations on records are sent. -/
def operationPath : String := "/api/objectql"

/-- The path under which the object types are listed. -/
def typesPath : String := "/api/metadata/objects"

/-- The data that an answer holds: the member `data` of an object, or else the whole value. -/
def answerData : Json → Json
  | .obj r => Json.member r "data"
  | v => v

/-- Sends an operation on the object type that a value names. -/
def call (operation : String) (name args : Json) : Run Json := do
  let v ← send "POST" operationPath
    (some (.obj [("op", .str operation), ("object", name), ("args", args)]))
  return answerData v

/-- Runs an action; an answer with status 404 gives the other result. -/
def orMissing {α : Type} (missing : α) (a : Run α) : Run α :=
  tryCatch a fun
    | .remote e => if e.status = 404 then pure missing else Action.fail (.remote e)
    | f => Action.fail f

/-- The answer to a query, of whatever kind its entries are. -/
def find (name : Json) (q : Query) : Run (List Json) := do
  let v ← call "find" name q.toWire
  if v.isVoid then pure [] else usable v.asItems

/-- What is stored under an identifier. -/
def fetch (name id : Json) : Run Json := orMissing .null (call "findOne" name (.obj [("id", id)]))

/-- Adds a record. -/
def create (name data : Json) : Run Json := call "create" name data

/-- Changes properties of a record. -/
def update (name id data : Json) : Run Json :=
  orMissing .null (call "update" name (.obj [("id", id), ("data", data)]))

/-- Whether a value says that a record was removed. -/
def saysDeleted : Json → Bool
  | .null => false
  | .bool false => false
  | _ => true

/-- Removes a record. -/
def delete (name id : Json) : Run Bool := do
  let v ← orMissing .null (call "delete" name (.obj [("id", id)]))
  return saysDeleted v

/-- The number of records that a query asks for. -/
def count (name : Json) (q : Query) : Run Int := do
  let v ← call "count" name q.forCount.toWire
  usable (v.orElse (.int 0)).asInteger

/-- A value, or nothing in the place of null. -/
def present? : Json → Option Json
  | .null => none
  | v => some v

/-- The entries of the list of object types. -/
def listedTypes : Json → Except ValueFault (List Json)
  | .obj r =>
    match Keyed.get? r "objects" with
    | some v => v.asItems
    | none => .ok []
  | v => if v.isVoid then .ok [] else v.asItems

/-- The name of a listed object type; an entry without a name is passed over. -/
def listedName? : Json → Except ValueFault (Option Json)
  | .str s => .ok (if s = "" then none else some (.str s))
  | .obj r =>
    let v := Json.member r "name"
    .ok (if v.isVoid then none else some v)
  | v => .error (.lacks v.kindName "get")

/-- The declaration of a listed object type; one without a name takes the name from the list. -/
def declaration (name detail : Json) : Except ValueFault ObjectType :=
  match detail.orElse (.obj []) with
  | .obj r =>
    if (Json.member r "name").isVoid then ObjectType.ofRecord (Keyed.set r "name" name)
    else ObjectType.ofRecord r
  | v => ObjectType.ofJson v

def loadTypes (types : Keyed ObjectType) : List Json → Run (Keyed ObjectType)
  | [] => pure types
  | entry :: entries => do
    match ← usable (listedName? entry) with
    | none => loadTypes types entries
    | some name =>
      let detail ← send "GET" (typesPath ++ "/" ++ name.display) none
      let type ← usable (declaration name detail)
      let key ← usable name.asKey
      loadTypes (types.set key type) entries

/-- Loads the declarations of all object types and gives their names. -/
def refresh : Run (List Scalar) := do
  let listing ← send "GET" typesPath none
  let entries ← usable (listedTypes listing)
  let types ← loadTypes [] entries
  modify fun w => { w with store := { w.store with types := types } }
  return types.keys

/-- The remote record store as a record store of the service. -/
def engine : Engine Client where
  registry c := c.types.map fun (name, t) => (name, some t)
  find := find
  get name id := do
    let v ← fetch (.str name) (.str id)
    return present? v
  create name data := create (.str name) (.obj data)
  update name id data := do
    let v ← update (.str name) (.str id) (.obj data)
    return present? v
  delete name id := delete (.str name) (.str id)
  count name := count (.str name)

end ODataService.Remote
