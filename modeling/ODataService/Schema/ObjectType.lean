import ODataService.Failure
import ODataService.Json.Members

/-!
# Object types

What a record store declares about its records: the types there are and the fields of each. A
field of a relationship type that names another object type refers to records of that type.

Declarations are read from JSON leniently: absent values have defaults, and the fields may be
nested under `content`.
-/

namespace ODataService

/-- A field of an object type. The label and the reference may be any value. -/
structure Field where
  type : String := "text"
  reference : Json := .null
  label : Json := .null
  required : Bool := false

/-- An object type, which is exposed as one entity set. -/
structure ObjectType where
  name : String
  label : Json := .null
  fields : Assoc Field := []

/-- The object types of a service by the names of their entity sets, which are texts unless a remote
record store says otherwise; a name may be listed without a declaration. -/
abbrev Registry := Keyed (Option ObjectType)

namespace Field

/-- The field types that refer to other records. -/
def relationshipTypes : List String := ["lookup", "master_detail"]

/-- Whether the field refers to records of another type. -/
def isRelationship (f : Field) : Bool :=
  relationshipTypes.contains f.type && !f.reference.isVoid

/-- Reads the declaration of a field. -/
def ofJson (v : Json) : Except ValueFault Field :=
  match v.orElse (.obj []) with
  | .obj r =>
    .ok {
      type := ((Json.member r "type").orElse (.str "text")).display
      reference := (Json.member r "reference").orElse (Json.member r "reference_to")
      label := Json.member r "label"
      required := !(Json.member r "required").isVoid }
  | other => .error (.lacks other.kindName "get")

end Field

namespace ObjectType

/-- The declared fields: those of the type itself, or else those under `content`. -/
def declaredFields (r : Record) : Except ValueFault Json :=
  let own := Json.member r "fields"
  if own.isVoid then
    match (Json.member r "content").orElse (.obj []) with
    | .obj content => .ok ((Json.member content "fields").orElse (.obj []))
    | other => .error (.lacks other.kindName "get")
  else .ok own

def readFields : Record → Except ValueFault (Assoc Field)
  | [] => .ok []
  | (name, v) :: rest => do
    let f ← Field.ofJson v
    let fs ← readFields rest
    return (Json.memberName name, f) :: fs

/-- Reads the declaration of an object type. -/
def ofRecord (r : Record) : Except ValueFault ObjectType := do
  match ← declaredFields r with
  | .obj declared =>
    let fields ← readFields declared
    let name := ((Json.member r "name").orElse (Json.member r "id")).orElse (.str "")
    return ⟨name.display, Json.member r "label", fields⟩
  | other => throw (.lacks other.kindName "items")

/-- Reads the declaration of an object type from any value. -/
def ofJson : Json → Except ValueFault ObjectType
  | .obj r => ofRecord r
  | other => .error (.lacks other.kindName "get")

/-- The required fields that a record leaves open: those that are missing, null or empty texts. -/
def openFields (t : ObjectType) (r : Record) : List String :=
  (t.fields.filter fun (name, f) =>
    f.required && (match Json.member r name with
      | .null | .str "" => true
      | _ => false)).map Prod.fst

end ObjectType

namespace Registry

/-- The declaration of the object type behind an entity set. -/
def find? (g : Registry) (name : String) : Option ObjectType := (Keyed.get? g (.str name)).join

/-- The declaration of the object type that a reference names, which may be any value. -/
def resolve? (g : Registry) (reference : Json) : Except ValueFault (Option ObjectType) :=
  reference.asKey.map fun key => (Keyed.get? g key).join

end Registry

end ODataService
