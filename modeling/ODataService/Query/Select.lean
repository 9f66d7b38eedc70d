import ODataService.Error
import ODataService.Json.Value
import ODataService.Text.Split

/-!
# The `$select` option

A comma-separated list of properties; a `*` among them selects all. The identifiers of a record
survive every projection.
-/

namespace ODataService.Query

/-- The identifier that records are looked up by. -/
def idField : String := "_id"

/-- The identifier properties, which every projection keeps. -/
def keyFields : List String := [idField, "id"]

/-- The rejection of an option that names no property. -/
def emptySelectMessage : String := "$select must name at least one property"

/-- Reads a `$select` option; none means all properties. -/
def parseSelect (raw : String) : Except Rejection (Option (List String)) :=
  match Text.commaList raw with
  | [] => .error ⟨.invalidSelect, emptySelectMessage, some "$select", none⟩
  | fields => .ok (if fields.contains "*" then none else some fields)

/-- Adds properties to a projection, each only if it is not there yet. -/
def includeFields (fields : Option (List String)) (extra : List String) : Option (List String) :=
  fields.map fun fs => fs ++ extra.filter (! fs.contains ·)

/-- Keeps the selected properties of a record and its identifiers. -/
def project (fields : Option (List String)) (r : Record) : Record :=
  match fields with
  | none | some [] => r
  | some fs => r.filter fun (k, _) => k.isAmong fs || k.isAmong keyFields

end ODataService.Query
