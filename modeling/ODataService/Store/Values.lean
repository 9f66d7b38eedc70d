import ODataService.Json.Members
import ODataService.Store.Operations

/-!
# Writing values of any kind

What is written to the store in memory need not be a record, and what names an object type need not
be a text. A new record consists of the members of the value, if it has any; a change takes nothing
but a record, and is looked at only if there is something to change.
-/

namespace ODataService.Store

def usable {α : Type} (x : Except ValueFault α) : Run α := result (x.mapError .value)

/-- Adds the record that the members of a value make. -/
def insertValue (name data : Json) : Run Record := do
  let data ← usable data.asData
  let name ← result (nameOf name)
  insert name data

/-- Adds the records that the entries of a value make, in order, up to the first that fails. -/
def seedValues (name rows : Json) : Run (List Record) := do
  let rows ← usable rows.asItems
  rows.mapM (insertValue name)

/-- Changes properties of a record to those of a value. -/
def updateValue (name id data : Json) : Run (Option Record) := do
  let name ← result (nameOf name)
  match ← fetch name id.display with
  | none => return none
  | some _ => do
    let data ← usable data.asRecord
    update name id.display data

end ODataService.Store
