import ODataService.Text.Quoted

/-!
# Types of the entity data model

The type under which a field is published. Field types that are not known are published as
strings.
-/

namespace ODataService.Schema

/-- The published types of the known field types. -/
def edmTypes : List (String × String) := [
  ("text", "Edm.String"), ("textarea", "Edm.String"), ("markdown", "Edm.String"),
  ("html", "Edm.String"), ("email", "Edm.String"), ("url", "Edm.String"),
  ("phone", "Edm.String"), ("password", "Edm.String"), ("select", "Edm.String"),
  ("lookup", "Edm.String"), ("master_detail", "Edm.String"), ("file", "Edm.String"),
  ("image", "Edm.String"), ("object", "Edm.String"), ("formula", "Edm.String"),
  ("summary", "Edm.String"), ("number", "Edm.Double"), ("currency", "Edm.Double"),
  ("percent", "Edm.Double"), ("autonumber", "Edm.Int32"), ("boolean", "Edm.Boolean"),
  ("date", "Edm.Date"), ("datetime", "Edm.DateTimeOffset"), ("time", "Edm.TimeOfDay")]

def knownEdmType? (fieldType : String) : Option String := edmTypes.lookup fieldType

def edmType (fieldType : String) : String := (knownEdmType? fieldType).getD "Edm.String"

/-- What the log says about a field type that is not known. -/
def unknownTypeMessage (fieldType : String) : String :=
  s!"Unknown field type {Text.quoted fieldType}, mapping to Edm.String"

end ODataService.Schema
