import ODataService.Json.Keyed

/-!
# JSON values

What request bodies, records and remote answers consist of. The members of an object keep their
order. Those that were read from a text have texts as names; a record that was made from pairs may
have members under any scalar.
-/

namespace ODataService

/-- A JSON value. -/
inductive Json where
  | null
  | bool (b : Bool)
  | int (n : Int)
  | real (x : Binary64)
  | str (s : String)
  | arr (items : List Json)
  | obj (members : List (Scalar × Json))
deriving Inhabited, Repr

/-- The members of a JSON object in order. -/
abbrev Record := Keyed Json

def Scalar.toJson : Scalar → Json
  | .null => .null
  | .bool b => .bool b
  | .int n => .int n
  | .real x => .real x
  | .str s => .str s

namespace Json

/-- The value as a scalar, unless it is an array or object. -/
def scalar? : Json → Option Scalar
  | .null => some .null
  | .bool b => some (.bool b)
  | .int n => some (.int n)
  | .real x => some (.real x)
  | .str s => some (.str s)
  | .arr _ => none
  | .obj _ => none

/-- Whether the value counts as absent where a default may take its place: null, false, zero and
everything empty. -/
def isVoid : Json → Bool
  | .null => true
  | .bool b => !b
  | .int n => n == 0
  | .real x => x.isZero
  | .str s => s == ""
  | .arr items => items.isEmpty
  | .obj members => members.isEmpty

/-- The value itself unless it counts as absent. -/
def orElse (v w : Json) : Json := if v.isVoid then w else v

/-- The member of a record, null when missing. -/
def member (r : Record) (key : String) : Json := (Keyed.get? r key).getD .null

/-- The name of the value's kind in messages. -/
def kindName : Json → String
  | .null => "NoneType"
  | .bool _ => "bool"
  | .int _ => "int"
  | .real _ => "float"
  | .str _ => "str"
  | .arr _ => "list"
  | .obj _ => "dict"

end Json

end ODataService
