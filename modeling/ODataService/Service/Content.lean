import ODataService.Failure
import ODataService.Text.Split

/-!
# Contents of requests

The body of a request that writes a record is a JSON object; a blank one counts as an empty object.
A text that is no JSON object is refused. One that is nested too deep is not: the reader of the body
runs out of stack, and this counts as an incident of the service.
-/

namespace ODataService.Content

def invalidJson (e : Json.SyntaxError) (text : String) : Rejection :=
  ⟨.badRequest, s!"Invalid JSON body: {e.message text}", none, none⟩

/-- The rejection of a body that is no JSON object. -/
def notAnObject : Rejection := ⟨.badRequest, "Request body must be a JSON object", none, none⟩

/-- The levels of arrays and objects that a body can have. A thousand calls may be nested, and a
hundred of them are kept for those that have led to the reader; how many these are depends on what
the service runs in. -/
def maxLevels : Nat := 900

def readRecord (body : String) : Except Failure Record :=
  match Text.strip body with
  | "" => .ok []
  | text =>
    match Json.parseWithin maxLevels text with
    | .error (.malformed e) => .error (.rejected (invalidJson e text))
    | .error (.nested c) => .error (.nesting c)
    | .ok (.obj r) => .ok r
    | .ok _ => .error (.rejected notAnObject)

end ODataService.Content
