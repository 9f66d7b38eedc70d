import ODataService.Error
import ODataService.Http.Status
import ODataService.Json.Writer
import ODataService.Text.Blank
import ODataService.Text.Case
import ODataService.Text.Utf8

/-!
# Requests and responses

The messages that the service exchanges, whether they arrive on their own or as parts of a batch.
Header names are compared without regard to case.

`Response.render` is the text of a response inside a batch: the status line, one line per header,
an empty line and the body.
-/

namespace ODataService.Http

/-- The body of a request. -/
inductive Body where
  | none
  | text (s : String)
  | bytes (bs : List UInt8)
deriving DecidableEq, Repr

/-- The text of a body; bytes are read as UTF-8. -/
def Body.toText : Body → String
  | none => ""
  | text s => s
  | bytes bs => String.ofList (Text.Utf8.decode bs)

/-- A request. The method is in upper case and header names are in lower case. -/
structure Request where
  method : String
  path : String := "/"
  query : String := ""
  headers : Assoc String := []
  body : Body := .none
deriving DecidableEq, Repr

def lowerNames (headers : Assoc String) : Assoc String :=
  Assoc.ofPairs (headers.map fun (k, v) => (Text.lower k, v))

namespace Request

/-- A request with its method and header names in any case. -/
def make (method path query : String) (headers : Assoc String) (body : Body) : Request :=
  ⟨Text.upper method, path, query, lowerNames headers, body⟩

/-- The value of a header, whose name is given in lower case. -/
def header? (r : Request) (name : String) : Option String := Assoc.get? r.headers name

end Request

/-- A response. An error response also carries the content of its body. -/
structure Response where
  status : Nat
  headers : Assoc String := []
  body : String := ""
  error : Option ErrorBody := none

namespace Response

def json (status : Nat) (payload : Json) (headers : Assoc String) : Response :=
  { status := status
    headers := Assoc.merge [("Content-Type", "application/json")] headers
    body := payload.text }

def ofErrorStatus (status : Nat) (e : ErrorBody) : Response :=
  { json status e.envelope [] with error := some e }

def ofError (e : ErrorBody) : Response := ofErrorStatus e.status e

/-- A response without a body. -/
def empty (status : Nat) (headers : Assoc String) : Response :=
  { status := status, headers := headers }

def reason (r : Response) : String := Http.reason r.status

def statusLine (r : Response) : String :=
  let line := s!"HTTP/1.1 {r.status} {r.reason}"
  String.ofList (Text.trimRight line.toList)

def headerLine (h : String × String) : String := s!"{h.1}: {h.2}"

/-- The response as a text. -/
def render (r : Response) : String :=
  "\r\n".intercalate (r.statusLine :: r.headers.map headerLine) ++ "\r\n\r\n" ++ r.body

end Response

end ODataService.Http
