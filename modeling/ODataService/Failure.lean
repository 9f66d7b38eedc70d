import ODataService.Error
import ODataService.Json.Coercion
import ODataService.Json.Reader
import ODataService.Text.Split
import ODataService.Time.Range

/-!
# Failures and their classification

What can go wrong while a request is handled, other than an answer. Most causes are known; a
`Failure.raised` is an incident that a record store reports in its own words.

`Failure.toErrorBody` decides how a failure is answered. A rejection by a protocol layer keeps its
code. Of everything else the kind, the error code and the status of the incident decide, in this
order: invalid data, missing permission, missing authentication, a missing record, a failure of the
database, whose message is never passed on, and last the status that the incident carries.
-/

namespace ODataService

/-- A failure as the classification sees it: the name of its kind, its text, and the name, code and
status it may carry, which are null when it does not. -/
structure Incident where
  kind : String
  message : String
  name : Json := .null
  code : Json := .null
  status : Json := .null

/-- An error answer of a remote record store. -/
structure RemoteError where
  status : Int
  body : String
  url : String
  code : Json := .null

/-- The most characters of a remote answer that an error message repeats. -/
def RemoteError.shownLength : Nat := 1200

def RemoteError.message (e : RemoteError) : String :=
  let shown := String.ofList (e.body.toList.take shownLength)
  s!"Upstream error {e.status} for {e.url}: {shown}"

/-- Why a URL is refused. -/
inductive UrlFault where
  /-- Brackets that do not surround the host. -/
  | brackets
  /-- A bracketed host of a future kind that is malformed. -/
  | futureAddress
  /-- A bracketed host that is no address. -/
  | notAnAddress (host : String)
  /-- A bracketed host that is an address of the old kind. -/
  | oldAddress
  /-- A host that contains a delimiter once its characters are normalised. -/
  | delimiter (host : String)
deriving DecidableEq, Repr

def UrlFault.message : UrlFault → String
  | brackets => "Invalid IPv6 URL"
  | futureAddress => "IPvFuture address is invalid"
  | notAnAddress host => s!"{Text.quoted host} does not appear to be an IPv4 or IPv6 address"
  | oldAddress => "An IPv4 address cannot be in brackets"
  | delimiter host => s!"netloc '{host}' contains invalid characters under NFKC normalization"

/-- What can go wrong. -/
inductive Failure where
  /-- A protocol layer refuses the request. -/
  | rejected (r : Rejection)
  /-- No object type of that name is registered. -/
  | unknownType (name : String)
  /-- A new record lacks required properties. -/
  | missingFields (type : String) (fields : List String)
  /-- The identifier of a new record is taken. -/
  | duplicateId (type id : String)
  /-- An object type without a name cannot be registered. -/
  | unnamedType
  /-- A remote record store answered with an error. -/
  | remote (e : RemoteError)
  /-- A remote record store cannot be reached. -/
  | unreachable (reason : String)
  /-- A value cannot be used. -/
  | value (fault : ValueFault)
  /-- A URL cannot be read. -/
  | url (fault : UrlFault)
  /-- A text is nested on more levels than the stack has room for. -/
  | nesting (c : Json.Container)
  /-- The time of a write is none. -/
  | noStamp (fault : Time.RangeFault)
  /-- A record store reports an incident. -/
  | raised (i : Incident)

namespace Failure

def incident : Failure → Incident
  | rejected r => { kind := "ODataValidationError", message := r.message }
  | unknownType name =>
    { kind := "NotFoundError", message := s!"Object type '{name}' is not registered",
      code := .str "NOT_FOUND" }
  | missingFields type fields =>
    let names := Text.joinWith ", " fields
    { kind := "ValidationError", message := s!"Missing required field(s) on {type}: {names}",
      code := .str "VALIDATION_ERROR" }
  | duplicateId type id =>
    { kind := "ValidationError", message := s!"Duplicate _id '{id}' in {type}",
      code := .str "VALIDATION_ERROR" }
  | unnamedType => { kind := "ValueError", message := "object type needs a name" }
  | remote e =>
    { kind := "ODataUpstreamError", message := e.message, code := e.code, status := .int e.status }
  | unreachable reason => { kind := "ConnectionError", message := reason }
  | value fault => { kind := fault.kind, message := fault.message }
  | url fault => { kind := "ValueError", message := fault.message }
  | nesting c => { kind := "RecursionError", message := (Json.Fault.nested c).message "" }
  | noStamp fault => { kind := "OverflowError", message := fault.message }
  | raised i => i

end Failure

namespace Incident

/-- The name that decides: the one that the incident carries, or else its kind. -/
def effectiveName (i : Incident) : Json := i.name.orElse (.str i.kind)

def isA (i : Incident) (name code : String) : Bool :=
  match i.effectiveName, i.code with
  | .str n, .str c => n == name || c == code
  | .str n, _ => n == name
  | _, .str c => c == code
  | _, _ => false

def isDatabaseFailure (i : Incident) : Bool :=
  match i.effectiveName, i.code with
  | .str n, .str c => n == "DatabaseError" || Text.startsWith c "DB_"
  | .str n, _ => n == "DatabaseError"
  | _, .str c => Text.startsWith c "DB_"
  | _, _ => false

def statusCode? (i : Incident) : Option ErrorCode :=
  match i.status with
  | .int n => ErrorCode.ofStatus? n
  | _ => none

/-- A text, or another one in the place of an empty text. -/
def messageOr (i : Incident) (fallback : String) : String :=
  if i.message = "" then fallback else i.message

/-- The code and message that an incident is answered with. -/
def classify (i : Incident) : ErrorCode × String :=
  if i.isA "ValidationError" "VALIDATION_ERROR" then
    (.badRequest, i.messageOr "Validation failed")
  else if i.isA "PermissionError" "FORBIDDEN" then (.forbidden, i.messageOr "Access forbidden")
  else if i.isA "AuthenticationError" "UNAUTHORIZED" then
    (.unauthorized, i.messageOr "Authentication required")
  else if i.isA "NotFoundError" "NOT_FOUND" then (.notFound, i.messageOr "Resource not found")
  else if i.isDatabaseFailure then
    (.internalServerError, "An error occurred while processing your request")
  else
    match i.statusCode? with
    | some code => (code, i.message)
    | none => (.internalServerError, i.messageOr "Internal server error")

/-- What debug mode tells about an incident. -/
def diagnostics (i : Incident) : Record :=
  [("message", .str i.message), ("type", .str i.kind), ("stacktrace", .str "<stacktrace>")]

/-- The content of the error response to an incident. -/
def toErrorBody (debug : Bool) (i : Incident) : ErrorBody :=
  let (code, message) := i.classify
  let body := ErrorBody.ofCode code message
  if debug && 500 ≤ code.status then { body with diagnostics := some i.diagnostics } else body

end Incident

/-- The content of the error response to a failure. -/
def Failure.toErrorBody (debug : Bool) : Failure → ErrorBody
  | .rejected r => r.toErrorBody
  | f => f.incident.toErrorBody debug

end ODataService
