import ODataService.Json.Value

/-!
# Errors of the protocol

The error codes with their HTTP statuses, the rejection of a request by a protocol layer, and the
body of an error response.
-/

namespace ODataService

/-- The codes an error response can carry. -/
inductive ErrorCode where
  | badRequest
  | unauthorized
  | forbidden
  | notFound
  | methodNotAllowed
  | notAcceptable
  | preconditionFailed
  | internalServerError
  | notImplemented
  | serviceUnavailable
  | invalidQuery
  | invalidFilter
  | invalidOrderBy
  | invalidExpand
  | invalidSelect
deriving DecidableEq, Repr

namespace ErrorCode

/-- All codes. -/
def all : List ErrorCode :=
  [badRequest, unauthorized, forbidden, notFound, methodNotAllowed, notAcceptable,
    preconditionFailed, internalServerError, notImplemented, serviceUnavailable, invalidQuery,
    invalidFilter, invalidOrderBy, invalidExpand, invalidSelect]

/-- The code as a response shows it. -/
def name : ErrorCode → String
  | badRequest => "BadRequest"
  | unauthorized => "Unauthorized"
  | forbidden => "Forbidden"
  | notFound => "NotFound"
  | methodNotAllowed => "MethodNotAllowed"
  | notAcceptable => "NotAcceptable"
  | preconditionFailed => "PreconditionFailed"
  | internalServerError => "InternalServerError"
  | notImplemented => "NotImplemented"
  | serviceUnavailable => "ServiceUnavailable"
  | invalidQuery => "InvalidQuery"
  | invalidFilter => "InvalidFilter"
  | invalidOrderBy => "InvalidOrderBy"
  | invalidExpand => "InvalidExpand"
  | invalidSelect => "InvalidSelect"

def ofName? (name : String) : Option ErrorCode := all.find? (·.name == name)

/-- The HTTP status that answers a code; faulty query options are bad requests. -/
def status : ErrorCode → Nat
  | badRequest => 400
  | unauthorized => 401
  | forbidden => 403
  | notFound => 404
  | methodNotAllowed => 405
  | notAcceptable => 406
  | preconditionFailed => 412
  | internalServerError => 500
  | notImplemented => 501
  | serviceUnavailable => 503
  | invalidQuery | invalidFilter | invalidOrderBy | invalidExpand | invalidSelect => 400

/-- The code that stands for an HTTP status; the codes for query options stand for none. -/
def ofStatus? (status : Int) : Option ErrorCode :=
  all.find? fun c => (c.status : Int) == status

end ErrorCode

/-- One of several problems that an error lists. -/
structure ErrorDetail where
  code : String
  message : String
  target : Option String := none
deriving DecidableEq, Repr

/-- A request refused by a protocol layer: the code, what is wrong, the option or header it
concerns and, when several things are wrong, the list of them. -/
structure Rejection where
  code : ErrorCode
  message : String
  target : Option String := none
  details : Option (List ErrorDetail) := none
deriving DecidableEq, Repr

def Rejection.status (r : Rejection) : Nat := r.code.status

/-- The content of an error response. The code is a text, because a changeset repeats the codes
that its operations were answered with. -/
structure ErrorBody where
  code : String
  message : String
  target : Option String := none
  details : Option (List ErrorDetail) := none
  /-- Diagnostics: the failure in debug mode, the counters of an aborted changeset. -/
  diagnostics : Option Record := none
deriving Repr

/-- An optional text as a member, left out when there is none. -/
def optionalMember (name : String) : Option String → Record
  | some s => [(name, .str s)]
  | none => []

/-- A detail as JSON, without a missing target. -/
def ErrorDetail.toJson (d : ErrorDetail) : Json :=
  .obj (("code", .str d.code) :: ("message", .str d.message) :: optionalMember "target" d.target)

namespace ErrorBody

/-- The status of the body's code; a code outside the taxonomy is an internal error. -/
def status (e : ErrorBody) : Nat :=
  match ErrorCode.ofName? e.code with
  | some c => c.status
  | none => 500

/-- The JSON object of an error response; missing parts are left out. -/
def envelope (e : ErrorBody) : Json :=
  let details : Record :=
    match e.details with
    | some ds => [("details", .arr (ds.map ErrorDetail.toJson))]
    | none => []
  let diagnostics : Record :=
    match e.diagnostics with
    | some r => [("innererror", .obj r)]
    | none => []
  .obj [("error", .obj
    (("code", .str e.code) :: ("message", .str e.message) ::
      (optionalMember "target" e.target ++ details ++ diagnostics)))]

/-- An error of a given code and nothing else but a message. -/
def ofCode (code : ErrorCode) (message : String) : ErrorBody :=
  ⟨code.name, message, none, none, none⟩

end ErrorBody

/-- An empty list of details counts as none. -/
def presentDetails : Option (List ErrorDetail) → Option (List ErrorDetail)
  | some (d :: ds) => some (d :: ds)
  | _ => none

def Rejection.toErrorBody (r : Rejection) : ErrorBody :=
  ⟨r.code.name, r.message, r.target, presentDetails r.details, none⟩

/-- An optional text member: null and a missing member mean none, other values are refused. -/
def readOptionalText (r : Record) (name : String) : Option (Option String) :=
  match Json.member r name with
  | .null => some none
  | .str s => some (some s)
  | _ => none

/-- Reads a detail; other members are ignored. -/
def ErrorDetail.ofRecord? (r : Record) : Option ErrorDetail :=
  match Keyed.get? r "code", Keyed.get? r "message", readOptionalText r "target" with
  | some (.str code), some (.str message), some target => some ⟨code, message, target⟩
  | _, _, _ => none

def ErrorDetail.readList : List Json → Option (List ErrorDetail)
  | [] => some []
  | .obj r :: vs => do
    let d ← ErrorDetail.ofRecord? r
    let ds ← readList vs
    return d :: ds
  | _ => none

def ErrorDetail.readOptionalList (r : Record) : Option (Option (List ErrorDetail)) :=
  match Json.member r "details" with
  | .null => some none
  | .arr vs => (ErrorDetail.readList vs).map some
  | _ => none

/-- Reads the content of an error response; other members are ignored. -/
def ErrorBody.ofRecord? (r : Record) : Option ErrorBody :=
  match Keyed.get? r "code", Keyed.get? r "message", readOptionalText r "target",
      ErrorDetail.readOptionalList r, Json.member r "innererror" with
  | some (.str code), some (.str message), some target, some details, .null =>
    some ⟨code, message, target, details, none⟩
  | some (.str code), some (.str message), some target, some details, .obj inner =>
    some ⟨code, message, target, details, some inner⟩
  | _, _, _, _, _ => none

end ODataService
