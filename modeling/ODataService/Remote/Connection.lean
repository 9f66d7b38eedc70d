import ODataService.Action
import ODataService.Json.Reader
import ODataService.Text.Split

/-!
# The connection to a remote record store

A conversation with a remote record store: the requests sent so far and the answers still to come.
An answer of 400 or above, one that is no JSON and one that reports an error are errors of the
remote store.
-/

namespace ODataService.Remote

/-- An answer of the remote store. -/
structure Answer where
  status : Int := 200
  body : String := ""
deriving DecidableEq, Repr

/-- A request to the remote store. -/
structure Sent where
  method : String
  url : String
  body : Option String := none
  contentType : Option String := none
deriving DecidableEq, Repr

/-- The state of a conversation. -/
structure Connection where
  /-- The root of the remote store's URLs. -/
  base : String
  /-- The answers still to come. -/
  answers : List Answer := []
  /-- The requests sent so far. -/
  sent : List Sent := []

/-- The most characters that are repeated of an answer that is no JSON. -/
def shownLength : Nat := 200

/-- The member `error` of an answer, if it is an object. -/
def reportedError? : Json → Option Record
  | .obj r =>
    match Json.member r "error" with
    | .obj e => some e
    | _ => none
  | _ => none

/-- What an answer reports as an error: its message, or a default, and its code. -/
def errorReport (default : String) (e : Record) : String × Json :=
  (((Json.member e "message").orElse (.str default)).display, Json.member e "code")

/-- The message and code of an answer that failed. -/
def failedReport (a : Answer) : String × Json :=
  match (Json.parse a.body).toOption.bind reportedError? with
  | some e => errorReport a.body e
  | none => (a.body, .null)

/-- What an answer from `url` comes to. -/
def Answer.value (url : String) (a : Answer) : Except RemoteError Json :=
  if 400 ≤ a.status then
    let (message, code) := failedReport a
    .error ⟨a.status, message, url, code⟩
  else
    match Json.parse a.body with
    | .error _ =>
      let shown := String.ofList (a.body.toList.take shownLength)
      .error ⟨502, s!"Invalid JSON from upstream: {shown}", url, .null⟩
    | .ok v =>
      match reportedError? v with
      | some e =>
        let (message, code) := errorReport "Upstream error" e
        .error ⟨502, message, url, code⟩
      | none => .ok v

/-- The request for a path, with a JSON body if there is one. -/
def request (base method path : String) (payload : Option Json) : Sent :=
  { method := method
    url := base ++ path
    body := payload.map Json.compact
    contentType := payload.map fun _ => "application/json" }

/-- The conversation after a request was sent, and the next answer. -/
def Connection.exchange (c : Connection) (s : Sent) : Except Failure Json × Connection :=
  let c := { c with sent := c.sent ++ [s] }
  match c.answers with
  | [] => (.error (.unreachable "script exhausted"), c)
  | a :: rest => ((a.value s.url).mapError .remote, { c with answers := rest })

/-- Sends a request and uses the next answer. -/
def Connection.send (c : Connection) (method path : String) (payload : Option Json) :
    Except Failure Json × Connection :=
  c.exchange (request c.base method path payload)

end ODataService.Remote
