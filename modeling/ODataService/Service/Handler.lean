import ODataService.Batch.Envelope
import ODataService.Batch.Execution
import ODataService.Service.Collection
import ODataService.Service.Entity
import ODataService.Service.Path
import ODataService.Url.QueryString

/-!
# Answering requests

`Service.handle` answers every request. A failure on the way becomes an error response; one that is
the fault of the service goes to the log as well.

Batches are answered by answering their operations one by one. A batch inside a batch never gets
that far, so the dispatcher of a batch refuses batches.
-/

namespace ODataService.Service

variable {σ : Type}

/-- Answers with the service document. -/
def replyService (s : Service σ) (method : String) : Action (World σ) Http.Response := do
  requireMethod method "GET"
  let g ← s.registry
  return .json 200 (Schema.serviceDocument g s.settings.basePath) []

/-- Writes to the log that field types are not known. -/
def reportTypes (types : List String) : Action (World σ) Unit :=
  types.forM fun type => Action.report .warning .descriptions (Schema.unknownTypeMessage type)

/-- Answers with the `$metadata` document. -/
def replyMetadata (s : Service σ) (method : String) : Action (World σ) Http.Response := do
  requireMethod method "GET"
  let g ← s.registry
  reportTypes (Schema.unknownTypes g)
  let document ← usable (Schema.metadataDocument g s.settings.space)
  return { status := 200, headers := [("Content-Type", "application/xml")], body := document }

def refuseMethod (method path : String) : Action (World σ) Http.Response :=
  refuse .methodNotAllowed s!"Method {method} not allowed on {path}" none

/-- Answers a request for an entity set. -/
def replySet (s : Service σ) (set path : String) (params : Assoc String) (q : Http.Request) :
    Action (World σ) Http.Response := do
  s.requireSet set
  match q.method with
  | "GET" => s.replyCollection set params
  | "POST" => s.replyCreate set q
  -- these methods are known, and what is wrong is the path: a bad request
  | "PUT" | "PATCH" | "DELETE" =>
    let method := q.method
    refuse .badRequest s!"{method} requires an entity key" none
  | method => refuseMethod method path

/-- Answers a request for a record. -/
def replyRecord (s : Service σ) (set rawKey path : String) (params : Assoc String)
    (q : Http.Request) : Action (World σ) Http.Response := do
  s.requireSet set
  let key ← Action.ofRejection (EntityKey.parse rawKey)
  match q.method with
  | "GET" => s.replyEntity set key params q
  | "PUT" | "PATCH" => s.replyUpdate set key q
  | "DELETE" => s.replyDelete set key q
  | method => refuseMethod method path

/-- Answers a request for the number of records. -/
def replyNumber (s : Service σ) (set : String) (params : Assoc String) (q : Http.Request) :
    Action (World σ) Http.Response := do
  requireMethod q.method "GET"
  s.requireSet set
  s.replyCount set params

/-- Answers a request, batches by `batch`. -/
def route (s : Service σ) (batch : Responder σ) : Responder σ := fun q =>
  let path := if q.path = "" then "/" else q.path
  let params := Url.parseQuery q.query
  -- a preflight is answered before the path is looked at
  if q.method = "OPTIONS" && s.settings.crossOrigin then pure (.empty 204 [])
  else
    match Route.ofPath path with
    | .service => s.replyService q.method
    | .metadata => s.replyMetadata q.method
    | .batch => batch q
    | .count set => s.replyNumber set params q
    | .collection set => s.replySet set path params q
    | .entity set key => s.replyRecord set key path params q
    | .unknown => refuse .notFound s!"Invalid OData path: {path}" none

/-- The response to a failure. Failures of the service itself go to the log. -/
def answerFailure (s : Service σ) (q : Http.Request) (f : Failure) :
    StateM (World σ) Http.Response := do
  let e := f.toErrorBody s.settings.debug
  -- the exception itself, which goes to the log as well, is not modelled
  if 500 ≤ e.status then
    modify fun w => w.report .error .requests s!"{q.method} {q.path} failed"
  return .ofError e

/-- Answers a request, whatever goes wrong. -/
def answering (s : Service σ) (reply : Responder σ) (q : Http.Request) :
    StateM (World σ) Http.Response := do
  match ← (reply q).run with
  | .ok r => return r
  | .error f => s.answerFailure q f

/-- Answers one operation of a batch. -/
def handlePart (s : Service σ) : Batch.Dispatcher (World σ) :=
  s.answering (s.route fun _ => refuse .badRequest Batch.nestedMessage none)

/-- Answers a batch. -/
def replyBatch (s : Service σ) : Responder σ := fun q =>
  if !s.settings.batch then refuse .notImplemented "Batch requests are not enabled" none
  else if q.method ≠ "POST" then refuse .methodNotAllowed "$batch requires POST method" none
  else
    match Batch.boundaryOf? (q.header? "content-type") with
    | none => refuse .badRequest "Missing multipart boundary in Content-Type" none
    | some boundary => do
      let responses ← Batch.execute s.handlePart s.settings.basePath boundary q.body.toText
      let id ← Action.newId
      let boundary := Batch.responseBoundary id
      return {
        status := 200
        headers := [("Content-Type", Batch.responseType boundary)]
        body := Batch.render boundary (responses.map Http.Response.render) }

/-- Answers a request. -/
def handle (s : Service σ) (q : Http.Request) : StateM (World σ) Http.Response :=
  s.answering (s.route s.replyBatch) q

end ODataService.Service
