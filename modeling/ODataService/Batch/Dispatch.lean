import ODataService.Action
import ODataService.Batch.Part
import ODataService.Http.Message
import ODataService.Url.Target

/-!
# Answering one operation of a batch

An operation that could not be read is answered by its cause, a batch inside a batch is refused,
and every other request goes to the dispatcher, which answers requests that stand on their own.
-/

namespace ODataService.Batch

/-- What answers a request that stands on its own. -/
abbrev Dispatcher (ω : Type) := Http.Request → StateM ω Http.Response

variable {ω : Type}

/-- The path of batches, without slashes at its end. -/
def batchPath : String := "/$batch"

def isBatchPath (path : String) : Bool := Text.dropTrailing '/' path == batchPath

/-- The content of the error response to an unreadable or nested part. -/
def refusal (message : String) : ErrorBody := ErrorBody.ofCode .badRequest message

/-- What is said to a batch inside a batch. -/
def nestedMessage : String := "Nested $batch requests are not allowed"

/-- A request of a batch as a request on its own, with the target that its URL names. -/
def PartRequest.toRequest (r : PartRequest) (t : Url.Target) : Http.Request :=
  Http.Request.make r.method t.path t.query r.headers (.text r.body)

/-- Answers an operation; `base` is the base path of the service. A URL that cannot be read is a
failure. -/
def answer (dispatch : Dispatcher ω) (base : String) : Operation → Action ω Http.Response
  | .unreadable cause => pure (.ofError (refusal cause.message))
  | .request r =>
    match Url.Target.ofUrl base r.url with
    -- a failure of the whole batch, not an error response to this part
    | .error fault => Action.fail (.url fault)
    | .ok t =>
      if isBatchPath t.path then pure (.ofError (refusal nestedMessage))
      else (dispatch (r.toRequest t) : StateM ω Http.Response)

end ODataService.Batch
