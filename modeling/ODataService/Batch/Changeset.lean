import ODataService.Batch.Dispatch
import ODataService.Json.Reader

/-!
# Changesets

The operations of a changeset are answered one after the other, up to the first that fails. The
record store has no transactions: what was done before stays done, and what an undo would have to
do is only written to the log. A changeset that fails is answered by a single error response, which
repeats the error of the failing operation and says how far the changeset came.
-/

namespace ODataService.Batch

variable {σ : Type}

/-- A request that was answered, as an undo would need it. -/
structure Done where
  method : String
  url : String
deriving DecidableEq, Repr

/-- What an undo would have to do. -/
def Done.intent (d : Done) : String :=
  match d.method with
  | "POST" => "delete the created record"
  | "DELETE" => "restore the deleted record"
  | "PUT" => "restore the previous values"
  | "PATCH" => "restore the previous values"
  | "GET" => "nothing to undo"
  | _ => "unknown operation"

/-- The request of an operation, for the undo. -/
def Operation.done? : Operation → Option Done
  | .request r => some ⟨r.method, r.url⟩
  | .unreadable _ => none

/-- What the log says about an undo that is not done. -/
def Done.warning (d : Done) : String :=
  s!"changeset rollback not executed: {d.method} {d.url} -> would {d.intent}"

/-- Writes a warning to the log. -/
def warn (message : String) (w : World σ) : World σ := w.report .warning .batches message

/-- Writes what an undo would have to do to the log, the last request first. -/
def rollback (done : List Done) (w : World σ) : World σ :=
  done.reverse.foldl (fun w d => warn d.warning w) w

/-- What a changeset came to. -/
structure Outcome where
  responses : List Http.Response
  /-- The operations that were answered, a failing one included. -/
  completed : Nat
  /-- The operations that succeeded. -/
  succeeded : Nat
  total : Nat
  failed : Bool := false

/-- The error that the body of a response holds. -/
def bodyError? (body : String) : Option ErrorBody :=
  -- an empty body is read as a map without members
  match Json.parse (if body = "" then "\x7b\x7d" else body) with
  | .ok (.obj r) =>
    match Json.member r "error" with
    | .obj e => ErrorBody.ofRecord? e
    | _ => none
  | _ => none

/-- The error that stands for a status alone. -/
def statusError (r : Http.Response) : ErrorBody :=
  ⟨toString r.status, if r.reason = "" then "Request failed" else r.reason, none, none, none⟩

def causeOf (r : Http.Response) : ErrorBody :=
  (r.error.or (bodyError? r.body)).getD (statusError r)

/-- The counters of a changeset that failed. -/
def counters (completed succeeded total : Nat) : Record :=
  [("completedOperations", .int completed), ("succeededOperations", .int succeeded),
    ("totalOperations", .int total), ("rollbackAttempted", .bool true)]

/-- The error of a changeset that failed behind `succeeded` operations. -/
def changesetError (cause : ErrorBody) (succeeded total : Nat) : ErrorBody where
  code := cause.code
  message := s!"Changeset operation {succeeded + 1}/{total} failed: {cause.message}"
  details := some [⟨cause.code, cause.message, cause.target⟩]
  diagnostics := some (counters (succeeded + 1) succeeded total)

/-- Whether a response says that an operation failed. -/
def failed (r : Http.Response) : Bool := 400 ≤ r.status

/-- What the log says about a changeset that is given up. -/
def abortWarning (succeeded total status : Nat) : String :=
  s!"changeset aborted at operation {succeeded + 1}/{total} (status {status})"

/-- The outcome of a changeset one of whose operations failed. -/
def abortedOutcome (failing : Http.Response) (succeeded total : Nat) : Outcome where
  responses := [.ofErrorStatus failing.status (changesetError (causeOf failing) succeeded total)]
  completed := succeeded + 1
  succeeded := succeeded
  total := total
  failed := true

/-- The outcome of a changeset whose operations all succeeded. -/
def completedOutcome (responses : List Http.Response) : Outcome :=
  ⟨responses, responses.length, responses.length, responses.length, false⟩

/-- Answers the operations that are left of a changeset; `answered` holds those before, with their
responses. -/
def runOperations (dispatch : Dispatcher (World σ)) (base : String) (total : Nat) :
    (answered : List (Operation × Http.Response)) → List Operation → Action (World σ) Outcome
  | answered, [] => pure (completedOutcome (answered.map Prod.snd))
  | answered, o :: os => do
    let r ← answer dispatch base o
    if failed r then
      -- only the log tells what an undo would do
      modify (rollback (answered.filterMap (·.1.done?)))
      modify (warn (abortWarning answered.length total r.status))
      return abortedOutcome r answered.length total
    else runOperations dispatch base total (answered ++ [(o, r)]) os

def runChangeset (dispatch : Dispatcher (World σ)) (base : String) (operations : List Operation) :
    Action (World σ) Outcome :=
  runOperations dispatch base operations.length [] operations

end ODataService.Batch
