import ODataService.Batch.Changeset
import ODataService.Batch.Multipart

/-!
# Running a batch

The responses of a batch stand in the order of its parts. Adjacent operations that only read form
one group: all of them are answered before the first failure among them counts.
-/

namespace ODataService.Batch

variable {σ : Type}

def answerEach (dispatch : Dispatcher (World σ)) (base : String) (group : List Operation) :
    StateM (World σ) (List (Except Failure Http.Response)) :=
  group.mapM fun o => (answer dispatch base o).run

/-- The responses of a group, or its first failure. -/
def gather : List (Except Failure Http.Response) → Except Failure (List Http.Response)
  | [] => .ok []
  | r :: rs => do
    let response ← r
    let responses ← gather rs
    return response :: responses

def runReads (dispatch : Dispatcher (World σ)) (base : String) (group : List Operation) :
    Action (World σ) (List Http.Response) := do
  let results ← (answerEach dispatch base group : StateM (World σ) _)
  match gather results with
  | .ok responses => pure responses
  | .error f => Action.fail f

/-- Answers a part that stands in no group. -/
def runPart (dispatch : Dispatcher (World σ)) (base : String) :
    Part → Action (World σ) (List Http.Response)
  | .single o => do
    let response ← answer dispatch base o
    return [response]
  | .changeset os => do
    let outcome ← runChangeset dispatch base os
    return outcome.responses

def Part.read? : Part → Option Operation
  | .single o => if o.isRead then some o else none
  | .changeset _ => none

/-- Answers parts; `group` holds the operations that only read just in front of them. -/
def runParts (dispatch : Dispatcher (World σ)) (base : String) :
    (group : List Operation) → List Part → Action (World σ) (List Http.Response)
  | group, [] => runReads dispatch base group
  | group, p :: ps =>
    match p.read? with
    | some o => runParts dispatch base (group ++ [o]) ps
    -- a part that may write ends the group in front of it
    | none => do
      let before ← runReads dispatch base group
      let here ← runPart dispatch base p
      let behind ← runParts dispatch base [] ps
      return before ++ here ++ behind

/-- Answers a batch with the given boundary. -/
def execute (dispatch : Dispatcher (World σ)) (base boundary body : String) :
    Action (World σ) (List Http.Response) := do
  let parts ← Action.ofRejection (parse boundary body)
  runParts dispatch base [] parts

end ODataService.Batch
