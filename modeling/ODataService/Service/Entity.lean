import ODataService.Query.Reading
import ODataService.Query.Values
import ODataService.Service.Basic
import ODataService.Service.Content

/-!
# Answers about single records

Reading, adding, changing and removing a record. Reading can be made to depend on the tag of the
record by `If-None-Match`, changing and removing by `If-Match`.
-/

namespace ODataService.Service

variable {σ : Type}

/-- The projection that options ask for. -/
def entityFields (s : Service σ) (o : SystemOptions) : Action (World σ) (Option (List String)) :=
  match o.select with
  | none => pure none
  | some raw => do
    let fields ← Action.ofRejection (Query.parseSelect raw)
    -- expanded properties are part of every projection
    let expanded ← s.expandedProperties o.expand
    return Query.includeFields fields expanded

/-- Whether a client has the version of a record with the given tag already. -/
def isKnown (tag : Option String) (ifNoneMatch : Option String) : Bool :=
  match tag with
  | some tag => EntityTag.isNotModified tag ifNoneMatch
  | none => false

/-- Answers with a record. -/
def replyEntity (s : Service σ) (set key : String) (params : Assoc String) (q : Http.Request) :
    Action (World σ) Http.Response := do
  let o ← Action.ofRejection (SystemOptions.parse params)
  let fields ← s.entityFields o
  let stored ← s.engine.get set key
  let v ← present set key stored
  -- the tag is that of the stored record, before anything is expanded or projected
  let tag ← s.tag? v
  if isKnown tag (q.header? "if-none-match") then return .empty 304 (tagHeader tag)
  else do
    let expanded ← s.expandOption set [v] o.expand
    let projected ← usable (Query.projectValue fields (expanded.headD v))
    let body ← usable (s.entityBody set projected)
    return .json 200 body (tagHeader tag)

/-- The value under which a record is found again: its `_id`, or its `id` when it has no `_id`. -/
def identifierOf (r : Record) : Json :=
  -- an `_id` that is null counts as one
  (Keyed.get? r Query.idField).getD (Json.member r "id")

def locationHeader (s : Service σ) (set : String) (r : Record) : Assoc String :=
  match identifierOf r with
  | .null => []
  | id =>
    let shown := id.display
    [("Location", s!"{s.settings.basePath}/{set}('{shown}')")]

/-- Adds the record in the body of a request. -/
def replyCreate (s : Service σ) (set : String) (q : Http.Request) :
    Action (World σ) Http.Response := do
  let data ← Action.ofResult (Content.readRecord q.body.toText)
  let created ← s.engine.create set data
  let tag ← s.tag? created
  let r ← usable created.asRecord
  let body ← usable (s.entityBody set created)
  return .json 201 body (tagHeader tag ++ s.locationHeader set r)

/-- The `If-Match` header of a request, where tags are switched on; an empty one is no condition. -/
def condition? (s : Service σ) (q : Http.Request) : Option String :=
  if s.settings.entityTags then (q.header? "if-match").filter (· != "") else none

/-- Refuses a request whose condition the record does not meet. -/
def checkCondition (s : Service σ) (set key : String) (q : Http.Request) :
    Action (World σ) Unit :=
  match s.condition? q with
  | none => pure ()
  | some ifMatch => do
    let stored ← s.engine.get set key
    let v ← present set key stored
    let tag ← tagOf v
    Action.ofRejection (EntityTag.require tag (some ifMatch))

/-- Changes properties of a record to those in the body of a request. -/
def replyUpdate (s : Service σ) (set key : String) (q : Http.Request) :
    Action (World σ) Http.Response := do
  let data ← Action.ofResult (Content.readRecord q.body.toText)
  -- nothing keeps the record from changing between the check and the update
  s.checkCondition set key q
  let stored ← s.engine.update set key data
  let updated ← present set key stored
  let body ← usable (s.entityBody set updated)
  let tag ← s.tag? updated
  return .json 200 body (tagHeader tag)

/-- Removes a record. -/
def replyDelete (s : Service σ) (set key : String) (q : Http.Request) :
    Action (World σ) Http.Response := do
  s.checkCondition set key q
  if ← s.engine.delete set key then return .empty 204 []
  else Action.reject (missing set key)

end ODataService.Service
