import ODataService.Engine
import ODataService.EntityTag.Basic
import ODataService.EntityTag.Precondition
import ODataService.Expand.Resolution
import ODataService.Http.Message
import ODataService.Schema.Metadata
import ODataService.Settings

/-!
# The service

A service is a record store with settings. This module holds what the answers to different requests
have in common: the context that a body names, entity tags and the refusal of unknown names.
-/

namespace ODataService

/-- A service on a record store whose state has the type `σ`. -/
structure Service (σ : Type) where
  settings : Settings
  engine : Engine σ

namespace Service

variable {σ : Type}

/-- What answers a request or fails. -/
abbrev Responder (σ : Type) := Http.Request → Action (World σ) Http.Response

/-- The declarations of the object types. -/
def registry (s : Service σ) : Action (World σ) Registry := do
  let w ← get
  return s.engine.registry w.store

/-- Where related records come from. -/
def source (s : Service σ) (g : Registry) : Expand.Source (World σ) := ⟨g, s.engine.find⟩

/-- Refuses a request. -/
def refuse {α : Type} (code : ErrorCode) (message : String) (target : Option String) :
    Action (World σ) α :=
  Action.reject ⟨code, message, target, none⟩

/-- Refuses every method but one. -/
def requireMethod (method allowed : String) : Action (World σ) Unit :=
  if method = allowed then pure ()
  else refuse .methodNotAllowed s!"Method {method} not allowed" none

/-- Refuses an entity set that is not declared. -/
def requireSet (s : Service σ) (name : String) : Action (World σ) Unit := do
  let g ← s.registry
  match g.find? name with
  | some _ => pure ()
  | none => refuse .notFound s!"Entity set '{name}' not found" (some name)

def missing (set key : String) : Rejection :=
  ⟨.notFound, s!"Entity '{key}' not found in {set}", none, none⟩

/-- A value that must be there. -/
def present (set key : String) : Option Json → Action (World σ) Json
  | some v => pure v
  | none => Action.reject (missing set key)

def usable {α : Type} : Except ValueFault α → Action (World σ) α
  | .ok a => pure a
  | .error fault => Action.fail (.value fault)

/-- The name of the member that holds the context. -/
def contextName : String := "@odata.context"

/-- The name of the member that holds the number of records. -/
def countName : String := "@odata.count"

/-- The context of the records of an entity set. -/
def context (s : Service σ) (set : String) : String :=
  s!"{Schema.metadataUrl s.settings.basePath}#{set}"

/-- The body of a single record: its context, and then its members. What is no record may still have
members. -/
def entityBody (s : Service σ) (set : String) (v : Json) : Except ValueFault Json :=
  let context := Json.str (s.context set ++ "/$entity")
  v.asMembers.map fun ms => .obj (Keyed.merge [(contextName, context)] ms)

/-- What is wrong with a record that has no tag. -/
def tagFault : EntityTag.Fault → ValueFault
  | .infiniteTime => .infinite
  | .timeNotANumber => .notANumber

/-- The tag of a record. -/
def tagOf (v : Json) : Action (World σ) String := do
  let r ← usable v.asRecord
  usable ((EntityTag.ofRecord r).mapError tagFault)

/-- The tag of a record, where tags are switched on. -/
def tag? (s : Service σ) (v : Json) : Action (World σ) (Option String) :=
  if s.settings.entityTags then some <$> tagOf v else pure none

def tagHeader : Option String → Assoc String
  | some tag => [("ETag", tag)]
  | none => []

/-- The properties that an `$expand` option names, unless nothing is expanded at all. -/
def expandedProperties (s : Service σ) (expand : Option String) : Action (World σ) (List String) :=
  match Query.nonEmpty? expand with
  | none => pure []
  | some text => do
    if ← usable s.settings.expandDepth.isKept then
      let entries ← Action.ofRejection (Expand.parse text)
      return entries.map Expand.Entry.property
    else return []

/-- Embeds related records in values. -/
def embedRelated (s : Service σ) (set : String) (found : List Json) (text : String) :
    Action (World σ) (List Json) := do
  let g ← s.registry
  -- nothing to embed in, so the levels are not even looked at
  if found.isEmpty then return []
  let levels ← usable s.settings.expandDepth.levels
  Expand.resolve (s.source g) levels (.str set) found text

/-- Embeds related records in values if an `$expand` option asks for it. -/
def expandOption (s : Service σ) (set : String) (found : List Json) (expand : Option String) :
    Action (World σ) (List Json) :=
  match Query.nonEmpty? expand with
  | some text => s.embedRelated set found text
  | none => pure found

end Service

end ODataService
