import ODataService.Action
import ODataService.Query.Basic
import ODataService.Schema.ObjectType

/-!
# Record stores

The operations that the service needs of a record store, whose state has the type `σ`. A record is
addressed by its entity set and its identifier. What a remote store answers need not be a record, so
records come as values; `none` says that there is nothing.
-/

namespace ODataService

/-- A record store. -/
structure Engine (σ : Type) where
  /-- The object types that are registered. -/
  registry : σ → Registry
  /-- The answer to a query on the type that a value names. -/
  find : Json → Query → Action (World σ) (List Json)
  /-- The record with an identifier. -/
  get : String → String → Action (World σ) (Option Json)
  /-- Adds a record and gives it back as it is stored. -/
  create : String → Record → Action (World σ) Json
  /-- Changes properties of a record; none when there is no such record. -/
  update : String → String → Record → Action (World σ) (Option Json)
  /-- Removes a record; false when there is no such record. -/
  delete : String → String → Action (World σ) Bool
  /-- The number of records that a query asks for, without its page. -/
  count : String → Query → Action (World σ) Int

namespace Engine

variable {σ : Type}

/-- Fails with the incident of an operation, if it has one, instead of running it. -/
def guarded {α : Type} (incidents : Assoc Incident) (operation : String)
    (a : Action (World σ) α) : Action (World σ) α :=
  match Assoc.get? incidents operation with
  | some i => Action.fail (.raised i)
  | none => a

/-- A record store some of whose operations always fail. -/
def failing (e : Engine σ) (incidents : Assoc Incident) : Engine σ where
  registry := e.registry
  find name q := guarded incidents "find" (e.find name q)
  get name id := guarded incidents "get" (e.get name id)
  create name data := guarded incidents "create" (e.create name data)
  update name id data := guarded incidents "update" (e.update name id data)
  delete name id := guarded incidents "delete" (e.delete name id)
  count name q := guarded incidents "count" (e.count name q)

end Engine

end ODataService
