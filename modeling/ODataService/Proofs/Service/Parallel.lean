import ODataService.Proofs.Expand.Chain
import ODataService.Proofs.Service.Routes

/-!
# Services side by side

Two services with the same settings and object types run the same steps, and what is different about
them is in the operations of their record stores. A `Pairing` is a relation between an action of one
and the same action of the other. If it goes through all ways in which actions are put together
(`Chains`) and holds of the operations, it holds of the answers to all requests that are no batches
(`Service.route_paired`).

Unlike the disciplines of `ODataService.Proofs.Action`, a pairing may say how a success differs from
a failure. So it need not hold of an operation by itself. Three operations of a record store stand
together with what the service makes of a missing record, because a store may say by a failure of
its own that a record is missing (`Engine.Alongside`).

A property of single actions is a pairing of each action with itself.
-/

namespace ODataService

namespace Action

variable {ω α β γ : Type}

/-- A relation between actions with results of one kind. -/
abbrev Pairing (ω : Type) := (α : Type) → Action ω α → Action ω α → Prop

/-- A pairing that goes through all ways in which actions are put together. -/
class Chains (R : Pairing ω) : Prop where
  pure : ∀ {α : Type} (x : α), R α (Pure.pure x) (Pure.pure x)
  fail : ∀ {α : Type} (f : Failure), R α (Action.fail f) (Action.fail f)
  bind : ∀ {α β : Type} {a b : Action ω α} {f g : α → Action ω β}, R α a b →
    (∀ x, R β (f x) (g x)) → R β (a >>= f) (b >>= g)

/-- The two actions are paired. -/
def Paired (R : Pairing ω) (a b : Action ω α) : Prop := R α a b

namespace Paired

variable {R : Pairing ω} [hR : Chains R]

theorem pure (x : α) : Paired R (Pure.pure x) (Pure.pure x) := hR.pure x

theorem fail (f : Failure) : Paired R (Action.fail f : Action ω α) (Action.fail f) := hR.fail f

/-- Steps that are paired one by one are paired as a whole. -/
theorem bind {a b : Action ω α} {f g : α → Action ω β} (h : Paired R a b)
    (hf : ∀ x, Paired R (f x) (g x)) : Paired R (a >>= f) (b >>= g) :=
  hR.bind h hf

/-- Two steps that are paired as a whole may stand in front of others. -/
theorem bind_bind {a b : Action ω α} {f g : α → Action ω β} {k l : β → Action ω γ}
    (h : Paired R (a >>= f) (b >>= g)) (hk : ∀ x, Paired R (k x) (l x)) :
    Paired R (a >>= fun x => f x >>= k) (b >>= fun x => g x >>= l) := by
  rw [← bind_assoc, ← bind_assoc]
  exact h.bind hk

/-- What has nothing to do with the state is paired with itself. -/
theorem apart {a : Action ω α} (h : Keeps Apart a) : Paired R a a := by
  obtain ⟨x, hx⟩ := h.apart
  -- in every state the action comes to the same result and leaves the state as it is
  cases x with
  | ok x =>
    have ha : a = Pure.pure x := ext_exec hx
    rw [ha]
    exact pure x
  | error f =>
    have ha : a = Action.fail f := ext_exec hx
    rw [ha]
    exact fail f

/-- Steps that hand a result from one to the next are paired if each pair of them is. -/
theorem foldlM {f g : β → α → Action ω β} (h : ∀ y x, Paired R (f y x) (g y x)) (xs : List α)
    (y : β) : Paired R (xs.foldlM f y) (xs.foldlM g y) := by
  induction xs generalizing y with
  | nil => exact pure y
  | cons x xs ih =>
    rw [List.foldlM_cons, List.foldlM_cons]
    exact (h y x).bind ih

/-- Likewise for steps without results. -/
theorem forM {f g : α → Action ω PUnit} (h : ∀ x, Paired R (f x) (g x)) (xs : List α) :
    Paired R (xs.forM f) (xs.forM g) := by
  induction xs with
  | nil => exact pure PUnit.unit
  | cons x xs ih => exact (h x).bind fun _ => ih

end Paired

end Action

open ODataService.Action

/-! ## Related records -/

namespace Expand

variable {ω : Type} {R : Pairing ω} [Chains R] {g : Registry}
  {find₁ find₂ : Json → Query → Action ω (List Json)}

/-- Embedding related records goes by the queries for them. -/
theorem resolve_paired (hfind : ∀ name q, Paired R (find₁ name q) (find₂ name q)) (levels : Nat)
    (entitySet : Json) (vs : List Json) (text : String) :
    Paired R (resolve ⟨g, find₁⟩ levels entitySet vs text)
      (resolve ⟨g, find₂⟩ levels entitySet vs text) := by
  induction levels generalizing entitySet vs text with
  | zero => exact .pure vs
  | succ levels ih =>
    -- only the queries differ, and what is nested is resolved on fewer levels
    have hrelated (target : Json) (keys : List Scalar) (e : Entry) :
        Paired R (related ⟨g, find₁⟩ levels (outcome ⟨g, find₁⟩ levels) target keys e)
          (related ⟨g, find₂⟩ levels (outcome ⟨g, find₂⟩ levels) target keys e) := by
      rw [related_eq, related_eq]
      refine .bind (.apart (.ofRejection _)) fun keep => .bind (.apart (.ofRejection _)) fun q =>
        .bind (hfind target q) fun found => .bind ?_ fun done => .apart (keeps_requireRecords done)
      unfold resolveNested
      split
      · exact .pure found
      · exact ih target found _
    have hentry (type : ObjectType) (vs : List Json) (e : Entry) :
        Paired R (resolveEntry ⟨g, find₁⟩ levels (outcome ⟨g, find₁⟩ levels) type vs e)
          (resolveEntry ⟨g, find₂⟩ levels (outcome ⟨g, find₂⟩ levels) type vs e) := by
      unfold resolveEntry
      split
      · exact .pure vs
      · split
        · unfold resolveRelationship
          refine .bind (.apart (keeps_requireRecords vs)) fun rows => ?_
          split
          · exact .pure vs
          · exact .bind (hrelated _ _ e) fun _ => .pure _
        · exact .pure vs
    rw [resolve_succ, resolve_succ]
    split
    · exact .pure vs
    · dsimp only
      split
      · exact .fail _
      · exact .pure vs
      · exact .foldlM (hentry _) _ vs

end Expand

/-! ## Requests -/

variable {σ : Type}

/-- A pairing that the steps of a service need. -/
class Parallel (R : Pairing (World σ)) : Prop extends Chains R where
  look : ∀ {α : Type} (f : σ → α), R α (do return f (← get).store) (do return f (← get).store)
  report : ∀ level channel message, R Unit (Action.report level channel message)
    (Action.report level channel message)

/-- What a service answers when a record has been removed or is missing. -/
def Engine.removal (e : Engine σ) (set key : String) : Action (World σ) Http.Response := do
  if ← e.delete set key then return .empty 204 []
  else Action.reject (Service.missing set key)

/-- The operations of two record stores are paired. A record that is looked for has to be there. -/
structure Engine.Alongside (R : Pairing (World σ)) (e₁ e₂ : Engine σ) : Prop where
  registry : e₁.registry = e₂.registry
  find : ∀ name q, Paired R (e₁.find name q) (e₂.find name q)
  count : ∀ name q, Paired R (e₁.count name q) (e₂.count name q)
  create : ∀ name data, Paired R (e₁.create name data) (e₂.create name data)
  get : ∀ set key, Paired R (e₁.get set key >>= Service.present set key)
    (e₂.get set key >>= Service.present set key)
  update : ∀ set key data, Paired R (e₁.update set key data >>= Service.present set key)
    (e₂.update set key data >>= Service.present set key)
  removal : ∀ set key, Paired R (e₁.removal set key) (e₂.removal set key)

namespace Service

variable {R : Pairing (World σ)} [hR : Parallel R] {settings : Settings} {e₁ e₂ : Engine σ}
  (he : e₁.Alongside R e₂)

include he

/-- Both services have the same registry. -/
theorem registry_paired :
    Paired R (registry ⟨settings, e₁⟩ : Action (World σ) Registry) (registry ⟨settings, e₂⟩) := by
  have hlook : Paired R (do return e₁.registry (← get).store : Action (World σ) Registry)
      (do return e₁.registry (← get).store) := hR.look e₁.registry
  unfold registry
  rw [← he.registry]
  exact hlook

/-- Both services have the same entity sets. -/
theorem requireSet_paired (set : String) :
    Paired R (requireSet ⟨settings, e₁⟩ set) (requireSet ⟨settings, e₂⟩ set) := by
  refine .bind (registry_paired he) fun g => ?_
  split
  · exact .pure _
  · exact .fail _

/-- Both services embed what their stores find. -/
theorem expandOption_paired (set : String) (found : List Json) (expand : Option String) :
    Paired R (expandOption ⟨settings, e₁⟩ set found expand)
      (expandOption ⟨settings, e₂⟩ set found expand) := by
  unfold expandOption
  split
  · refine .bind (registry_paired he) fun g => ?_
    split
    · exact .pure _
    · exact .bind (.apart (keeps_usable _)) fun levels =>
        Expand.resolve_paired he.find levels _ _ _
  · exact .pure _

/-- Answers with a record are paired. -/
theorem replyEntity_paired (set key : String) (params : Assoc String) (q : Http.Request) :
    Paired R (replyEntity ⟨settings, e₁⟩ set key params q)
      (replyEntity ⟨settings, e₂⟩ set key params q) := by
  -- reading the record and refusing a missing one are one step of the two services
  refine .bind (.apart (.ofRejection _)) fun o =>
    .bind (.apart (keeps_entityFields _ o)) fun fields =>
    .bind_bind (he.get set key) fun v => .bind (.apart (keeps_tag? _ v)) fun tag => ?_
  split
  · exact .pure _
  · exact .bind (expandOption_paired he _ _ _) fun _ => .bind (.apart (keeps_usable _)) fun _ =>
      .bind (.apart (keeps_usable _)) fun _ => .pure _

/-- Counts are paired. -/
theorem countMember_paired (set : String) (q : Query) (wanted : Bool) :
    Paired R (countMember ⟨settings, e₁⟩ set q wanted)
      (countMember ⟨settings, e₂⟩ set q wanted) := by
  unfold countMember
  split
  · exact .bind (he.count _ _) fun _ => .pure _
  · exact .pure _

/-- Answers with a collection are paired. -/
theorem replyCollection_paired (set : String) (params : Assoc String) :
    Paired R (replyCollection ⟨settings, e₁⟩ set params)
      (replyCollection ⟨settings, e₂⟩ set params) :=
  .bind (.apart (.ofRejection _)) fun o => .bind (.apart (keeps_collectionQuery _ o)) fun q =>
    .bind (he.find _ q) fun found => .bind (expandOption_paired he _ found _) fun _ =>
    .bind (countMember_paired he _ _ _) fun _ => .pure _

/-- Answers with a number are paired. -/
theorem replyNumber_paired (set : String) (params : Assoc String) (q : Http.Request) :
    Paired R (replyNumber ⟨settings, e₁⟩ set params q) (replyNumber ⟨settings, e₂⟩ set params q) :=
  .bind (.apart (keeps_requireMethod _ _)) fun _ => .bind (requireSet_paired he _) fun _ =>
    .bind (.apart (.ofRejection _)) fun _ => .bind (he.count _ _) fun _ => .pure _

/-- Conditions are paired, as they are tested on the record that is stored. -/
theorem checkCondition_paired (set key : String) (q : Http.Request) :
    Paired R (checkCondition ⟨settings, e₁⟩ set key q)
      (checkCondition ⟨settings, e₂⟩ set key q) := by
  have hsame : condition? ⟨settings, e₁⟩ q = condition? ⟨settings, e₂⟩ q := rfl
  unfold checkCondition
  rw [hsame]
  split
  · exact .pure _
  · exact .bind_bind (he.get set key) fun _ => .bind (.apart (keeps_tagOf _)) fun _ =>
      .apart (.ofRejection _)

/-- Answers to requests that add a record are paired. -/
theorem replyCreate_paired (set : String) (q : Http.Request) :
    Paired R (replyCreate ⟨settings, e₁⟩ set q) (replyCreate ⟨settings, e₂⟩ set q) :=
  .bind (.apart (.ofResult _)) fun _ => .bind (he.create set _) fun v =>
    .bind (.apart (keeps_tag? _ v)) fun _ => .bind (.apart (keeps_usable _)) fun _ =>
    .bind (.apart (keeps_usable _)) fun _ => .pure _

/-- Answers to requests that change a record are paired. -/
theorem replyUpdate_paired (set key : String) (q : Http.Request) :
    Paired R (replyUpdate ⟨settings, e₁⟩ set key q) (replyUpdate ⟨settings, e₂⟩ set key q) :=
  -- the record is looked for twice at most: for the condition, and to be changed
  .bind (.apart (.ofResult _)) fun data => .bind (checkCondition_paired he set key q) fun _ =>
    .bind_bind (he.update set key data) fun v => .bind (.apart (keeps_usable _)) fun _ =>
    .bind (.apart (keeps_tag? _ v)) fun _ => .pure _

/-- Answers to requests that remove a record are paired. -/
theorem replyDelete_paired (set key : String) (q : Http.Request) :
    Paired R (replyDelete ⟨settings, e₁⟩ set key q) (replyDelete ⟨settings, e₂⟩ set key q) :=
  .bind (checkCondition_paired he set key q) fun _ => he.removal set key

/-- Answers to requests for an entity set are paired. -/
theorem replySet_paired (set path : String) (params : Assoc String) (q : Http.Request) :
    Paired R (replySet ⟨settings, e₁⟩ set path params q)
      (replySet ⟨settings, e₂⟩ set path params q) := by
  refine .bind (requireSet_paired he set) fun _ => ?_
  split
  · exact replyCollection_paired he set params
  · exact replyCreate_paired he set q
  all_goals exact .fail _

/-- Answers to requests for a record are paired. -/
theorem replyRecord_paired (set rawKey path : String) (params : Assoc String) (q : Http.Request) :
    Paired R (replyRecord ⟨settings, e₁⟩ set rawKey path params q)
      (replyRecord ⟨settings, e₂⟩ set rawKey path params q) := by
  refine .bind (requireSet_paired he set) fun _ => .bind (.apart (.ofRejection _)) fun key => ?_
  split
  · exact replyEntity_paired he set key params q
  · exact replyUpdate_paired he set key q
  · exact replyUpdate_paired he set key q
  · exact replyDelete_paired he set key q
  · exact .fail _

/-- Service documents are paired. -/
theorem replyService_paired (method : String) :
    Paired R (replyService ⟨settings, e₁⟩ method) (replyService ⟨settings, e₂⟩ method) :=
  .bind (.apart (keeps_requireMethod _ _)) fun _ => .bind (registry_paired he) fun _ => .pure _

/-- Descriptions are paired. -/
theorem replyMetadata_paired (method : String) :
    Paired R (replyMetadata ⟨settings, e₁⟩ method) (replyMetadata ⟨settings, e₂⟩ method) :=
  .bind (.apart (keeps_requireMethod _ _)) fun _ => .bind (registry_paired he) fun _ =>
    .bind (.forM (fun _ => hR.report _ _ _) _) fun _ => .bind (.apart (keeps_usable _)) fun _ =>
    .pure _

/-- What is paired in the operations of two record stores is paired in all answers, if it is in the
answers to batches. -/
theorem route_paired (batch₁ batch₂ : Responder σ) {q : Http.Request}
    (hbatch : q.resource = .batch → Paired R (batch₁ q) (batch₂ q)) :
    Paired R (route ⟨settings, e₁⟩ batch₁ q) (route ⟨settings, e₂⟩ batch₂ q) := by
  unfold route
  dsimp only
  split
  · exact .pure _
  split
  -- one case for each kind of path
  · exact replyService_paired he _
  · exact replyMetadata_paired he _
  · next hbatch' => exact hbatch hbatch'
  · exact replyNumber_paired he _ _ q
  · exact replySet_paired he _ _ _ q
  · exact replyRecord_paired he _ _ _ _ q
  · exact .fail _

end Service

end ODataService
