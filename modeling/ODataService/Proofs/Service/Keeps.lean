import ODataService.Proofs.Action
import ODataService.Service.Handler

/-!
# What requests keep

A service reaches the state of its record store only through the operations of the store. So a
discipline that all operations keep, and that allows handing out identifiers and writing to the log,
is kept by every request, batches included (`Service.handle_keeps`). Requests that only read need no
more than the operations that read (`Service.route_reads_keep`).
-/

namespace ODataService

open ODataService.Action

variable {σ : Type}

/-- A discipline of worlds that allows looking at the store and writing to the log. -/
class Reporting (P : Property (World σ)) : Prop extends Discipline P where
  look : ∀ {α : Type} (f : σ → α), StateKeeps P (modifyGet fun w : World σ => (f w.store, w))
  report : ∀ level channel message,
    StateKeeps P (modify fun w : World σ => w.report level channel message)

/-- A discipline of worlds that allows handing out identifiers, too. -/
class Unobserving (P : Property (World σ)) : Prop extends Reporting P where
  issue : StateKeeps P (modifyGet World.issue : StateM (World σ) String)

/-- The operations that read keep a discipline. -/
structure Engine.ReadsKeep (e : Engine σ) (P : Property (World σ)) : Prop where
  find : ∀ name q, Keeps P (e.find name q)
  get : ∀ name id, Keeps P (e.get name id)
  count : ∀ name q, Keeps P (e.count name q)

/-- All operations keep a discipline. -/
structure Engine.AllKeep (e : Engine σ) (P : Property (World σ)) : Prop extends e.ReadsKeep P where
  create : ∀ name data, Keeps P (e.create name data)
  update : ∀ name id data, Keeps P (e.update name id data)
  delete : ∀ name id, Keeps P (e.delete name id)

variable {P : Property (World σ)}

/-- Looking at the store is allowed. -/
theorem keeps_look [hP : Reporting P] {α : Type} (f : σ → α) :
    Keeps P (do return f (← get).store : Action (World σ) α) :=
  hP.look fun store => Except.ok (f store)

/-- Writing to the log is allowed. -/
theorem keeps_report [hP : Reporting P] (level : Level) (channel : Channel) (message : String) :
    Keeps P (Action.report level channel message : Action (World σ) Unit) :=
  .lift (hP.report level channel message)

theorem keeps_newId [hP : Unobserving P] : Keeps P (newId : Action (World σ) String) :=
  .lift hP.issue

/-! ## Related records -/

namespace Expand

variable {ω : Type} {P : Property ω} [Discipline P] {source : Source ω}

/-- What an expansion has come to is handed on as it is. -/
theorem keeps_rowsOrFail (o : Outcome) : Keeps P (o.rowsOrFail : Action ω (List Json)) := by
  unfold Outcome.rowsOrFail
  split
  · exact .fail _
  · exact .pure _

/-- Checking that values are records touches no state. -/
theorem keeps_requireRecords (vs : List Json) :
    Keeps P (requireRecords vs : Action ω (List Record)) := by
  unfold requireRecords
  split
  · exact .pure _
  · exact .fail _

variable (hfind : ∀ name q, Keeps P (source.find name q))

include hfind

/-- Looking up the records of some keys asks the store once, and the rest is done by the resolver of
the level below. -/
theorem keeps_related {levels : Nat} {deeper : Resolver ω}
    (hdeeper : ∀ target vs text, StateKeeps P (deeper target vs text)) (target : Json)
    (keys : List Scalar) (e : Entry) : Keeps P (related source levels deeper target keys e) := by
  unfold related
  refine .bind (.ofRejection _) fun _ => .bind (.ofRejection _) fun _ =>
    .bind (hfind _ _) fun found => ?_
  -- what is nested in the entry goes to the level below
  split
  · exact keeps_requireRecords found
  · exact .bind (.lift (hdeeper _ _ _)) fun o =>
      .bind (keeps_rowsOrFail o) fun _ => keeps_requireRecords _

/-- An entry of an expansion looks up related records, or nothing at all. -/
theorem keeps_resolveEntry {levels : Nat} {deeper : Resolver ω}
    (hdeeper : ∀ target vs text, StateKeeps P (deeper target vs text)) (type : ObjectType)
    (vs : List Json) (e : Entry) : Keeps P (resolveEntry source levels deeper type vs e) := by
  unfold resolveEntry
  split
  -- the property is declared, or the entry is skipped
  · exact .pure _
  · split
    · unfold resolveRelationship
      refine .bind (keeps_requireRecords vs) fun rows => ?_
      split
      · exact .pure _
      · exact .bind (keeps_related hfind hdeeper _ _ e) fun _ => .pure _
    · exact .pure _

/-- The entries of an expansion are resolved one after the other, up to the first that fails. -/
theorem keeps_resolveEntries {levels : Nat} {deeper : Resolver ω}
    (hdeeper : ∀ target vs text, StateKeeps P (deeper target vs text)) (type : ObjectType)
    (es : List Entry) (vs : List Json) :
    StateKeeps P (resolveEntries source levels deeper type es vs) := by
  induction es generalizing vs with
  | nil => exact .pure _
  | cons e es ih =>
    rw [resolveEntries]
    refine .bind (.run (keeps_resolveEntry hfind hdeeper type vs e)) fun x => ?_
    cases x with
    | ok vs => exact ih vs
    | error f => exact .pure _

/-- Embedding related records keeps what looking them up keeps, at every depth. -/
theorem keeps_outcome (levels : Nat) (entitySet : Json) (vs : List Json) (text : String) :
    StateKeeps P (outcome source levels entitySet vs text) := by
  induction levels generalizing entitySet vs text with
  -- the depth bounds how often records are looked up for records
  | zero => exact .pure _
  | succ levels ih =>
    rw [outcome]
    split
    · exact .pure _
    split
    · exact .pure _
    split
    · exact .pure _
    · exact .pure _
    -- only a text with entries on a declared type gets to the store
    · exact keeps_resolveEntries hfind ih _ _ _

/-- Likewise where a failure of the expansion is a failure of the action. -/
theorem keeps_resolve (levels : Nat) (entitySet : Json) (vs : List Json) (text : String) :
    Keeps P (resolve source levels entitySet vs text) :=
  .bind (.lift (keeps_outcome hfind levels entitySet vs text)) fun o => keeps_rowsOrFail o

end Expand

/-! ## Requests on their own -/

namespace Service

section apart

/-! ### What needs no store -/

variable [Discipline P] (s : Service σ)

/-- Checking the kind of a value touches no state. -/
theorem keeps_usable {α : Type} (x : Except ValueFault α) :
    Keeps P (usable x : Action (World σ) α) := by
  cases x with
  | ok a => exact .pure a
  | error fault => exact .fail (.value fault)

/-- A refusal touches no state. -/
theorem keeps_refuse {α : Type} (code : ErrorCode) (message : String) (target : Option String) :
    Keeps P (refuse code message target : Action (World σ) α) :=
  .fail _

/-- Checking the method touches no state. -/
theorem keeps_requireMethod (method allowed : String) :
    Keeps P (requireMethod method allowed : Action (World σ) Unit) := by
  unfold requireMethod
  split
  · exact .pure _
  · exact keeps_refuse _ _ _

/-- Checking that a record was found touches no state. -/
theorem keeps_present (set key : String) (v : Option Json) :
    Keeps P (present set key v : Action (World σ) Json) := by
  cases v with
  | some v => exact .pure v
  | none => exact .fail _

theorem keeps_tagOf (v : Json) : Keeps P (tagOf v : Action (World σ) String) :=
  .bind (keeps_usable _) fun _ => keeps_usable _

/-- Likewise where tags may be switched off. -/
theorem keeps_tag? (v : Json) : Keeps P (s.tag? v) := by
  unfold tag?
  split
  · exact .map (keeps_tagOf v) _
  · exact .pure _

/-- The properties to be expanded are read from the options alone. -/
theorem keeps_expandedProperties (expand : Option String) :
    Keeps P (s.expandedProperties expand) := by
  unfold expandedProperties
  split
  · exact .pure _
  · refine .bind (keeps_usable _) fun kept => ?_
    split
    · exact .bind (.ofRejection _) fun _ => .pure _
    · exact .pure _

/-- So is the projection of a single record. -/
theorem keeps_entityFields (o : SystemOptions) : Keeps P (s.entityFields o) := by
  unfold entityFields
  split
  · exact .pure _
  · exact .bind (.ofRejection _) fun _ =>
      .bind (keeps_expandedProperties s _) fun _ => .pure _

/-- So is the query for a collection. -/
theorem keeps_collectionQuery (o : SystemOptions) : Keeps P (s.collectionQuery o) :=
  .bind (.ofRejection _) fun _ =>
    .bind (keeps_expandedProperties s _) fun _ => .pure _

end apart

section reads

variable [Reporting P] (s : Service σ)

theorem keeps_registry : Keeps P s.registry :=
  keeps_look s.engine.registry

/-- Checking that an entity set is declared is a look at the registry. -/
theorem keeps_requireSet (name : String) : Keeps P (s.requireSet name) := by
  refine .bind (keeps_registry s) fun g => ?_
  split
  · exact .pure _
  · exact keeps_refuse _ _ _

/-- The service document is made from the registry. -/
theorem replyService_keeps (method : String) : Keeps P (s.replyService method) :=
  .bind (keeps_requireMethod _ _) fun _ =>
    .bind (keeps_registry s) fun _ => .pure _

/-- The description is made from the registry, and unknown types go to the log. -/
theorem replyMetadata_keeps (method : String) : Keeps P (s.replyMetadata method) :=
  .bind (keeps_requireMethod _ _) fun _ =>
    .bind (keeps_registry s) fun _ =>
      .bind (.forM (fun _ => keeps_report _ _ _) _) fun _ =>
        .bind (keeps_usable _) fun _ => .pure _

/-- A failure becomes a response, and one of the service goes to the log as well. -/
theorem keeps_answerFailure (q : Http.Request) (f : Failure) :
    StateKeeps P (s.answerFailure q f) := by
  unfold answerFailure
  dsimp only
  split
  · exact .bind (Reporting.report _ _ _) fun _ => .pure _
  · exact .pure _

/-- What a responder keeps, it keeps when its failures are answered, too. -/
theorem keeps_answering {reply : Responder σ} {q : Http.Request} (hreply : Keeps P (reply q)) :
    StateKeeps P (s.answering reply q) := by
  refine .bind (.run hreply) fun x => ?_
  cases x with
  | ok r => exact .pure r
  | error f => exact keeps_answerFailure s q f

variable (he : s.engine.ReadsKeep P)

include he

/-- Related records are found by the operation that finds. -/
theorem keeps_expandOption (set : String) (found : List Json) (expand : Option String) :
    Keeps P (s.expandOption set found expand) := by
  unfold expandOption
  split
  · refine .bind (keeps_registry s) fun g => ?_
    split
    · exact .pure _
    · exact .bind (keeps_usable _) fun levels =>
        Expand.keeps_resolve he.find levels _ _ _
  · exact .pure _

/-- Answering with a record gets it, and finds what is related to it. -/
theorem replyEntity_keeps (set key : String) (params : Assoc String) (q : Http.Request) :
    Keeps P (s.replyEntity set key params q) := by
  refine .bind (.ofRejection _) fun o =>
    .bind (keeps_entityFields s o) fun fields =>
    .bind (he.get set key) fun stored =>
    .bind (keeps_present set key stored) fun v =>
    .bind (keeps_tag? s v) fun tag => ?_
  -- a client that has the version already gets no record
  split
  · exact .pure _
  · exact .bind (keeps_expandOption s he _ _ _) fun _ =>
      .bind (keeps_usable _) fun _ =>
      .bind (keeps_usable _) fun _ => .pure _

/-- Answering with a collection finds its records, those related to them, and may count. -/
theorem replyCollection_keeps (set : String) (params : Assoc String) :
    Keeps P (s.replyCollection set params) := by
  refine .bind (.ofRejection _) fun o =>
    .bind (keeps_collectionQuery s o) fun q =>
    .bind (he.find _ q) fun found =>
    .bind (keeps_expandOption s he _ found _) fun rows =>
    .bind ?_ fun _ => .pure _
  unfold countMember
  split
  · exact .bind (he.count _ _) fun _ => .pure _
  · exact .pure _

/-- Answering with a number counts. -/
theorem replyNumber_keeps (set : String) (params : Assoc String) (q : Http.Request) :
    Keeps P (s.replyNumber set params q) :=
  .bind (keeps_requireMethod _ _) fun _ =>
    .bind (keeps_requireSet s _) fun _ =>
      .bind (.ofRejection _) fun _ =>
        .bind (he.count _ _) fun _ => .pure _

/-- A condition is tested on the record that is stored, so it gets that record. -/
theorem keeps_checkCondition (set key : String) (q : Http.Request) :
    Keeps P (s.checkCondition set key q) := by
  unfold checkCondition
  split
  · exact .pure _
  · exact .bind (he.get set key) fun _ =>
      .bind (keeps_present _ _ _) fun _ =>
      .bind (keeps_tagOf _) fun _ => .ofRejection _

end reads

section writes

variable [Unobserving P] (s : Service σ) (he : s.engine.AllKeep P)

include he

/-- Adding a record is one creation. -/
theorem replyCreate_keeps (set : String) (q : Http.Request) : Keeps P (s.replyCreate set q) :=
  .bind (.ofResult _) fun _ => .bind (he.create set _) fun _ => .bind (keeps_tag? s _) fun _ =>
    .bind (keeps_usable _) fun _ => .bind (keeps_usable _) fun _ => .pure _

/-- Changing a record is a look at it, when there is a condition, and one update. -/
theorem replyUpdate_keeps (set key : String) (q : Http.Request) :
    Keeps P (s.replyUpdate set key q) :=
  .bind (.ofResult _) fun _ => .bind (keeps_checkCondition s he.toReadsKeep set key q) fun _ =>
    .bind (he.update set key _) fun _ => .bind (keeps_present set key _) fun _ =>
    .bind (keeps_usable _) fun _ => .bind (keeps_tag? s _) fun _ => .pure _

/-- Removing a record is a look at it, when there is a condition, and one deletion. -/
theorem replyDelete_keeps (set key : String) (q : Http.Request) :
    Keeps P (s.replyDelete set key q) := by
  refine .bind (keeps_checkCondition s he.toReadsKeep set key q) fun _ =>
    .bind (he.delete set key) fun removed => ?_
  split
  · exact .pure _
  · exact .fail _

/-- Requests for an entity set read it or add to it. -/
theorem replySet_keeps (set path : String) (params : Assoc String) (q : Http.Request) :
    Keeps P (s.replySet set path params q) := by
  refine .bind (keeps_requireSet s set) fun _ => ?_
  split
  · exact replyCollection_keeps s he.toReadsKeep set params
  · exact replyCreate_keeps s he set q
  -- the other methods need a key or are not allowed
  all_goals exact keeps_refuse _ _ _

/-- Requests for a record read, change or remove it. -/
theorem replyRecord_keeps (set rawKey path : String) (params : Assoc String) (q : Http.Request) :
    Keeps P (s.replyRecord set rawKey path params q) := by
  refine .bind (keeps_requireSet s set) fun _ => .bind (.ofRejection _) fun key => ?_
  split
  · exact replyEntity_keeps s he.toReadsKeep set key params q
  · exact replyUpdate_keeps s he set key q
  · exact replyUpdate_keeps s he set key q
  · exact replyDelete_keeps s he set key q
  · exact keeps_refuse _ _ _

/-- Whatever the path is, the request is one of the above, or a batch. -/
theorem route_keeps {batch : Responder σ} (hbatch : ∀ q, Keeps P (batch q)) (q : Http.Request) :
    Keeps P (s.route batch q) := by
  unfold route
  dsimp only
  split
  · exact .pure _
  split
  -- one case for each kind of path
  · exact replyService_keeps s _
  · exact replyMetadata_keeps s _
  · exact hbatch q
  · exact replyNumber_keeps s he.toReadsKeep _ _ q
  · exact replySet_keeps s he _ _ _ q
  · exact replyRecord_keeps s he _ _ _ _ q
  · exact keeps_refuse _ _ _

end writes

end Service

/-! ## Batches -/

namespace Batch

variable [hP : Reporting P] {dispatch : Dispatcher (World σ)}
  (hd : ∀ q, StateKeeps P (dispatch q))

include hd

/-- An operation of a batch is answered without asking for a dispatch, or by one dispatch. -/
theorem keeps_answer (base : String) (o : Operation) : Keeps P (answer dispatch base o) := by
  unfold answer
  split
  · exact .pure _
  · split
    · exact .fail _
    · split
      · exact .pure _
      · exact .lift (hd _)

/-- Reads that stand one behind the other are dispatched one by one. -/
theorem keeps_runReads (base : String) (group : List Operation) :
    Keeps P (runReads dispatch base group) := by
  refine .bind (.lift (.mapM (fun o => .run (keeps_answer hd base o)) group)) fun results => ?_
  split
  · exact .pure _
  · exact .fail _

omit hd in
/-- Undoing a changeset does no more than write warnings. -/
theorem keeps_rollback (done : List Done) :
    StateKeeps P (modify (rollback done) : StateM (World σ) Unit) := by
  -- the warnings of a rollback come one after the other
  have hfold : ∀ ds : List Done, StateKeeps P
      (modify fun w => ds.foldl (fun w d => warn d.warning w) w : StateM (World σ) Unit) := by
    intro ds
    induction ds with
    | nil => exact .pure ()
    | cons d ds ih => exact .bind (hP.report .warning .batches d.warning) fun _ => ih
  exact hfold done.reverse

/-- The operations of a changeset are dispatched up to the first that fails. -/
theorem keeps_runOperations (base : String) (total : Nat)
    (answered : List (Operation × Http.Response)) (os : List Operation) :
    Keeps P (runOperations dispatch base total answered os) := by
  induction os generalizing answered with
  | nil => exact .pure _
  | cons o os ih =>
    rw [runOperations]
    refine .bind (keeps_answer hd base o) fun r => ?_
    -- an operation that fails ends the changeset with warnings
    split
    · exact .bind (.lift (keeps_rollback _)) fun _ =>
        .bind (.lift (hP.report _ _ _)) fun _ => .pure _
    · exact ih _

/-- A part of a batch is an operation or a changeset. -/
theorem keeps_runPart (base : String) (p : Part) : Keeps P (runPart dispatch base p) := by
  cases p with
  | single o => exact .bind (keeps_answer hd base o) fun _ => .pure _
  | changeset os => exact .bind (keeps_runOperations hd base _ _ os) fun _ => .pure _

/-- Parts are run one after the other, where a read waits for the reads behind it. -/
theorem keeps_runParts (base : String) (group : List Operation) (ps : List Part) :
    Keeps P (runParts dispatch base group ps) := by
  induction ps generalizing group with
  | nil => exact keeps_runReads hd base group
  | cons p ps ih =>
    rw [runParts]
    -- a read joins the group, and anything else first runs the group
    split
    · exact ih _
    · exact .bind (keeps_runReads hd base group) fun _ =>
        .bind (keeps_runPart hd base p) fun _ => .bind (ih _) fun _ => .pure _

end Batch

/-! ## All requests -/

namespace Service

variable [Unobserving P] (s : Service σ) (he : s.engine.AllKeep P)

include he

/-- A batch is refused, or its parts are run and an identifier is handed out as boundary. -/
theorem keeps_replyBatch (q : Http.Request) : Keeps P (s.replyBatch q) := by
  unfold replyBatch
  split
  · exact keeps_refuse _ _ _
  split
  · exact keeps_refuse _ _ _
  split
  · exact keeps_refuse _ _ _
  · -- the parts of a batch are requests themselves, and a batch inside of a batch is refused
    have hpart : ∀ q, StateKeeps P (s.handlePart q) := fun q =>
      keeps_answering s (route_keeps s he (fun _ => keeps_refuse _ _ _) q)
    exact .bind (.bind (.ofRejection _) fun _ => Batch.keeps_runParts hpart _ _ _) fun _ =>
      .bind keeps_newId fun _ => .pure _

/-- What all operations of the record store keep, every request keeps. -/
theorem handle_keeps (q : Http.Request) : StateKeeps P (s.handle q) :=
  keeps_answering s (route_keeps s he (keeps_replyBatch s he) q)

end Service

end ODataService
