import ODataService.Proofs.Service.Parallel

/-!
# What failures of the database do not show

The message of a database driver may hold anything: paths, hosts, pieces of records. Outside of
debug mode none of it gets out. Let two record stores do the same, but for the messages of incidents
that are classified as failures of the database (`Engine.AlikeButMessages`). Then the services on
them answer every request with the same response, batches and their changesets included, and end in
the same state, the log included, as far as a log is kept here: its entries are level, channel and
text. The service that is described also hands the failure itself to its logger, which the entries
here leave out; so where the log is kept the message may be shown to those who operate the service.

The services run side by side, and whenever one fails with such an incident, the other one does so
as well (`SameButMessages`). Where a failure becomes a response they are equal from then on, since
both failures have the same error body. An operation of a batch is answered as a request, so what a
changeset repeats of it are the same responses on both sides.

Main result: `Service.handle_conceals`.
-/

namespace ODataService

open ODataService.Action

variable {σ α β : Type}

/-! ## Incidents of the database -/

namespace Incident

/-- The incident is a failure of the database: it carries an error code of a driver, and not the
name of one of the incidents that are classified before. -/
structure OfDatabase (i : Incident) : Prop where
  code : ∃ c, i.code = .str c ∧ Text.startsWith c "DB_" = true
  name : ∀ name ∈ ["ValidationError", "PermissionError", "AuthenticationError", "NotFoundError"],
    i.effectiveName ≠ .str name

/-- The incidents have the same kind, name, code and status. -/
def EqualButMessage (i j : Incident) : Prop := j = { i with message := j.message }

variable {i j : Incident}

/-- An incident with another message is still one of the database. -/
theorem EqualButMessage.ofDatabase (h : i.EqualButMessage j) (hi : i.OfDatabase) :
    j.OfDatabase := by
  rw [h]
  exact ⟨hi.code, hi.name⟩

/-- What a code of a driver is not. -/
theorem OfDatabase.isA_eq_false (h : i.OfDatabase) {name code : String}
    (hname : name ∈ ["ValidationError", "PermissionError", "AuthenticationError", "NotFoundError"])
    (hcode : Text.startsWith code "DB_" = false) : i.isA name code = false := by
  obtain ⟨c, hc, hdriver⟩ := h.code
  -- the code begins as those of drivers do, and the other one does not
  have hother : (c == code) = false := by
    rw [beq_eq_false_iff_ne]
    rintro rfl
    rw [hdriver] at hcode
    exact absurd hcode (by decide)
  have hkind := h.name name hname
  unfold isA
  rw [hc]
  cases hn : i.effectiveName with
  | str n =>
    have hne : (n == name) = false := by
      rw [beq_eq_false_iff_ne]
      rintro rfl
      exact hkind hn
    show (n == name || c == code) = false
    rw [hne, hother]
    rfl
  | _ => exact hother

/-- An incident of the database is treated as a failure of the database. -/
theorem OfDatabase.isDatabaseFailure (h : i.OfDatabase) : i.isDatabaseFailure = true := by
  obtain ⟨c, hc, hdriver⟩ := h.code
  unfold Incident.isDatabaseFailure
  rw [hc]
  -- the code decides, whatever the name is
  cases i.effectiveName with
  | str n =>
    show (n == "DatabaseError" || Text.startsWith c "DB_") = true
    rw [hdriver, Bool.or_true]
  | _ => exact hdriver

/-- A failure of the database is answered by a fixed text. -/
theorem OfDatabase.classify (h : i.OfDatabase) : i.classify =
    (.internalServerError, "An error occurred while processing your request") := by
  unfold Incident.classify
  rw [h.isA_eq_false (by decide) (by decide), h.isA_eq_false (by decide) (by decide),
    h.isA_eq_false (by decide) (by decide), h.isA_eq_false (by decide) (by decide),
    h.isDatabaseFailure]
  rfl

end Incident

/-- The failures are the same, or failures of the database that differ in their messages only. -/
def Failure.EqualButMessage (f g : Failure) : Prop :=
  f = g ∨ f.incident.OfDatabase ∧ f.incident.EqualButMessage g.incident

/-- Outside of debug mode a failure of the database has one error body. -/
theorem Failure.toErrorBody_ofDatabase {f : Failure} (h : f.incident.OfDatabase) :
    f.toErrorBody false = ErrorBody.ofCode .internalServerError
      "An error occurred while processing your request" := by
  have hincident : f.incident.toErrorBody false = ErrorBody.ofCode .internalServerError
      "An error occurred while processing your request" := by
    unfold Incident.toErrorBody
    rw [h.classify]
    rfl
  cases f with
  | rejected r =>
    -- a rejection carries no code
    obtain ⟨c, hc, -⟩ := h.code
    exact absurd hc (by simp [incident])
  | _ => exact hincident

/-- Failures that differ in their message have the same error body without details. -/
theorem Failure.EqualButMessage.toErrorBody {f g : Failure} (h : f.EqualButMessage g) :
    f.toErrorBody false = g.toErrorBody false := by
  rcases h with rfl | ⟨hf, hfg⟩
  · rfl
  · rw [toErrorBody_ofDatabase hf, toErrorBody_ofDatabase (hfg.ofDatabase hf)]

/-! ## Actions -/

/-- Equal results, or failures that are equal but for messages of the database. -/
def AlikeResults : Except Failure α → Except Failure α → Prop
  | .ok x, .ok y => x = y
  | .error f, .error g => f.EqualButMessage g
  | _, _ => False

/-- A result is like itself. -/
theorem AlikeResults.refl (x : Except Failure α) : AlikeResults x x := by
  cases x with
  | ok x => rfl
  | error f => exact .inl rfl

/-- The actions do the same in every state, but for messages of the database. -/
def SameButMessages : Pairing (World σ) := fun _ a b =>
  ∀ w, (a.exec w).2 = (b.exec w).2 ∧ AlikeResults (a.exec w).1 (b.exec w).1

theorem sameButMessages_refl (a : Action (World σ) α) : Paired SameButMessages a a :=
  fun _ => ⟨rfl, .refl _⟩

instance : Parallel (SameButMessages : Pairing (World σ)) where
  pure x := sameButMessages_refl (pure x)
  fail f := sameButMessages_refl (Action.fail f)
  look f := sameButMessages_refl (do return f (← get).store)
  report level channel message := sameButMessages_refl (Action.report level channel message)
  bind {_ _ a b f g} hab hfg w := by
    obtain ⟨hworld, hresult⟩ := hab w
    rw [exec_bind, exec_bind]
    rcases ha : a.exec w with ⟨d | x, w₁⟩ <;> rcases hb : b.exec w with ⟨e | y, w₂⟩ <;>
      rw [ha, hb] at hworld hresult
    · exact ⟨hworld, hresult⟩
    · exact hresult.elim
    · exact hresult.elim
    · -- both go on with the same result in the same state
      obtain rfl : w₁ = w₂ := hworld
      obtain rfl : x = y := hresult
      exact hfg x w₁

/-! ## Record stores -/

/-- The record stores do the same, but for messages of the database. -/
structure Engine.AlikeButMessages (e₁ e₂ : Engine σ) : Prop where
  registry : e₁.registry = e₂.registry
  find : ∀ name q, Paired SameButMessages (e₁.find name q) (e₂.find name q)
  get : ∀ set key, Paired SameButMessages (e₁.get set key) (e₂.get set key)
  create : ∀ name data, Paired SameButMessages (e₁.create name data) (e₂.create name data)
  update : ∀ set key data,
    Paired SameButMessages (e₁.update set key data) (e₂.update set key data)
  delete : ∀ set key, Paired SameButMessages (e₁.delete set key) (e₂.delete set key)
  count : ∀ name q, Paired SameButMessages (e₁.count name q) (e₂.count name q)

/-- Engines that are alike but for messages run beside each other. -/
theorem Engine.AlikeButMessages.alongside {e₁ e₂ : Engine σ} (h : e₁.AlikeButMessages e₂) :
    e₁.Alongside SameButMessages e₂ where
  registry := h.registry
  find := h.find
  count := h.count
  create := h.create
  get set key := (h.get set key).bind fun _ => sameButMessages_refl _
  update set key data := (h.update set key data).bind fun _ => sameButMessages_refl _
  removal set key := (h.delete set key).bind fun _ => sameButMessages_refl _

/-- Operations that fail with incidents of the database which differ in their messages only. -/
theorem Engine.failing_alikeButMessages (e : Engine σ) {incidents incidents' : Assoc Incident}
    (h : List.Forall₂ (fun a b => a.1 = b.1 ∧ a.2.OfDatabase ∧ a.2.EqualButMessage b.2) incidents
      incidents') : (e.failing incidents).AlikeButMessages (e.failing incidents') := by
  have hguarded {α : Type} (operation : String) (a : Action (World σ) α) :
      Paired SameButMessages (guarded incidents operation a) (guarded incidents' operation a) := by
    -- the first incident of this operation stands at the same place on both sides
    induction h with
    | nil => exact sameButMessages_refl a
    | @cons i j is js hij _ ih =>
      obtain ⟨hname, hdatabase, hsame⟩ := hij
      unfold guarded at ih ⊢
      rw [Assoc.get?, Assoc.get?, ← hname]
      by_cases hoperation : i.1 = operation
      · simp only [if_pos hoperation]
        exact fun w => ⟨rfl, Or.inr ⟨hdatabase, hsame⟩⟩
      · simp only [if_neg hoperation]
        exact ih
  exact {
    registry := rfl
    find := fun _ _ => hguarded "find" _
    get := fun _ _ => hguarded "get" _
    create := fun _ _ => hguarded "create" _
    update := fun _ _ _ => hguarded "update" _
    delete := fun _ _ => hguarded "delete" _
    count := fun _ _ => hguarded "count" _ }

/-! ## Requests -/

namespace Service

variable {settings : Settings} {e₁ e₂ : Engine σ}

/-- The service answers with the reply, or with the answer to its failure. -/
theorem run_answering (s : Service σ) (reply : Responder σ) (q : Http.Request) (w : World σ) :
    (s.answering reply q).run w =
      match (reply q).exec w with
      | (.ok r, w') => (r, w')
      | (.error f, w') => (s.answerFailure q f).run w' := by
  rcases h : (reply q).exec w with ⟨f | r, w'⟩
  · have hrun : StateT.run (ExceptT.run (reply q)) w = (.error f, w') := h
    rw [answering, StateT.run_bind, hrun]
    rfl
  · exact run_answering_ok h

/-- What is the same but for messages of the database is answered by the same response. -/
theorem answering_eq (hdebug : settings.debug = false) {reply₁ reply₂ : Responder σ}
    {q : Http.Request} (h : Paired SameButMessages (reply₁ q) (reply₂ q)) :
    answering ⟨settings, e₁⟩ reply₁ q = answering ⟨settings, e₂⟩ reply₂ q := by
  funext w
  obtain ⟨hworld, hresult⟩ := h w
  have h₁ := run_answering ⟨settings, e₁⟩ reply₁ q w
  have h₂ := run_answering ⟨settings, e₂⟩ reply₂ q w
  rcases ha : (reply₁ q).exec w with ⟨f | r, w₁⟩ <;>
    rcases hb : (reply₂ q).exec w with ⟨g | r', w₂⟩ <;>
    rw [ha, hb] at hworld hresult <;> rw [ha] at h₁ <;> rw [hb] at h₂
  · -- here the failures may differ for the last time, since their error bodies are the same
    obtain rfl : w₁ = w₂ := hworld
    have hbody : f.toErrorBody false = g.toErrorBody false :=
      Failure.EqualButMessage.toErrorBody hresult
    have hfailure : answerFailure ⟨settings, e₁⟩ q f = answerFailure ⟨settings, e₂⟩ q g := by
      unfold answerFailure
      simp only [hdebug, hbody]
    exact h₁.trans ((congrArg (fun m => StateT.run m w₁) hfailure).trans h₂.symm)
  · exact hresult.elim
  · exact hresult.elim
  · obtain rfl : w₁ = w₂ := hworld
    obtain rfl : r = r' := hresult
    exact h₁.trans h₂.symm

/-- Inside of a batch both services answer alike, so batches are answered alike. -/
theorem replyBatch_eq (hdebug : settings.debug = false) (h : e₁.AlikeButMessages e₂) :
    replyBatch ⟨settings, e₁⟩ = replyBatch ⟨settings, e₂⟩ := by
  -- already the parts are answered alike
  have hpart : handlePart ⟨settings, e₁⟩ = handlePart ⟨settings, e₂⟩ := by
    funext q
    exact answering_eq hdebug (route_paired h.alongside _ _ fun _ => .fail _)
  funext q
  unfold replyBatch
  rw [hpart]

/-- Outside of debug mode the message of a failure of the database does not show. Two record stores
that do the same, but for such messages, are behind services that do the same: they answer every
request, batches included, with the same status, headers and body, and go on in the same state. -/
theorem handle_conceals (settings : Settings) (hdebug : settings.debug = false)
    {e₁ e₂ : Engine σ} (h : e₁.AlikeButMessages e₂) (q : Http.Request) (w : World σ) :
    (handle ⟨settings, e₁⟩ q).run w = (handle ⟨settings, e₂⟩ q).run w := by
  have hroute : Paired SameButMessages (route ⟨settings, e₁⟩ (replyBatch ⟨settings, e₁⟩) q)
      (route ⟨settings, e₂⟩ (replyBatch ⟨settings, e₂⟩) q) :=
    route_paired h.alongside _ _ fun _ => by
      rw [replyBatch_eq hdebug h]
      exact sameButMessages_refl _
  rw [handle, handle, answering_eq hdebug hroute]

/-- What a driver complains about. -/
def complaint (message : String) : Incident :=
  { kind := "OperationalError", message := message, code := .str "DB_IO" }

/-- A record store whose driver complains whenever a record is read or removed. -/
def failingDriver (message : String) : Engine Store :=
  Store.engine.failing [("get", complaint message), ("delete", complaint message)]

/-- A batch with a changeset that removes a record. -/
def removals : Http.Request where
  method := "POST"
  path := "/$batch"
  headers := [("content-type", "multipart/mixed; boundary=b")]
  body := .text ("--b\r\nContent-Type: multipart/mixed; boundary=c\r\n\r\n" ++
    "--c\r\n\r\nDELETE A('1') HTTP/1.1\r\n\r\n--c--\r\n--b--")

/-- Where the driver complains about a host or about a file, a read fails, and so does a changeset,
but nobody can tell which of both it was. -/
theorem handle_conceals_driver :
    (handle ⟨{}, failingDriver "no route to db-7"⟩ removals).run (Store.oneRecord {}) =
        (handle ⟨{}, failingDriver "/srv/data: no such file"⟩ removals).run (Store.oneRecord {}) ∧
      ((handle ⟨{}, failingDriver "no route to db-7"⟩ ⟨"GET", "/A('1')", "", [], .none⟩).run
        (Store.oneRecord {})).1.status = 500 ∧
      (handle ⟨{}, failingDriver "no route to db-7"⟩ ⟨"GET", "/A('1')", "", [], .none⟩).run
          (Store.oneRecord {}) =
        (handle ⟨{}, failingDriver "/srv/data: no such file"⟩ ⟨"GET", "/A('1')", "", [], .none⟩).run
          (Store.oneRecord {}) := by
  have hdatabase (message : String) : (complaint message).OfDatabase :=
    ⟨⟨"DB_IO", rfl, by decide⟩,
      by simp [complaint, Incident.effectiveName, Json.orElse, Json.isVoid]⟩
  have hengines : (failingDriver "no route to db-7").AlikeButMessages
      (failingDriver "/srv/data: no such file") :=
    Engine.failing_alikeButMessages Store.engine
      (.cons ⟨rfl, hdatabase _, rfl⟩ (.cons ⟨rfl, hdatabase _, rfl⟩ .nil))
  exact ⟨handle_conceals {} rfl hengines _ _, by decide +kernel,
    handle_conceals {} rfl hengines _ _⟩

end Service

end ODataService
