import ODataService.Proofs.Action
import ODataService.Proofs.Json.RoundTrip
import ODataService.Remote.Client

/-!
# Conversations with a remote record store

What passes between the service and a remote record store while an action runs: the requests that
were answered, each with its answer, and one that may have been left without (`Talk`). An action
heeds the answers if it succeeds with good answers only, and if it says that a record was not found
whenever a request for one record was answered with status 404 (`Heeds`).

Single operations do not all heed the answers by themselves. A request for one record may be
answered with status 404, which the client turns into a result. So what is made of this result
belongs to the operation (`heeds_forOne`).
-/

namespace ODataService.Remote

open ODataService.Action

variable {α β : Type} {w w' w'' : World Client}

/-! ## Answers -/

/-- The answer is an error: by its status, because it is no JSON, or because it is an object that
reports an error. -/
def Answer.Fails (a : Answer) : Prop :=
  400 ≤ a.status ∨ (∀ v, Json.parse a.body ≠ .ok v) ∨
    ∃ r e, Json.parse a.body = .ok (.obj r) ∧ Keyed.get? r "error" = some (.obj e)

/-- An answer reports an error when it has a member for it. -/
theorem reportedError?_eq_some {v : Json} {e : Record} :
    reportedError? v = some e ↔ ∃ r, v = .obj r ∧ Keyed.get? r "error" = some (.obj e) := by
  cases v with
  | obj r =>
    have hmember : Json.member r "error" = (Keyed.get? r "error").getD .null := rfl
    simp only [reportedError?, hmember, Json.obj.injEq, exists_eq_left']
    rcases Keyed.get? r "error" with _ | v
    · simp
    · cases v <;> simp
  | _ => simp [reportedError?]

/-- What succeeds is no error. -/
theorem Answer.not_fails {a : Answer} {url : String} {v : Json} (h : a.value url = .ok v) :
    ¬ a.Fails := by
  -- an answer has a value when its status, its text and its members are in order
  unfold value at h
  split at h
  · exact absurd h (by simp)
  · next hstatus =>
    split at h
    · exact absurd h (by simp)
    · next v' hparse =>
      split at h
      · exact absurd h (by simp)
      · next hnone =>
        -- each way to fail contradicts one of the tests passed
        rintro (hfails | hfails | ⟨r, e, hr, he⟩)
        · exact hstatus hfails
        · exact hfails v' hparse
        · rw [hparse] at hr
          rw [reportedError?_eq_some.2 ⟨r, Except.ok.inj hr, he⟩] at hnone
          exact absurd hnone (by simp)

/-- The status of the error is that of the answer, or else 502. -/
theorem Answer.status_eq {a : Answer} {url : String} {e : RemoteError}
    (h : a.value url = .error e) : e.status = 404 ↔ a.status = 404 := by
  unfold value at h
  split at h
  · rw [← Except.error.inj h]
  · next hstatus =>
    -- from here on the error has the status 502
    have hother : ¬ a.status = 404 := by omega
    split at h
    · rw [← Except.error.inj h]
      simp [hother]
    · split at h
      · rw [← Except.error.inj h]
        simp [hother]
      · exact absurd h (by simp)

/-! ## Requests -/

/-- What the client sends to have an operation done. -/
def operationCall (operation : String) (name args : Json) : Json :=
  .obj [("op", .str operation), ("object", name), ("args", args)]

/-- The request asks for an operation. -/
def Sent.Asks (s : Sent) (operation : String) : Prop :=
  ∃ name args, s.body = some (operationCall operation name args).compact

/-- The operations on one record that is there. -/
def forOne : List String := ["findOne", "update", "delete"]

/-- The request asks for one record, to be read, changed or removed. -/
def Sent.AsksForOne (s : Sent) : Prop := ∃ operation ∈ forOne, s.Asks operation

/-- The text of a call starts with its operation. -/
theorem operation_eq {operation operation' : String} {name name' args args' : Json}
    (h : (operationCall operation name args).compact =
      (operationCall operation' name' args').compact) : operation = operation' := by
  -- the operation is the first member of what is sent
  have htext (operation : String) (name args : Json) :
      ∃ rest, (operationCall operation name args).compact.toList =
        '{' :: ((Json.writeString "op").toList ++ (":".toList ++
          ((Json.writeString operation).toList ++ rest))) := by
    have hmembers : (operationCall operation name args).compact.toList =
        '{' :: ((Json.writeMembers .compact "" (Keyed.ofAssoc
          [("op", .str operation), ("object", name), ("args", args)])).toList ++ ['}']) :=
      Json.toList_write_obj .compact _
    have hvalue : Json.write .compact (.str operation) = Json.writeString operation := by
      rw [Json.write, Json.writeScalar]
    rw [hmembers, Json.writeMembers_cons, Json.memberText, hvalue]
    simp only [String.toList_empty, List.nil_append, List.append_assoc]
    exact ⟨_, rfl⟩
  -- behind the name of the first member comes the operation, as a string that is read back
  obtain ⟨rest, hrest⟩ := htext operation name args
  obtain ⟨rest', hrest'⟩ := htext operation' name' args'
  rw [h, hrest'] at hrest
  have hbehind := List.append_cancel_left (List.append_cancel_left (List.cons.inj hrest).2)
  exact (Json.writeString_append_inj hbehind).1.symm

/-- Another operation than those for one record asks for none. -/
theorem not_asksForOne {s : Sent} {operation : String} (hs : s.Asks operation)
    (h : operation ∉ forOne) : ¬ s.AsksForOne := by
  rintro ⟨operation', hmem, name', args', hbody'⟩
  obtain ⟨name, args, hbody⟩ := hs
  rw [hbody] at hbody'
  rw [operation_eq (Option.some.inj hbody')] at h
  exact h hmem

/-! ## Conversations -/

/-- From one state to another the requests in `asked` were sent and answered, and after them those
in `unanswered` were sent. -/
structure Talk (w w' : World Client) (asked : List (Sent × Answer)) (unanswered : List Sent) :
    Prop where
  sent : w'.store.connection.sent =
    w.store.connection.sent ++ asked.map Prod.fst ++ unanswered
  answers : w.store.connection.answers = asked.map Prod.snd ++ w'.store.connection.answers

theorem Talk.none (h : w'.store.connection = w.store.connection) : Talk w w' [] [] :=
  ⟨by simp [h], by simp [h]⟩

/-- Conversations in a row are one. -/
theorem Talk.trans {asked asked' : List (Sent × Answer)} {unanswered : List Sent}
    (h : Talk w w' asked []) (h' : Talk w' w'' asked' unanswered) :
    Talk w w'' (asked ++ asked') unanswered :=
  ⟨by rw [h'.sent, h.sent]; simp, by rw [h.answers, h'.answers]; simp⟩

/-- The failure says that a record was not found. -/
def SaysMissing (f : Failure) : Prop := ∃ r, f = .rejected r ∧ r.code = .notFound

/-- How an action ends after a conversation: with success only if all answers were good, and as a
missing record if a request for one record was answered with status 404. -/
def EndsWell (asked : List (Sent × Answer)) (unanswered : List Sent) : Except Failure α → Prop
  | .ok _ => unanswered = [] ∧ ∀ e ∈ asked, ¬ e.2.Fails
  | .error f => ∀ e ∈ asked, e.1.AsksForOne → e.2.status = 404 → SaysMissing f

/-- The action heeds the answers that it gets. -/
def Heeds (a : Action (World Client) α) : Prop :=
  ∀ w, ∃ asked unanswered, Talk w (a.exec w).2 asked unanswered ∧
    EndsWell asked unanswered (a.exec w).1

/-- What leaves the connection heeds it. -/
theorem heeds_of_exec {a : Action (World Client) α}
    (h : ∀ w, (a.exec w).2.store.connection = w.store.connection) : Heeds a := by
  intro w
  refine ⟨[], [], .none (h w), ?_⟩
  cases (a.exec w).1 with
  | ok x => exact ⟨rfl, by simp⟩
  | error f => simp [EndsWell]

theorem Heeds.pure (x : α) : Heeds (Pure.pure x : Action (World Client) α) :=
  heeds_of_exec fun _ => rfl

theorem Heeds.fail (f : Failure) : Heeds (Action.fail f : Action (World Client) α) :=
  heeds_of_exec fun _ => rfl

/-- After a step with good answers only, it is the answers of the next step that matter. -/
theorem heeds_next {b : Action (World Client) β} (hb : Heeds b) {asked : List (Sent × Answer)}
    (htalk : Talk w w' asked []) (hgood : ∀ e ∈ asked, ¬ e.2.Fails) :
    ∃ asked' unanswered, Talk w (b.exec w').2 asked' unanswered ∧
      EndsWell asked' unanswered (b.exec w').1 := by
  obtain ⟨asked', unanswered, htalk', hends⟩ := hb w'
  refine ⟨asked ++ asked', unanswered, htalk.trans htalk', ?_⟩
  -- all answers so far were good, so only the last part can report a failure
  cases hx : (b.exec w').1 with
  | ok y =>
    rw [hx] at hends
    refine ⟨hends.1, fun e he => ?_⟩
    rcases List.mem_append.1 he with he | he
    · exact hgood e he
    · exact hends.2 e he
  | error f =>
    rw [hx] at hends
    intro e he hone hstatus
    -- an answer with status 404 is an error, so it came after the good ones
    rcases List.mem_append.1 he with he | he
    · exact absurd (.inl (by omega)) (hgood e he)
    · exact hends e he hone hstatus

/-- What heeds the connection does so in a row. -/
theorem Heeds.bind {a : Action (World Client) α} {f : α → Action (World Client) β} (ha : Heeds a)
    (hf : ∀ x, Heeds (f x)) : Heeds (a >>= f) := by
  intro w
  obtain ⟨asked, unanswered, htalk, hends⟩ := ha w
  rw [exec_bind]
  rcases hx : a.exec w with ⟨e | x, w'⟩
  · rw [hx] at htalk hends
    exact ⟨asked, unanswered, htalk, hends⟩
  -- a result comes of good answers only, so that the next step is the one to look at
  · rw [hx] at htalk hends
    obtain ⟨rfl, hgood⟩ := hends
    exact heeds_next (hf x) htalk hgood

/-! ## Operations -/

/-- The state after a request that was answered. -/
def answered (w : World Client) (s : Sent) (rest : List Answer) : World Client :=
  { w with store := { w.store with
    connection := { w.store.connection with sent := w.store.connection.sent ++ [s],
                                            answers := rest } } }

/-- One question and its answer are a conversation. -/
theorem talk_answered {a : Answer} {rest : List Answer} (s : Sent)
    (h : w.store.connection.answers = a :: rest) : Talk w (answered w s rest) [(s, a)] [] :=
  ⟨by simp [answered], h⟩

/-- A guarded action goes on with the handler where it fails, in the state it failed in. -/
theorem exec_tryCatch {ω : Type} (a : Action ω α) (h : Failure → Action ω α) (w : ω) :
    (tryCatch a h : Action ω α).exec w =
      match a.exec w with
      | (.ok x, w') => (.ok x, w')
      | (.error f, w') => (h f).exec w' := by
  -- the two layers of the action are opened at its outcome
  rcases hx : a.exec w with ⟨f | x, w'⟩ <;>
  · have hrun : StateT.run a w = (_, w') := hx
    simp only [exec, tryCatch, tryCatchThe, MonadExceptOf.tryCatch, ExceptT.tryCatch,
      ExceptT.run_mk, StateT.run_bind, hrun]
    rfl

/-- A request is sent over the connection, and nothing but the connection changes. -/
theorem exec_send (method path : String) (payload : Option Json) (w : World Client) :
    (send method path payload).exec w =
      ((w.store.connection.send method path payload).1, { w with store := { w.store with
        connection := (w.store.connection.send method path payload).2 } }) := by
  rw [send, exec_bind_ok (exec_get w)]
  rcases w.store.connection.send method path payload with ⟨f | v, connection⟩ <;> rfl

/-- What a call that was answered comes to. -/
theorem exec_call_answered (operation : String) (name args : Json) {a : Answer}
    {rest : List Answer} (h : w.store.connection.answers = a :: rest) :
    ∃ s : Sent, s.Asks operation ∧ (call operation name args).exec w =
      (((a.value s.url).mapError .remote).map answerData, answered w s rest) := by
  refine ⟨request w.store.connection.base "POST" operationPath
    (some (operationCall operation name args)), ⟨name, args, rfl⟩, ?_⟩
  rw [call, exec_bind_pure, exec_send, Connection.send, Connection.exchange, h]
  rfl

/-- A call that is left without answer fails. -/
theorem exec_call_unanswered (operation : String) (name args : Json)
    (h : w.store.connection.answers = []) :
    ∃ s w', Talk w w' [] [s] ∧ (call operation name args).exec w =
      (.error (.unreachable "script exhausted"), w') := by
  refine ⟨request w.store.connection.base "POST" operationPath
    (some (operationCall operation name args)), ((call operation name args).exec w).2, ?_, ?_⟩ <;>
    rw [call, exec_bind_pure, exec_send, Connection.send, Connection.exchange, h]
  · exact ⟨by simp [operationCall], by simp [h]⟩
  · rfl

/-- An operation that is not for one record heeds its answer by itself. -/
theorem heeds_call {operation : String} (h : operation ∉ forOne) (name args : Json) :
    Heeds (call operation name args) := by
  intro w
  cases hanswers : w.store.connection.answers with
  -- the service says nothing: the request goes out and the call fails
  | nil =>
    obtain ⟨s, w', htalk, hexec⟩ := exec_call_unanswered operation name args hanswers
    rw [hexec]
    exact ⟨[], [s], htalk, by simp [EndsWell]⟩
  | cons a rest =>
    obtain ⟨s, hasks, hexec⟩ := exec_call_answered operation name args hanswers
    rw [hexec]
    -- exactly one request is answered, and it does not ask for one record
    refine ⟨[(s, a)], [], talk_answered s hanswers, ?_⟩
    cases hvalue : a.value s.url with
    | ok v =>
      refine ⟨rfl, fun e he => ?_⟩
      obtain rfl := List.mem_singleton.1 he
      exact Answer.not_fails hvalue
    | error f =>
      intro e he hone
      obtain rfl := List.mem_singleton.1 he
      exact absurd hone (not_asksForOne hasks h)

/-- A failure of status 404 is answered with what a missing record gives; every other outcome
stays. -/
theorem exec_orMissing (missing : α) (a : Run α) (w : World Client) :
    (orMissing missing a).exec w =
      match a.exec w with
      | (.ok x, w') => (.ok x, w')
      | (.error (.remote e), w') =>
        if e.status = 404 then (.ok missing, w') else (.error (.remote e), w')
      | (.error f, w') => (.error f, w') := by
  rw [orMissing, exec_tryCatch]
  rcases a.exec w with ⟨f | x, w'⟩
  -- only what the service reports has a status
  · cases f with
    | remote e =>
      show exec (if e.status = 404 then pure missing else Action.fail (.remote e)) w' = _
      dsimp only
      split <;> rfl
    | _ => rfl
  · rfl

/-- A request for one record, together with what is made of a record that is missing. -/
theorem heeds_forOne (operation : String) (name args : Json) (missing : Rejection)
    {k : Json → Run α} (hk : ∀ v, Heeds (k v)) (hcode : missing.code = .notFound)
    (hmissing : k .null = Action.reject missing) :
    Heeds (orMissing .null (call operation name args) >>= k) := by
  intro w
  cases hanswers : w.store.connection.answers with
  -- no answer: the failure of the call is no error of the service
  | nil =>
    obtain ⟨s, w', htalk, hexec⟩ := exec_call_unanswered operation name args hanswers
    rw [exec_bind, exec_orMissing, hexec]
    exact ⟨[], [s], htalk, by simp [EndsWell]⟩
  | cons a rest =>
    obtain ⟨s, hasks, hexec⟩ := exec_call_answered operation name args hanswers
    have htalk := talk_answered s hanswers
    rw [exec_bind, exec_orMissing, hexec]
    cases hvalue : a.value s.url with
    | ok v =>
      -- a good answer leaves the rest to the continuation
      refine heeds_next (hk (answerData v)) htalk fun e he => ?_
      obtain rfl := List.mem_singleton.1 he
      exact Answer.not_fails hvalue
    | error e =>
      refine ⟨[(s, a)], [], ?_⟩
      by_cases hstatus : e.status = 404
      · -- the record is missing, and this is what the failure says
        simp only [Except.mapError, Except.map, hstatus, if_true, hmissing]
        exact ⟨htalk, fun _ _ _ _ => ⟨missing, rfl, hcode⟩⟩
      · simp only [Except.mapError, Except.map, hstatus, if_false]
        refine ⟨htalk, fun e' he' _ h404 => ?_⟩
        obtain rfl := List.mem_singleton.1 he'
        exact absurd ((Answer.status_eq hvalue).2 h404) hstatus

end ODataService.Remote
