import ODataService.Proofs.Service.Records

/-!
# Whole requests

What a request addresses, and how the service on the store in memory answers it: by the action of
its route, whose failure becomes an error response. A request that is not a batch either writes by
one of the three actions of `ODataService.Proofs.Service.Records`, or it leaves the store as it is
(`Service.route_cases`).
-/

namespace ODataService

open ODataService.Action

/-- What the path of a request names. -/
def Http.Request.resource (q : Http.Request) : Route :=
  Route.ofPath (if q.path = "" then "/" else q.path)

/-- The path of a request names a record. -/
def Http.Request.Addresses (q : Http.Request) (set key : String) : Prop :=
  ∃ raw, q.resource = .entity set raw ∧ EntityKey.parse raw = .ok key

/-! ## Statuses of errors -/

theorem ErrorCode.status_ge (c : ErrorCode) : 400 ≤ c.status := by
  cases c <;> decide

theorem ErrorCode.ofName?_name (c : ErrorCode) : ErrorCode.ofName? c.name = some c := by
  cases c <;> rfl

/-- An error is never answered as a success, whatever its code. -/
theorem ErrorBody.status_ge (e : ErrorBody) : 400 ≤ e.status := by
  unfold status
  split
  · next c _ => exact c.status_ge
  · omega

/-- A rejection is answered with the status of its code. -/
theorem status_rejected (debug : Bool) (r : Rejection) :
    ((Failure.rejected r).toErrorBody debug).status = r.code.status := by
  have hname : ErrorCode.ofName? ((Failure.rejected r).toErrorBody debug).code = some r.code :=
    ErrorCode.ofName?_name r.code
  rw [ErrorBody.status, hname]

/-- A write that finds no stamp is answered as an internal error. -/
theorem status_noStamp (debug : Bool) (fault : Time.RangeFault) :
    ((Failure.noStamp fault).toErrorBody debug).status = 500 := by
  -- neither refusal of a stamp has an error code of its own
  have hclass : ((Failure.noStamp fault).incident).classify.1 = .internalServerError := by
    cases fault <;> rfl
  unfold Failure.toErrorBody Incident.toErrorBody
  dsimp only
  rw [hclass]
  split <;> rfl

namespace Service

/-! ## From the action to the response -/

section answering

variable {σ : Type} {s : Service σ} {reply : Responder σ} {q : Http.Request} {w w' : World σ}

/-- A response of the responder is the answer. -/
theorem run_answering_ok {r : Http.Response} (h : (reply q).exec w = (.ok r, w')) :
    (s.answering reply q).run w = (r, w') := by
  have hrun : StateT.run (ExceptT.run (reply q)) w = (.ok r, w') := h
  rw [answering, StateT.run_bind, hrun]
  rfl

/-- A failure becomes an error response, and the log apart nothing else happens. -/
theorem run_answering_error {f : Failure} (h : (reply q).exec w = (.error f, w')) :
    ∃ w'', (s.answering reply q).run w = (.ofError (f.toErrorBody s.settings.debug), w'') ∧
      w''.store = w'.store := by
  have hrun : StateT.run (ExceptT.run (reply q)) w = (.error f, w') := h
  have hfailure : (s.answering reply q).run w = (s.answerFailure q f).run w' := by
    rw [answering, StateT.run_bind, hrun]
    rfl
  rw [hfailure]
  -- an internal failure is logged, which is no change of the store
  unfold answerFailure
  dsimp only
  split
  · exact ⟨_, rfl, rfl⟩
  · exact ⟨_, rfl, rfl⟩

/-- A rejection that is no fault of the service does not go to the log. -/
theorem run_answerFailure_rejected {e : Rejection} (h : e.code.status < 500) :
    (s.answerFailure q (.rejected e)).run w =
      (.ofError ((Failure.rejected e).toErrorBody s.settings.debug), w) := by
  -- a rejection of the caller is not logged
  have hquiet : ¬ 500 ≤ ((Failure.rejected e).toErrorBody s.settings.debug).status := by
    rw [status_rejected]
    omega
  unfold answerFailure
  dsimp only
  rw [if_neg hquiet]
  rfl

/-- A rejection below 500 is answered, and the world is as the responder left it. -/
theorem run_answering_rejected {e : Rejection} (hcode : e.code.status < 500)
    (h : (reply q).exec w = (.error (.rejected e), w')) :
    (s.answering reply q).run w =
      (.ofError ((Failure.rejected e).toErrorBody s.settings.debug), w') := by
  have hrun : StateT.run (ExceptT.run (reply q)) w = (.error (.rejected e), w') := h
  rw [answering, StateT.run_bind, hrun]
  exact run_answerFailure_rejected hcode

end answering

/-! ## What a request comes to -/

variable {settings : Settings} {batch : Responder Store} {w : World Store} {set key : String}
  {q : Http.Request}

/-- A path that is not empty is read as it is. -/
theorem resource_eq {path : String} {cs : List Char} (hpath : q.path = path)
    (hchars : path.toList = '/' :: cs) : q.resource = Route.ofPath path := by
  have hne : path ≠ "" := by
    rintro rfl
    simp at hchars
  rw [Http.Request.resource, hpath, if_neg hne]

/-- The parameters of a request. -/
abbrev paramsOf (q : Http.Request) : Assoc String := Url.parseQuery q.query

/-- The actions of the routes. -/
def actionOf (s : Service Store) (batch : Responder Store) (q : Http.Request) :
    Action (World Store) Http.Response :=
  let path := if q.path = "" then "/" else q.path
  match q.resource with
  | .service => s.replyService q.method
  | .metadata => s.replyMetadata q.method
  | .batch => batch q
  | .count set => s.replyNumber set (paramsOf q) q
  | .collection set => s.replySet set path (paramsOf q) q
  | .entity set key => s.replyRecord set key path (paramsOf q) q
  | .unknown => refuse .notFound s!"Invalid OData path: {path}" none

/-- A request that is no preflight is answered by the action of its path. -/
theorem route_eq (s : Service Store)
    (hm : ¬ (q.method = "OPTIONS" && s.settings.crossOrigin) = true) :
    s.route batch q = s.actionOf batch q := by
  unfold route
  dsimp only
  rw [if_neg hm]
  rfl

/-- A request for a record of a declared entity set is answered by the action of its method. -/
theorem exec_route_record (hm : q.method ≠ "OPTIONS") (hd : w.store.declares set = true)
    (ha : q.Addresses set key) :
    ∃ path, ((inMemory settings).route batch q).exec w =
      (match q.method with
        | "GET" => (inMemory settings).replyEntity set key (paramsOf q) q
        | "PUT" | "PATCH" => (inMemory settings).replyUpdate set key q
        | "DELETE" => (inMemory settings).replyDelete set key q
        | method => refuseMethod method path : Action (World Store) Http.Response).exec w := by
  obtain ⟨raw, hr, hkey⟩ := ha
  refine ⟨if q.path = "" then "/" else q.path, ?_⟩
  rw [route_eq _ (by simp [hm]), actionOf, hr]
  -- the set is declared and the key is read, so the method decides
  exact (exec_bind_ok (exec_requireSet hd)).trans (exec_bind_ok (exec_ofRejection_ok hkey w))

/-- A GET for a record is answered by reading it. -/
theorem exec_route_get (hm : q.method = "GET") (hd : w.store.declares set = true)
    (ha : q.Addresses set key) :
    ((inMemory settings).route batch q).exec w =
      ((inMemory settings).replyEntity set key (paramsOf q) q).exec w := by
  have hoptions : q.method ≠ "OPTIONS" := by simp [hm]
  obtain ⟨path, h⟩ := exec_route_record hoptions hd ha
  rw [h]
  simp only [hm]

/-- A PUT or PATCH for a record is answered by changing it. -/
theorem exec_route_update (hm : q.method = "PUT" ∨ q.method = "PATCH")
    (hd : w.store.declares set = true) (ha : q.Addresses set key) :
    ((inMemory settings).route batch q).exec w =
      ((inMemory settings).replyUpdate set key q).exec w := by
  have hoptions : q.method ≠ "OPTIONS" := by rcases hm with hm | hm <;> simp [hm]
  obtain ⟨path, h⟩ := exec_route_record hoptions hd ha
  rw [h]
  rcases hm with hm | hm <;> simp only [hm]

/-- A DELETE for a record is answered by removing it. -/
theorem exec_route_delete (hm : q.method = "DELETE") (hd : w.store.declares set = true)
    (ha : q.Addresses set key) :
    ((inMemory settings).route batch q).exec w =
      ((inMemory settings).replyDelete set key q).exec w := by
  have hoptions : q.method ≠ "OPTIONS" := by simp [hm]
  obtain ⟨path, h⟩ := exec_route_record hoptions hd ha
  rw [h]
  simp only [hm]

/-- A POST for an entity set is answered by adding a record. -/
theorem exec_route_create (hm : q.method = "POST") (hd : w.store.declares set = true)
    (hr : q.resource = .collection set) :
    ((inMemory settings).route batch q).exec w =
      ((inMemory settings).replyCreate set q).exec w := by
  rw [route_eq _ (by simp [hm]), actionOf, hr]
  dsimp only
  rw [replySet, exec_bind_ok (exec_requireSet hd)]
  simp only [hm]

/-! ## Requests that write nothing -/

/-- The relation of a world to worlds with the same store. -/
def SameStore (w w' : World Store) : Prop := w'.store = w.store

instance : Progress SameStore where
  refl _ := rfl
  trans h h' := h'.trans h

instance : Reporting (Along SameStore) where
  look _ _ := rfl
  report _ _ _ _ := rfl

/-- The action answers nothing but an error, and leaves the world as it is. -/
def Refuses (a : Action (World Store) Http.Response) (w : World Store) : Prop :=
  ∃ f, a.exec w = (.error f, w)

theorem refuses_fail {f : Failure} : Refuses (fail f) w := ⟨f, rfl⟩

/-- A first step that fails refuses, whatever would have followed. -/
theorem Refuses.bind {α : Type} {a : Action (World Store) α}
    {f : α → Action (World Store) Http.Response} {e : Failure} (h : a.exec w = (.error e, w)) :
    Refuses (a >>= f) w :=
  ⟨e, exec_bind_error h⟩

/-- A second step that refuses does so behind any first step that changes nothing. -/
theorem Refuses.of_bind {α : Type} {a : Action (World Store) α} {x : α}
    {f : α → Action (World Store) Http.Response} (ha : a.exec w = (.ok x, w))
    (h : Refuses (f x) w) : Refuses (a >>= f) w := by
  obtain ⟨e, he⟩ := h
  exact ⟨e, by rw [exec_bind_ok ha, he]⟩

/-- What may only be read refuses all other methods. -/
theorem refuses_requireMethod {method : String} {f : Unit → Action (World Store) Http.Response}
    (hm : method ≠ "GET") : Refuses (requireMethod method "GET" >>= f) w := by
  rw [requireMethod, if_neg hm]
  exact .bind rfl

/-- What the operations that read keep, every request keeps that reads and is no batch. -/
theorem route_reads_keep {P : Property (World Store)} [Reporting P] (settings : Settings)
    (batch : Responder Store) (hq : q.resource ≠ .batch)
    (hm : q.method = "GET" ∨ q.method = "OPTIONS") :
    Keeps P ((inMemory settings).route batch q) := by
  -- no route of a request that reads leads to an operation that writes
  have he : (inMemory settings).engine.ReadsKeep P := Store.engine_readsKeep P
  by_cases ho : (q.method = "OPTIONS" && (inMemory settings).settings.crossOrigin) = true
  -- a preflight is answered at once
  · unfold route
    dsimp only
    rw [if_pos ho]
    exact .pure _
  · rw [route_eq _ ho, actionOf]
    split
    · exact replyService_keeps (inMemory settings) _
    · exact replyMetadata_keeps (inMemory settings) _
    · next hbatch => exact absurd hbatch hq
    · exact replyNumber_keeps (inMemory settings) he _ _ q
    · refine .bind (keeps_requireSet (inMemory settings) _) fun _ => ?_
      rcases hm with hm | hm <;> simp only [hm]
      · exact replyCollection_keeps (inMemory settings) he _ _
      · exact keeps_refuse _ _ _
    · refine .bind (keeps_requireSet (inMemory settings) _) fun _ => .bind (.ofRejection _) fun _ => ?_
      rcases hm with hm | hm <;> simp only [hm]
      · exact replyEntity_keeps (inMemory settings) he _ _ _ q
      · exact keeps_refuse _ _ _
    · exact keeps_refuse _ _ _

/-- A request that reads leaves the store as it is. -/
theorem route_reads (settings : Settings) (batch : Responder Store) (w : World Store)
    (hq : q.resource ≠ .batch) (hm : q.method = "GET" ∨ q.method = "OPTIONS") :
    SameStore w (((inMemory settings).route batch q).exec w).2 :=
  route_reads_keep (P := Along SameStore) settings batch hq hm w

/-- A request that is no batch and does not only read is refused, or it is answered by one of the
actions that write. -/
theorem route_cases (settings : Settings) (batch : Responder Store) (w : World Store)
    (hq : q.resource ≠ .batch) (hget : q.method ≠ "GET") (hoptions : q.method ≠ "OPTIONS") :
    Refuses ((inMemory settings).route batch q) w ∨
    (∃ set, q.method = "POST" ∧ q.resource = .collection set ∧ w.store.declares set = true) ∨
    (∃ set key, (q.method = "PUT" ∨ q.method = "PATCH") ∧ q.Addresses set key ∧
      w.store.declares set = true) ∨
    (∃ set key, q.method = "DELETE" ∧ q.Addresses set key ∧ w.store.declares set = true) := by
  rw [route_eq _ (by simp [hoptions]), actionOf]
  -- by the kind of the path; what may only be read refuses the method
  split
  · exact .inl (refuses_requireMethod hget)
  · exact .inl (refuses_requireMethod hget)
  · next hbatch => exact absurd hbatch hq
  · exact .inl (refuses_requireMethod hget)
  · next set hr =>
    cases hd : w.store.declares set with
    | false =>
      obtain ⟨r, hundeclared⟩ := exec_requireSet_undeclared settings hd
      exact .inl (.bind hundeclared)
    | true =>
      by_cases hpost : q.method = "POST"
      · exact .inr (.inl ⟨set, hpost, hr, hd⟩)
      · refine .inl (.of_bind (exec_requireSet hd) ?_)
        split
        · next h => exact absurd h hget
        · next h => exact absurd h hpost
        all_goals exact refuses_fail
  · next set raw hr =>
    cases hd : w.store.declares set with
    | false =>
      obtain ⟨r, hundeclared⟩ := exec_requireSet_undeclared settings hd
      exact .inl (.bind hundeclared)
    | true =>
      -- the key is read in front of everything that the method decides
      cases hkey : EntityKey.parse raw with
      | error e =>
        exact .inl (.of_bind (exec_requireSet hd) (.bind (exec_ofRejection_error hkey w)))
      | ok key =>
        by_cases hupdate : q.method = "PUT" ∨ q.method = "PATCH"
        · exact .inr (.inr (.inl ⟨set, key, hupdate, ⟨raw, hr, hkey⟩, hd⟩))
        by_cases hdelete : q.method = "DELETE"
        · exact .inr (.inr (.inr ⟨set, key, hdelete, ⟨raw, hr, hkey⟩, hd⟩))
        refine .inl (.of_bind (exec_requireSet hd) (.of_bind (exec_ofRejection_ok hkey w) ?_))
        split
        · next h => exact absurd h hget
        · next h => exact absurd (.inl h) hupdate
        · next h => exact absurd (.inr h) hupdate
        · next h => exact absurd h hdelete
        · exact refuses_fail
  · exact .inl refuses_fail

end Service

end ODataService
