import ODataService.Proofs.Batch.Sequential
import ODataService.Proofs.Service.Envelopes

/-!
# Outcomes of changesets

A changeset answers its operations one after the other, and stops behind the first that fails. Two
courses are possible, whatever answers the requests and whatever state it keeps: all operations
succeed (`Succeed`), or those in front of one succeed and this one fails (`FailsBehind`). In each
case the outcome is what the course says: who was answered, what state was reached, and what the
counters and the log tell about it.

What carries the proof is that operations that succeed are taken off the front of a changeset
(`runOperations_append`). An operation without a request never succeeds, so each of them has an undo
to be written to the log.

Main result: `runChangeset_outcome`.
-/

namespace ODataService.Batch

open ODataService.Action

variable {σ : Type} {d : Dispatcher (World σ)} {base : String} {w w' w₁ : World σ}
  {o : Operation} {os front rest : List Operation} {r : Http.Response} {rs : List Http.Response}

/-! ## Courses -/

/-- The operations are answered one after the other, all of them succeed with the responses `rs`,
and they lead from `w` to `w'`. -/
structure Succeed (d : Dispatcher (World σ)) (base : String) (w : World σ) (os : List Operation)
    (rs : List Http.Response) (w' : World σ) : Prop where
  run : (os.mapM (answerAlone d base)).run w = (rs, w')
  succeeded : ∀ r ∈ rs, r.status < 400

/-- The operations in front succeed, and the one behind them fails with the response `r` and leads
to `w'`. -/
def FailsBehind (d : Dispatcher (World σ)) (base : String) (w : World σ) (front : List Operation)
    (o : Operation) (r : Http.Response) (w' : World σ) : Prop :=
  ∃ rs w₁, Succeed d base w front rs w₁ ∧ (answerAlone d base o).run w₁ = (r, w') ∧ 400 ≤ r.status

/-- Running a list of actions runs the first, then the others from where it ended. -/
theorem run_mapM_cons {ω α β : Type} (f : α → StateM ω β) (a : α) (as : List α) (w : ω) :
    ((a :: as).mapM f).run w =
      (((f a).run w).1 :: ((as.mapM f).run ((f a).run w).2).1,
        ((as.mapM f).run ((f a).run w).2).2) := by
  rw [List.mapM_cons]
  rfl

theorem Succeed.nil : Succeed d base w [] [] w := ⟨by rw [List.mapM_nil]; rfl, by simp⟩

/-- Operations succeed when the first one does and then the others. -/
theorem succeed_cons_iff : Succeed d base w (o :: os) rs w' ↔
    ∃ r rs' w₁, (answerAlone d base o).run w = (r, w₁) ∧ r.status < 400 ∧
      Succeed d base w₁ os rs' w' ∧ rs = r :: rs' := by
  constructor
  -- the run of the list is taken apart, and put together again
  · rintro ⟨hrun, hall⟩
    rw [run_mapM_cons] at hrun
    obtain ⟨rfl, hend⟩ := Prod.mk.inj hrun
    have hlow := List.forall_mem_cons.1 hall
    exact ⟨_, _, _, rfl, hlow.1, ⟨Prod.ext rfl hend, hlow.2⟩, rfl⟩
  · rintro ⟨r, rs', w₁, hr, hlow, ⟨hrun, hall⟩, rfl⟩
    refine ⟨?_, List.forall_mem_cons.2 ⟨hlow, hall⟩⟩
    rw [run_mapM_cons, hr, hrun]

/-- There is a response to each operation. -/
theorem Succeed.length (h : Succeed d base w os rs w') : rs.length = os.length := by
  induction os generalizing w rs with
  | nil =>
    obtain ⟨rfl, -⟩ := Prod.mk.inj h.run
    rfl
  | cons o os ih =>
    obtain ⟨r, rs', w₁, -, -, hrest, rfl⟩ := succeed_cons_iff.1 h
    rw [List.length_cons, List.length_cons, ih hrest]

/-- Only requests succeed: what could not be read is refused. -/
theorem Succeed.requests (h : Succeed d base w os rs w') :
    ∃ qs : List PartRequest, os = qs.map .request := by
  induction os generalizing w rs with
  | nil => exact ⟨[], rfl⟩
  | cons o os ih =>
    obtain ⟨r, rs', w₁, hr, hlow, hrest, rfl⟩ := succeed_cons_iff.1 h
    obtain ⟨qs, rfl⟩ := ih hrest
    -- an operation that could not be read is answered with an error
    cases o with
    | request q => exact ⟨q :: qs, rfl⟩
    | unreadable cause =>
      obtain ⟨rfl, -⟩ := Prod.mk.inj hr
      exact absurd hlow (by decide : ¬ 400 < 400)

/-- There is no other course. -/
theorem exists_course (d : Dispatcher (World σ)) (base : String) (w : World σ)
    (os : List Operation) :
    (∃ rs w', Succeed d base w os rs w') ∨
      ∃ front o behind r w', os = front ++ o :: behind ∧ FailsBehind d base w front o r w' := by
  induction os generalizing w with
  | nil => exact .inl ⟨[], w, .nil⟩
  | cons o os ih =>
    rcases hr : (answerAlone d base o).run w with ⟨r, w₁⟩
    -- the first failure ends the course
    by_cases hlow : r.status < 400
    · -- the course goes on as that of the operations behind
      rcases ih w₁ with ⟨rs, w', hrest⟩ | ⟨front, o', behind, r', w', rfl, rs, w₂, hfront, hfails⟩
      · exact .inl ⟨r :: rs, w', succeed_cons_iff.2 ⟨r, rs, w₁, hr, hlow, hrest, rfl⟩⟩
      · exact .inr ⟨o :: front, o', behind, r', w', rfl, r :: rs, w₂,
          succeed_cons_iff.2 ⟨r, rs, w₁, hr, hlow, hfront, rfl⟩, hfails⟩
    · exact .inr ⟨[], o, os, r, w₁, rfl, [], w, .nil, hr, Nat.le_of_not_lt hlow⟩

/-! ## Running -/

/-- Operations that succeed are answered, and the changeset goes on behind them. -/
theorem runOperations_append (htargets : ∀ o ∈ front, o.HasTarget base)
    (h : Succeed d base w front rs w₁) (total : Nat)
    (answered : List (Operation × Http.Response)) (rest : List Operation) :
    (runOperations d base total answered (front ++ rest)).exec w =
      (runOperations d base total (answered ++ front.zip rs) rest).exec w₁ := by
  induction front generalizing w rs answered with
  | nil =>
    obtain ⟨rfl, rfl⟩ := Prod.mk.inj h.run
    rw [List.nil_append, List.zip_nil_left, List.append_nil]
  | cons o front ih =>
    obtain ⟨r, rs', w₂, hr, hlow, hrest, rfl⟩ := succeed_cons_iff.1 h
    -- the first operation is dispatched, and does not fail
    have hanswer : (answer d base o).exec w = (.ok r, w₂) := by
      rw [answer_eq d (htargets o List.mem_cons_self), exec_lift, hr]
    -- so it goes to those answered, and the others follow
    have hnot : ¬ failed r = true := by simpa [failed] using hlow
    rw [List.cons_append, runOperations, exec_bind_ok hanswer, if_neg hnot,
      ih (fun o' ho' => htargets o' (List.mem_cons_of_mem o ho')) hrest, List.append_assoc]
    rfl

/-- The entries that a rollback writes to the log: one for each request, the last one first. -/
theorem rollback_eq (done : List Done) (w : World σ) :
    rollback done w =
      { w with log := w.log ++ done.reverse.map fun u => ⟨.warning, .batches, u.warning⟩ } := by
  rw [rollback]
  generalize done.reverse = us
  -- each undone operation adds its warning behind the others
  induction us generalizing w with
  | nil => simp
  | cons u us ih =>
    rw [List.foldl_cons, ih, List.map_cons, List.append_cons]
    rfl

/-- A request as an undo would need it. -/
def PartRequest.done (q : PartRequest) : Done := ⟨q.method, q.url⟩

/-- What was done is what the requests among the answered operations did. -/
theorem filterMap_done?_zip {qs : List PartRequest} (h : rs.length = qs.length) :
    ((qs.map Operation.request).zip rs).filterMap (·.1.done?) = qs.map PartRequest.done := by
  induction qs generalizing rs with
  | nil => simp
  | cons q qs ih =>
    cases rs with
    | nil => simp at h
    | cons r rs =>
      have hrest := ih (Nat.succ.inj h)
      exact congrArg (q.done :: ·) hrest

/-! ## Outcomes -/

/-- The response of a changeset of `total` operations that was given up behind `succeeded` of them:
its status is that of the operation that failed, status and body are read from its text, and the
error in the body has the counters. -/
structure GivesUp (response failing : Http.Response) (succeeded total : Nat) : Prop where
  status : response.status = failing.status
  text : Http.read? response.render = some (failing.status, response.headers, response.body)
  body : ∃ error, Json.parse response.body = .ok (.obj [("error", .obj error)]) ∧
    Keyed.get? error "innererror" = some (.obj (counters (succeeded + 1) succeeded total))

/-- The counters of a changeset are a member of its error. -/
theorem get?_innererror_changesetError (cause : ErrorBody) (succeeded total : Nat) :
    Keyed.get? (Keyed.ofAssoc (changesetError cause succeeded total).members) "innererror" =
      some (.obj (counters (succeeded + 1) succeeded total)) := by
  rw [Keyed.get?_ofAssoc]
  obtain ⟨code, message, target, details, diagnostics⟩ := cause
  simp [ErrorBody.members, changesetError, Assoc.get?]

/-- The response to an aborted changeset tells the failure and the counters. -/
theorem givesUp_aborted (r : Http.Response) (succeeded total : Nat) :
    GivesUp (.ofErrorStatus r.status (changesetError (causeOf r) succeeded total)) r
      succeeded total := by
  refine ⟨rfl, ?_, _, ?_, get?_innererror_changesetError (causeOf r) succeeded total⟩
  · exact Service.Plain.read?_render
      (Service.plain_contentType (by decide : Http.OneLine "application/json") rfl)
  -- the counters are the diagnostics of the error, so they are read back with it
  · refine ErrorBody.parse_envelope fun diagnostics h => ?_
    obtain rfl := Option.some.inj h
    exact Service.readable_counters _ _ _

/-- What the log tells about a changeset of `total` operations that was given up behind the requests
`qs`: what an undo would have to do for each of them, the last one first, and then which operation
failed. -/
def abortLog (qs : List PartRequest) (total status : Nat) : List LogEntry :=
  (qs.reverse.map fun q => ⟨.warning, .batches, q.done.warning⟩) ++
    [⟨.warning, .batches, abortWarning qs.length total status⟩]

/-- The outcome of a changeset, whatever answers its requests. Either all operations succeed, or
there is a first one that fails, and no other course is possible. In the first case the outcome has
all responses in order. In the second case no operation behind the one that fails is answered, so
the state is the one that it led to; one response stands for all operations; and the log tells what
an undo would have to do for each request in front, the last one first. -/
theorem runChangeset_outcome (d : Dispatcher (World σ)) {base : String} {os : List Operation}
    (htargets : ∀ o ∈ os, o.HasTarget base) (w : World σ) :
    ((∃ rs w', Succeed d base w os rs w') ∨
      ∃ front o behind r w', os = front ++ o :: behind ∧ FailsBehind d base w front o r w') ∧
    (∀ rs w', Succeed d base w os rs w' → rs.length = os.length ∧
      (runChangeset d base os).exec w =
        (.ok ⟨rs, os.length, os.length, os.length, false⟩, w')) ∧
    ∀ front o behind r w', os = front ++ o :: behind → FailsBehind d base w front o r w' →
      ∃ (response : Http.Response) (qs : List PartRequest), front = qs.map .request ∧
        GivesUp response r front.length os.length ∧
        (runChangeset d base os).exec w =
          (.ok ⟨[response], front.length + 1, front.length, os.length, true⟩,
            { w' with log := w'.log ++ abortLog qs os.length r.status }) := by
  refine ⟨exists_course d base w os, ?_, ?_⟩
  -- all succeed: the responses are given as they are
  · intro rs w' h
    have hrun := runOperations_append htargets h os.length [] []
    have hresponses : ((os.zip rs).map Prod.snd) = rs :=
      List.map_snd_zip (Nat.le_of_eq h.length)
    rw [List.append_nil, List.nil_append] at hrun
    refine ⟨h.length, ?_⟩
    rw [runChangeset, hrun, runOperations, hresponses, completedOutcome, h.length]
    rfl
  · rintro front o behind r w' rfl ⟨rs, w₁, hfront, hr, hhigh⟩
    obtain ⟨qs, rfl⟩ := hfront.requests
    have htarget := htargets o (by simp)
    have hfronts : ∀ o' ∈ qs.map Operation.request, o'.HasTarget base := fun o' ho' =>
      htargets o' (List.mem_append_left _ ho')
    have hrun := runOperations_append hfronts hfront
      (qs.map Operation.request ++ o :: behind).length [] (o :: behind)
    have hanswer : (answer d base o).exec w₁ = (.ok r, w') := by
      rw [answer_eq d htarget, exec_lift, hr]
    -- the operations in front are answered, and this one fails
    have hfailed : failed r = true := by simpa [failed] using hhigh
    refine ⟨_, qs, rfl, givesUp_aborted r _ _, ?_⟩
    have hanswered : ([] ++ (qs.map Operation.request).zip rs).length =
        (qs.map Operation.request).length := by
      rw [List.nil_append, List.length_zip, hfront.length, Nat.min_self]
    rw [runChangeset, hrun, runOperations, exec_bind_ok hanswer, if_pos hfailed, hanswered,
      List.nil_append, filterMap_done?_zip (hfront.length.trans (List.length_map _))]
    show (Except.ok _, warn _ (rollback _ w')) = _
    rw [rollback_eq, ← List.map_reverse, List.map_map, abortLog, ← List.append_assoc,
      List.length_map]
    rfl

/-- Refuses to delete, does all else, and keeps the methods of the requests. -/
def refuseDeletes : Dispatcher (World (List String)) := fun q => do
  modify fun w => { w with store := w.store ++ [q.method] }
  return .empty (if q.method = "DELETE" then 409 else 204) []

/-- The second of three requests fails: the third one is not made, and an undo of the first one is
written to the log. -/
theorem runChangeset_outcome_refused :
    ∃ r response w', (runChangeset refuseDeletes "" [.request ⟨"POST", "A", [], ""⟩,
          .request ⟨"DELETE", "A('1')", [], ""⟩, .request ⟨"PATCH", "A('2')", [], ""⟩]).exec
        ⟨[], 0, []⟩ = (.ok ⟨[response], 2, 1, 3, true⟩, w') ∧
      r.status = 409 ∧ GivesUp response r 1 3 ∧ w'.store = ["POST", "DELETE"] ∧
      w'.log = [
        ⟨.warning, .batches,
          "changeset rollback not executed: POST A -> would delete the created record"⟩,
        ⟨.warning, .batches, "changeset aborted at operation 2/3 (status 409)"⟩] := by
  have htargets : ∀ o ∈ [Operation.request ⟨"POST", "A", [], ""⟩,
      .request ⟨"DELETE", "A('1')", [], ""⟩, .request ⟨"PATCH", "A('2')", [], ""⟩],
      o.HasTarget "" := by decide +kernel
  obtain ⟨-, -, houtcome⟩ := runChangeset_outcome refuseDeletes htargets ⟨[], 0, []⟩
  -- the world behind the first request, and the answer to the second one
  have hfront : Succeed refuseDeletes "" ⟨[], 0, []⟩ [.request ⟨"POST", "A", [], ""⟩] _ _ :=
    ⟨rfl, by decide +kernel⟩
  obtain ⟨response, qs, hqs, hgives, hrun⟩ := houtcome [.request ⟨"POST", "A", [], ""⟩] _ _ _ _ rfl
    ⟨_, _, hfront, rfl, by decide +kernel⟩
  obtain rfl : qs = [⟨"POST", "A", [], ""⟩] :=
    List.map_injective_iff.2 (fun _ _ h => Operation.request.inj h) hqs.symm
  exact ⟨_, response, _, hrun, by decide +kernel, hgives, by decide +kernel, by decide +kernel⟩

end ODataService.Batch
