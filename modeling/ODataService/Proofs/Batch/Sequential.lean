import ODataService.Proofs.Batch.Isolation
import ODataService.Proofs.Service.Alike

/-!
# Batches as sequences of requests

A batch is answered as if its parts were taken one at a time in the order of the body
(`Batch.oneByOne`): a plain operation is answered on its own, and the operations of a changeset are
answered up to the first that fails. The groups of adjacent operations that only read make no
difference, and neither does the order in which the operations of a group complete
(`Batch.executeIn`).

What is asked of the handler of single requests is that it does not see the log and that requests
that read change nothing but the log (`Batch.Orderly`). The proof compares `oneByOne` with the
groups piece by piece: an action follows a computation (`Batch.Follows`) if it succeeds with the
same result from worlds that differ in their logs.

Main results:

* `Batch.executeIn_congr`: requests for batches never reach the handler.
* `Service.execute_eq_oneByOne`: a batch equals its parts one by one, in every order of completion.
-/

namespace ODataService.Batch

open ODataService.Action

variable {ω σ α β : Type}

/-! ## One at a time -/

/-- Answers an operation on its own. The handler answers requests; it sees neither operations that
cannot be read nor batches. -/
def answerAlone (handler : Dispatcher ω) (base : String) : Operation → StateM ω Http.Response
  | .unreadable cause => pure (.ofError (refusal cause.message))
  | .request r =>
    match Url.Target.ofUrl base r.url with
    | .error fault => pure (.ofError ((Failure.url fault).toErrorBody false))
    | .ok t =>
      if isBatchPath t.path then pure (.ofError (refusal nestedMessage))
      else handler (r.toRequest t)

/-- Answers operations up to the first that fails: the responses in front of it, and its own. -/
def answerUntilFailure (handler : Dispatcher ω) (base : String) :
    List Operation → StateM ω (List Http.Response × Option Http.Response)
  | [] => pure ([], none)
  | o :: os => do
    let r ← answerAlone handler base o
    if failed r then return ([], some r)
    else
      let (rs, failing) ← answerUntilFailure handler base os
      return (r :: rs, failing)

/-- What a changeset of `total` operations is answered with. -/
def changesetAnswer (total : Nat) (responses : List Http.Response) :
    Option Http.Response → List Http.Response
  | none => responses
  | some r => [.ofErrorStatus r.status (changesetError (causeOf r) responses.length total)]

def answerPart (handler : Dispatcher ω) (base : String) : Part → StateM ω (List Http.Response)
  | .single o => do
    let r ← answerAlone handler base o
    return [r]
  | .changeset os => do
    let (rs, failing) ← answerUntilFailure handler base os
    return changesetAnswer os.length rs failing

/-- Answers parts one after the other. -/
def oneByOne (handler : Dispatcher ω) (base : String) : List Part → StateM ω (List Http.Response)
  | [] => pure []
  | p :: ps => do
    let here ← answerPart handler base p
    let behind ← oneByOne handler base ps
    return here ++ behind

/-- Parts in a row are answered in a row. -/
theorem oneByOne_append (handler : Dispatcher ω) (base : String) (ps qs : List Part) :
    oneByOne handler base (ps ++ qs) = do
      let front ← oneByOne handler base ps
      let behind ← oneByOne handler base qs
      return front ++ behind := by
  induction ps with
  | nil => simp [oneByOne]
  | cons p ps ih =>
    simp only [List.cons_append, oneByOne, ih, bind_assoc, pure_bind, List.append_assoc]

/-! ## Groups that complete in any order -/

/-- An order in which the operations of each group of a batch complete. A job is an operation with
its place in the group; the parts behind a group tell the groups of a batch apart. -/
structure Order where
  arrange : (behind : List Part) → (jobs : List (Operation × Nat)) → List (Operation × Nat)
  perm : ∀ behind jobs, (arrange behind jobs).Perm jobs

/-- The order of the body. -/
def Order.asListed : Order := ⟨fun _ jobs => jobs, fun _ jobs => .refl jobs⟩

/-- Answers jobs in the given order. Each result keeps the place of its operation. -/
def answerJobs (dispatch : Dispatcher (World σ)) (base : String) (jobs : List (Operation × Nat)) :
    StateM (World σ) (List (Except Failure Http.Response × Nat)) :=
  jobs.mapM fun job => do
    let x ← (answer dispatch base job.1).run
    return (x, job.2)

/-- Results in the order of their places. -/
def byPlace (results : List (α × Nat)) : List α :=
  (results.mergeSort fun a b => a.2 ≤ b.2).map Prod.fst

/-- `Batch.runReads`, with the operations completing in the given order. -/
def runReadsIn (order : Order) (dispatch : Dispatcher (World σ)) (base : String)
    (behind : List Part) (group : List Operation) : Action (World σ) (List Http.Response) := do
  let results ← (answerJobs dispatch base (order.arrange behind group.zipIdx) : StateM (World σ) _)
  match gather (byPlace results) with
  | .ok responses => pure responses
  | .error f => Action.fail f

/-- `Batch.runParts`, with the operations of each group completing in the given order. -/
def runPartsIn (order : Order) (dispatch : Dispatcher (World σ)) (base : String) :
    (group : List Operation) → List Part → Action (World σ) (List Http.Response)
  | group, [] => runReadsIn order dispatch base [] group
  | group, p :: ps =>
    match p.read? with
    | some o => runPartsIn order dispatch base (group ++ [o]) ps
    | none => do
      let before ← runReadsIn order dispatch base (p :: ps) group
      let here ← runPart dispatch base p
      let behind ← runPartsIn order dispatch base [] ps
      return before ++ here ++ behind

/-- `Batch.execute`, with the operations of each group completing in the given order. -/
def executeIn (order : Order) (dispatch : Dispatcher (World σ)) (base boundary body : String) :
    Action (World σ) (List Http.Response) := do
  let parts ← Action.ofRejection (parse boundary body)
  runPartsIn order dispatch base [] parts

/-! ### Places -/

/-- Results are told by their places, whatever order they come in. -/
theorem byPlace_perm {results : List (α × Nat)} {as : List α} (h : results.Perm as.zipIdx) :
    byPlace results = as := by
  -- sorted by place, the results are the list with its places again
  have hsorted : results.mergeSort (fun a b => a.2 ≤ b.2) = as.zipIdx := by
    have hlater : as.zipIdx.Pairwise fun a b => a.2 ≤ b.2 := by
      rw [List.pairwise_iff_getElem]
      intro i j hi hj hij
      simp only [List.getElem_zipIdx]
      omega
    refine List.Perm.eq_of_pairwise ?_ ?_ hlater ((List.mergeSort_perm _ _).trans h)
    · -- two entries of `as.zipIdx` with one place are one entry
      rintro ⟨a, i⟩ ⟨b, j⟩ ha hb (hij : i ≤ j) (hji : j ≤ i)
      obtain rfl : i = j := by omega
      have ha' := List.mem_zipIdx_iff_getElem?.1 (((List.mergeSort_perm _ _).trans h).mem_iff.1 ha)
      have hb' := List.mem_zipIdx_iff_getElem?.1 hb
      rw [ha'] at hb'
      exact congrArg (·, i) (Option.some.inj hb')
    · have hsort := @List.pairwise_mergeSort (α × Nat) (fun a b => decide (a.2 ≤ b.2))
        (by simp; omega) (by simp; omega) results
      simpa using hsort
  rw [byPlace, hsorted, List.zipIdx_map_fst]

/-- Jobs in the order of the body are answered like the operations without places. -/
theorem answerJobs_zipIdx (dispatch : Dispatcher (World σ)) (base : String)
    (group : List Operation) (start : Nat) :
    answerJobs dispatch base (group.zipIdx start) =
      (·.zipIdx start) <$> answerEach dispatch base group := by
  unfold answerJobs answerEach
  -- the places go along with the operations
  induction group generalizing start with
  | nil => simp
  | cons o os ih =>
    simp only [List.zipIdx_cons, List.mapM_cons, ih, bind_assoc, pure_bind, map_bind, map_pure,
      bind_map_left]

/-- Reads are answered as listed when that is the order of completion. -/
theorem runReads_eq (dispatch : Dispatcher (World σ)) (base : String) (behind : List Part)
    (group : List Operation) :
    runReads dispatch base group = runReadsIn .asListed dispatch base behind group := by
  have hplaces (rs : List (Except Failure Http.Response)) : byPlace rs.zipIdx = rs :=
    byPlace_perm (.refl _)
  simp only [runReadsIn, Order.asListed, answerJobs_zipIdx, liftM_map, bind_map_left, hplaces]
  rfl

/-- The parts are answered as listed when that is the order of completion. -/
theorem runParts_eq (dispatch : Dispatcher (World σ)) (base : String) (group : List Operation)
    (ps : List Part) :
    runParts dispatch base group ps = runPartsIn .asListed dispatch base group ps := by
  induction ps generalizing group with
  | nil => exact runReads_eq dispatch base [] group
  | cons p ps ih =>
    rw [runParts, runPartsIn]
    cases p.read? with
    | some o => exact ih _
    | none => simp only [ih, runReads_eq dispatch base (p :: ps)]

/-- A batch is answered as if the operations of each group completed in the order of the body. -/
theorem execute_eq_executeIn (dispatch : Dispatcher (World σ)) (base boundary body : String) :
    execute dispatch base boundary body = executeIn .asListed dispatch base boundary body := by
  simp only [execute, executeIn, runParts_eq]

/-! ## Requests for batches -/

/-- Two dispatchers give the same answers, requests for batches apart. -/
def AgreeOffBatches (dispatch dispatch' : Dispatcher ω) : Prop :=
  ∀ q, q.resource ≠ .batch → dispatch q = dispatch' q

/-- Only the path of batches names batches. -/
theorem isBatchPath_of_ofPath {path : String} (h : Route.ofPath path = .batch) :
    isBatchPath path = true := by
  -- behind a name nothing is a batch
  have hrest (name : String) (rest : List Char) : Route.ofRest name rest ≠ .batch := by
    unfold Route.ofRest
    split
    · simp
    · split
      · split <;> simp
      · split <;> simp
      · simp
  unfold Route.ofPath at h
  split at h
  · simp at h
  · split at h
    · simp at h
    · split at h
      · assumption
      · split at h
        · exact absurd h (hrest _ _)
        · simp at h

/-- A request that is not refused as a nested batch is none. -/
theorem resource_toRequest (r : PartRequest) {t : Url.Target} (h : ¬ isBatchPath t.path = true) :
    (r.toRequest t).resource ≠ .batch := by
  intro hbatch
  have hpath : isBatchPath (if t.path = "" then "/" else t.path) = true :=
    isBatchPath_of_ofPath hbatch
  -- an empty path is that of the service
  by_cases hempty : t.path = ""
  · have hroot : isBatchPath "/" = false := by decide
    rw [if_pos hempty, hroot] at hpath
    simp at hpath
  · rw [if_neg hempty] at hpath
    exact h hpath

/-- An operation is answered alike by handlers that agree off batches. -/
theorem answer_congr {dispatch dispatch' : Dispatcher ω} (h : AgreeOffBatches dispatch dispatch')
    (base : String) (o : Operation) : answer dispatch base o = answer dispatch' base o := by
  cases o with
  | unreadable cause => rfl
  | request r =>
    simp only [answer]
    cases Url.Target.ofUrl base r.url with
    | error fault => rfl
    | ok t =>
      by_cases hpath : isBatchPath t.path = true
      · simp only [hpath, if_true]
      · simp only [if_neg hpath, h _ (resource_toRequest r hpath)]

/-- A changeset is run alike by handlers that agree off batches. -/
theorem runOperations_congr {dispatch dispatch' : Dispatcher (World σ)}
    (h : AgreeOffBatches dispatch dispatch') (base : String) (total : Nat)
    (answered : List (Operation × Http.Response)) (os : List Operation) :
    runOperations dispatch base total answered os =
      runOperations dispatch' base total answered os := by
  induction os generalizing answered with
  | nil => rfl
  | cons o os ih => simp only [runOperations, answer_congr h, ih]

/-- A part is run alike by handlers that agree off batches. -/
theorem runPart_congr {dispatch dispatch' : Dispatcher (World σ)}
    (h : AgreeOffBatches dispatch dispatch') (base : String) (p : Part) :
    runPart dispatch base p = runPart dispatch' base p := by
  cases p with
  | single o => simp only [runPart, answer_congr h]
  | changeset os => simp only [runPart, runChangeset, runOperations_congr h]

/-- The parts are run alike by handlers that agree off batches. -/
theorem runPartsIn_congr {dispatch dispatch' : Dispatcher (World σ)}
    (h : AgreeOffBatches dispatch dispatch') (order : Order) (base : String)
    (group : List Operation) (ps : List Part) :
    runPartsIn order dispatch base group ps = runPartsIn order dispatch' base group ps := by
  have hreads (behind : List Part) (group : List Operation) :
      runReadsIn order dispatch base behind group =
        runReadsIn order dispatch' base behind group := by
    simp only [runReadsIn, answerJobs, answer_congr h]
  induction ps generalizing group with
  | nil => exact hreads [] group
  | cons p ps ih =>
    rw [runPartsIn, runPartsIn]
    cases p.read? with
    | some o => exact ih _
    | none => simp only [ih, hreads, runPart_congr h]

/-- A batch is answered the same however the dispatcher answers requests for batches: none of the
requests that reach it names one. -/
theorem executeIn_congr {dispatch dispatch' : Dispatcher (World σ)}
    (h : AgreeOffBatches dispatch dispatch') (order : Order) (base boundary body : String) :
    executeIn order dispatch base boundary body = executeIn order dispatch' base boundary body := by
  simp only [executeIn, runPartsIn_congr h]

/-! ## Operations with targets -/

/-- An operation with a target is answered, and as on its own. -/
theorem answer_eq (handler : Dispatcher ω) {base : String} {o : Operation}
    (h : o.HasTarget base) :
    answer handler base o = (answerAlone handler base o : StateM ω Http.Response) := by
  cases o with
  | unreadable cause => rfl
  | request r =>
    cases ht : Url.Target.ofUrl base r.url with
    | error fault => simp [Operation.HasTarget, Operation.urlFault?, ht] at h
    | ok t =>
      simp only [answer, answerAlone, ht]
      by_cases hpath : isBatchPath t.path = true
      · simp only [hpath, if_true]
        rfl
      · simp only [if_neg hpath]

/-! ## Orderly handlers -/

/-- A handler of single requests that does not see the log, and that changes nothing but the log
when it reads. -/
structure Orderly (handler : Dispatcher (World σ)) : Prop where
  blind : ∀ q, StateKeeps (Blind World.Alike) (handler q)
  reads : ∀ q : Http.Request, q.resource ≠ .batch → q.method = "GET" →
    StateKeeps (Along World.Alike) (handler q)

variable {handler : Dispatcher (World σ)} (hh : Orderly handler) (base : String)
include hh

/-- The answer to an operation does not depend on the log. -/
theorem answerAlone_blind (o : Operation) :
    StateKeeps (Blind World.Alike) (answerAlone handler base o) := by
  cases o with
  | unreadable cause => exact .pure _
  | request r =>
    simp only [answerAlone]
    split
    · exact .pure _
    · split
      · exact .pure _
      · exact hh.blind _

/-- An operation that reads leads to a world like the one in front of it. -/
theorem answerAlone_reads {o : Operation} (h : o.isRead = true) :
    StateKeeps (Along World.Alike) (answerAlone handler base o) := by
  cases o with
  | unreadable cause => exact .pure _
  | request r =>
    simp only [answerAlone]
    split
    · exact .pure _
    · next t _ =>
      split
      · exact .pure _
      · next hpath =>
        -- only requests with this verb are read
        have hget : r.method = "GET" := by simpa [Operation.isRead] using h
        have hmethod : (r.toRequest t).method = "GET" := by
          change Text.upper r.method = "GET"
          rw [hget]
          decide
        exact hh.reads _ (resource_toRequest r hpath) hmethod

/-- In worlds that are alike an operation that reads is answered alike. -/
theorem run_answerAlone {o : Operation} (h : o.isRead = true) {w v : World σ} (hv : w.Alike v) :
    ((answerAlone handler base o).run v).1 = ((answerAlone handler base o).run w).1 ∧
      w.Alike ((answerAlone handler base o).run v).2 :=
  ⟨(answerAlone_blind hh base o w v hv).1.symm, hv.trans (answerAlone_reads hh base h v)⟩

/-- Each operation of a group that reads is answered as in the world in front of the group. -/
theorem run_oneByOne_reads {group : List Operation} (h : ∀ o ∈ group, o.isRead = true)
    {w v : World σ} (hv : w.Alike v) :
    ((oneByOne handler base (group.map .single)).run v).1 =
        group.map (fun o => ((answerAlone handler base o).run w).1) ∧
      w.Alike ((oneByOne handler base (group.map .single)).run v).2 := by
  -- every read leaves the store alike, so the next one is answered as if it were alone
  induction group generalizing v with
  | nil => exact ⟨rfl, hv⟩
  | cons o os ih =>
    obtain ⟨hanswer, hnext⟩ := run_answerAlone hh base (h o List.mem_cons_self) hv
    obtain ⟨hanswers, hend⟩ := ih (fun o' ho' => h o' (List.mem_cons_of_mem o ho')) hnext
    refine ⟨?_, hend⟩
    simp only [List.map_cons, ← hanswer, ← hanswers]
    rfl

/-- The same for jobs in any order. -/
theorem run_answerJobs {jobs : List (Operation × Nat)}
    (hread : ∀ j ∈ jobs, j.1.isRead = true) (htarget : ∀ j ∈ jobs, j.1.HasTarget base)
    {w v : World σ} (hv : w.Alike v) :
    ((answerJobs handler base jobs).run v).1 =
        jobs.map (fun j => (.ok ((answerAlone handler base j.1).run w).1, j.2)) ∧
      w.Alike ((answerJobs handler base jobs).run v).2 := by
  induction jobs generalizing v with
  | nil => exact ⟨rfl, hv⟩
  | cons j js ih =>
    obtain ⟨hanswer, hnext⟩ := run_answerAlone hh base (hread j List.mem_cons_self) hv
    obtain ⟨hanswers, hend⟩ := ih (fun j' hj' => hread j' (List.mem_cons_of_mem j hj'))
      (fun j' hj' => htarget j' (List.mem_cons_of_mem j hj')) hnext
    -- the URL can be split, so the operation does not fail
    have hjob : (answer handler base j.1).run =
        Except.ok <$> answerAlone handler base j.1 := by
      rw [answer_eq handler (htarget j List.mem_cons_self)]
      rfl
    have hrun : (answerJobs handler base (j :: js)).run v =
        ((.ok ((answerAlone handler base j.1).run v).1, j.2) ::
            ((answerJobs handler base js).run ((answerAlone handler base j.1).run v).2).1,
          ((answerJobs handler base js).run ((answerAlone handler base j.1).run v).2).2) := by
      rw [answerJobs, List.mapM_cons, hjob]
      rfl
    rw [hrun, List.map_cons, ← hanswer, ← hanswers]
    exact ⟨rfl, hend⟩

omit hh in
/-- Without failures all responses are gathered. -/
theorem gather_ok (rs : List Http.Response) : gather (rs.map .ok) = .ok rs := by
  induction rs with
  | nil => rfl
  | cons r rs ih => rw [List.map_cons, gather, ih]; rfl

/-! ## Actions that follow a computation -/

omit hh

/-- From worlds that differ in their logs the action succeeds with the result of the computation,
and they end in worlds that differ in their logs. -/
def Follows (m : StateM (World σ) α) (a : Action (World σ) α) : Prop :=
  ∀ w w', w.Alike w' → ∃ v', a.exec w' = (.ok (m.run w).1, v') ∧ (m.run w).2.Alike v'

theorem Follows.pure (x : α) : Follows (Pure.pure x) (Pure.pure x : Action (World σ) α) :=
  fun _ w' h => ⟨w', rfl, h⟩

/-- What follows goes on in step. -/
theorem Follows.bind {m : StateM (World σ) α} {a : Action (World σ) α}
    {f : α → StateM (World σ) β} {g : α → Action (World σ) β} (h : Follows m a)
    (hf : ∀ x, Follows (f x) (g x)) : Follows (m >>= f) (a >>= g) := by
  intro w w' hw
  obtain ⟨v', ha, hv⟩ := h w w' hw
  obtain ⟨u', hg, hu⟩ := hf _ _ v' hv
  exact ⟨u', (exec_bind_ok ha).trans hg, hu⟩

/-- What does not see the log follows itself. -/
theorem Follows.lift {m : StateM (World σ) α} (h : StateKeeps (Blind World.Alike) m) :
    Follows m (m : Action (World σ) α) := by
  intro w w' hw
  obtain ⟨hresult, hstate⟩ := h w w' hw
  exact ⟨_, congrArg (fun x => (Except.ok x, (m.run w').2)) hresult.symm, hstate⟩

/-- What changes nothing but the log may come in front. -/
theorem Follows.behind {m : StateM (World σ) α} {a : Action (World σ) α}
    {front : StateM (World σ) Unit} (hfront : StateKeeps (Along World.Alike) front)
    (h : Follows m a) : Follows m ((front : Action (World σ) Unit) >>= fun _ => a) :=
  fun w w' hw => h w (front.run w').2 (hw.trans (hfront w'))

/-! ## A batch follows its parts one by one -/

include hh

/-- The answer to an operation follows the answer to it alone. -/
theorem answer_follows {o : Operation} (h : o.HasTarget base) :
    Follows (answerAlone handler base o) (answer handler base o) := by
  rw [answer_eq handler h]
  exact .lift (answerAlone_blind hh base o)

/-- In whatever order a group completes, its responses are those of its operations one by one. -/
theorem runReadsIn_follows (order : Order) (behind : List Part) {group : List Operation}
    (hread : ∀ o ∈ group, o.isRead = true) (htarget : ∀ o ∈ group, o.HasTarget base) :
    Follows (oneByOne handler base (group.map .single))
      (runReadsIn order handler base behind group) := by
  intro w w' hw
  have hperm := order.perm behind group.zipIdx
  have hmem {j : Operation × Nat} (hj : j ∈ order.arrange behind group.zipIdx) : j.1 ∈ group :=
    List.fst_mem_of_mem_zipIdx (hperm.mem_iff.1 hj)
  obtain ⟨hresults, hstate⟩ := run_answerJobs hh base (fun _ hj => hread _ (hmem hj))
    (fun _ hj => htarget _ (hmem hj)) hw
  obtain ⟨hresponses, halone⟩ := run_oneByOne_reads hh base hread (World.Alike.refl w)
  -- in whatever order they complete, the responses are put back in their places
  have hplaces : byPlace ((answerJobs handler base (order.arrange behind group.zipIdx)).run w').1 =
      (group.map fun o => ((answerAlone handler base o).run w).1).map .ok := by
    refine byPlace_perm ?_
    rw [hresults]
    refine (hperm.map _).trans (.of_eq ?_)
    rw [List.map_map, List.zipIdx_map]
    rfl
  refine ⟨_, ?_, halone.symm.trans hstate⟩
  rw [runReadsIn, exec_bind_ok (exec_lift _ w'), hplaces, gather_ok, hresponses]
  rfl

/-- A changeset whose operations up to here succeeded goes on as the rest of its operations. -/
theorem runOperations_follows {os : List Operation} (h : ∀ o ∈ os, o.HasTarget base) (total : Nat)
    (answered : List (Operation × Http.Response)) :
    Follows
      (do
        let (rs, failing) ← answerUntilFailure handler base os
        return changesetAnswer total (answered.map Prod.snd ++ rs) failing)
      (do
        let outcome ← runOperations handler base total answered os
        return outcome.responses) := by
  induction os generalizing answered with
  | nil =>
    simp only [answerUntilFailure, runOperations, pure_bind, List.append_nil]
    exact .pure _
  | cons o os ih =>
    simp only [answerUntilFailure, runOperations, bind_assoc]
    refine .bind (answer_follows hh base (h o List.mem_cons_self)) fun r => ?_
    -- a failure ends the changeset; else the next operation is run
    by_cases hr : failed r = true
    · simp only [hr, if_true, pure_bind, bind_assoc, List.append_nil]
      refine .behind (keeps_rollback _) (.behind (Reporting.report _ _ _) ?_)
      have hanswer : changesetAnswer total (answered.map Prod.snd) (some r) =
          (abortedOutcome r answered.length total).responses := by
        simp [changesetAnswer, abortedOutcome]
      rw [hanswer]
      exact .pure _
    · have hrest := ih (fun o' ho' => h o' (List.mem_cons_of_mem o ho')) (answered ++ [(o, r)])
      simpa [hr] using hrest

/-- The run of a part follows the answer to it alone. -/
theorem runPart_follows {p : Part} (h : p.HasTargets base) :
    Follows (answerPart handler base p) (runPart handler base p) := by
  cases p with
  | single o =>
    exact .bind (answer_follows hh base (h o (List.mem_singleton_self o))) fun r => .pure _
  | changeset os => exact runOperations_follows hh base h os.length []

/-- Parts behind a group that waits are answered like the group and the parts, one by one. -/
theorem runPartsIn_follows (order : Order) (group : List Operation) {ps : List Part}
    (hread : ∀ o ∈ group, o.isRead = true) (hgroup : ∀ o ∈ group, o.HasTarget base)
    (h : ∀ p ∈ ps, p.HasTargets base) :
    Follows (oneByOne handler base (group.map .single ++ ps))
      (runPartsIn order handler base group ps) := by
  -- by induction on the parts that are left, with the group that waits in front of them
  induction ps generalizing group with
  | nil =>
    rw [List.append_nil]
    exact runReadsIn_follows hh base order [] hread hgroup
  | cons p ps ih =>
    have hrest : ∀ p' ∈ ps, p'.HasTargets base := fun p' hp' => h p' (List.mem_cons_of_mem p hp')
    rw [runPartsIn]
    cases hp : p.read? with
    | some o =>
      -- the operation joins the group
      obtain ⟨rfl, ho⟩ := eq_single_of_read? hp
      have htarget : o.HasTarget base := h _ List.mem_cons_self o (List.mem_singleton_self o)
      have hjoined := ih (group ++ [o])
        (by simpa [or_imp, forall_and] using ⟨hread, ho⟩)
        (by simpa [or_imp, forall_and] using ⟨hgroup, htarget⟩) hrest
      simpa using hjoined
    | none =>
      -- the group completes, then the part is answered, and a new group begins
      rw [oneByOne_append]
      simp only [oneByOne, bind_assoc, pure_bind]
      refine .bind (runReadsIn_follows hh base order (p :: ps) hread hgroup) fun before => ?_
      refine .bind (runPart_follows hh base (h p List.mem_cons_self)) fun here => ?_
      have hbehind := ih [] (by simp) (by simp) hrest
      refine .bind hbehind fun behind => ?_
      rw [List.append_assoc]
      exact .pure _

theorem executeIn_follows (order : Order) {boundary body : String} {ps : List Part}
    (hparse : parse boundary body = .ok ps) (h : ∀ p ∈ ps, p.HasTargets base) :
    Follows (oneByOne handler base ps) (executeIn order handler base boundary body) := by
  intro w w' hw
  have hparts := runPartsIn_follows hh base order [] (by simp) (by simp) h
  obtain ⟨v', hrun, hv⟩ := hparts w w' hw
  exact ⟨v', (exec_bind_ok (exec_ofRejection_ok hparse w')).trans hrun, hv⟩

end ODataService.Batch

namespace ODataService.Service

open Batch

/-- The handler of requests to records in memory is orderly. -/
theorem handle_orderly (settings : Settings) : Orderly (inMemory settings).handle where
  blind := handle_blind settings
  reads _ hq hm := handle_reads settings hq (.inl hm)

theorem route_congr {σ : Type} (s : Service σ) (batch batch' : Responder σ) {q : Http.Request}
    (hq : q.resource ≠ .batch) : s.route batch q = s.route batch' q := by
  unfold route
  dsimp only
  split
  · rfl
  · cases hr : Route.ofPath (if q.path = "" then "/" else q.path) with
    | batch => exact absurd hr hq
    | _ => rfl

/-- Inside of a batch the service answers requests as on their own, batches apart. -/
theorem handlePart_agrees {σ : Type} (s : Service σ) : AgreeOffBatches s.handlePart s.handle :=
  fun q hq => by simp only [handlePart, handle, answering, s.route_congr _ s.replyBatch hq]

/-- A batch whose URLs can be read is answered as if its parts came one at a time, each on its own:
with the same responses, and leading to the same records, identifiers and stamps. The operations
that read may complete in any order, and it does not matter how the dispatcher answers requests for
batches, since none of those that reach it names one. -/
theorem execute_eq_oneByOne (settings : Settings) (w : World Store) {base boundary body : String}
    {ps : List Part} (hparse : parse boundary body = .ok ps) (h : ∀ p ∈ ps, p.HasTargets base) :
    ∃ rs w₀, (oneByOne (inMemory settings).handle base ps).run w = (rs, w₀) ∧
      ∀ dispatch, AgreeOffBatches dispatch (inMemory settings).handle →
        (∃ w', (execute dispatch base boundary body).exec w = (.ok rs, w') ∧ w₀.Alike w') ∧
        ∀ order, ∃ w', (executeIn order dispatch base boundary body).exec w = (.ok rs, w') ∧
          w₀.Alike w' := by
  refine ⟨_, _, rfl, fun dispatch hd => ?_⟩
  have hany (order : Order) : ∃ w',
      (executeIn order dispatch base boundary body).exec w =
          (.ok ((oneByOne (inMemory settings).handle base ps).run w).1, w') ∧
        ((oneByOne (inMemory settings).handle base ps).run w).2.Alike w' := by
    rw [executeIn_congr hd]
    exact executeIn_follows (handle_orderly settings) base order hparse h w w (.refl w)
  refine ⟨?_, hany⟩
  rw [execute_eq_executeIn]
  exact hany .asListed

/-- A batch of two reads, a changeset, a nested batch and a part without a request. -/
def mixedBody : String :=
  "--b\r\n\r\nGET A\r\n--b\r\n\r\nGET A('1')\r\n" ++
  "--b\r\nContent-Type:multipart/mixed;boundary=c\r\n\r\n--c\r\n\r\nDELETE A('1')\r\n--c--\r\n" ++
  "--b\r\n\r\nGET $batch\r\n--b\r\n\r\nGET\r\n--b--"

def mixedParts : List Part :=
  [.single (.request ⟨"GET", "A", [], ""⟩), .single (.request ⟨"GET", "A('1')", [], ""⟩),
    .changeset [.request ⟨"DELETE", "A('1')", [], ""⟩],
    .single (.request ⟨"GET", "$batch", [], ""⟩), .single (.unreadable .noRequestLine)]

/-- The service answers a batch as it answers the parts one by one. -/
theorem execute_eq_oneByOne_mixed :
    ∃ rs w₀ w',
      (oneByOne (inMemory {}).handle "/odata" mixedParts).run
        (Store.oneRecord Store.lastMillisecond) = (rs, w₀) ∧
      (execute (inMemory {}).handlePart "/odata" "b" mixedBody).exec
        (Store.oneRecord Store.lastMillisecond) = (.ok rs, w') ∧
      w₀.Alike w' := by
  have hparse : parse "b" mixedBody = .ok mixedParts := by decide +kernel
  obtain ⟨rs, w₀, hrun, h⟩ := execute_eq_oneByOne {} (Store.oneRecord Store.lastMillisecond) hparse
    (by decide +kernel : ∀ p ∈ mixedParts, p.HasTargets "/odata")
  obtain ⟨⟨w', hbatch, halike⟩, -⟩ := h _ (handlePart_agrees _)
  exact ⟨rs, w₀, w', hrun, hbatch, halike⟩

end ODataService.Service
