import ODataService.Proofs.Service.Routes

/-!
# What a request comes to

All that a request which is no batch can do to the store in memory, with the response that goes with
it (`Service.Outcome`). Facts about single requests and about runs of requests are case analyses
over it.

An update sets the properties of the record before it takes the stamp of the write. Where no stamp
is left, because the last one is the last millisecond of the calendar or the clock shows no time,
the request fails and the properties stay changed (`FindsNoStamp`).
-/

namespace ODataService.Service

open ODataService.Action

variable {settings : Settings} {w w' : World Store} {set key : String} {q : Http.Request}
  {r : Http.Response} {old data : Record}

/-- The request changes a record, passes all checks and finds the record, but no stamp is left. -/
structure FindsNoStamp (settings : Settings) (q : Http.Request) (s : Store) (set key : String)
    (old data : Record) : Prop where
  method : q.method = "PUT" ∨ q.method = "PATCH"
  addresses : q.Addresses set key
  declared : s.declares set = true
  stored : s.record? set key = some old
  body : Content.readRecord q.body.toText = .ok data
  condition : Meets settings q old
  noStamp : s.stampFault? ≠ none

/-- The response to an update that has changed a record. -/
def changedResponse (settings : Settings) (set : String) (r : Record) (tag : String) :
    Http.Response :=
  .json 200 (recordBody settings set r) (tagHeaders settings tag)

/-- What a request does to a store `s`, which becomes `s'`, and its response. -/
inductive Outcome (settings : Settings) (q : Http.Request) (s s' : Store) : Http.Response → Prop
  /-- The request fails and nothing changes. -/
  | refused (e : ErrorBody) (h : s.SameData s') : Outcome settings q s s' (.ofError e)
  /-- The request reads. -/
  | read (r : Http.Response) (hm : q.method = "GET" ∨ q.method = "OPTIONS") (h : s' = s) :
      Outcome settings q s s' r
  /-- The request is an update that finds no stamp. -/
  | unstamped {set key : String} {old data : Record} (fault : Time.RangeFault)
      (hfind : FindsNoStamp settings q s set key old data)
      (h : s' = s.changeUnstamped set (s.rows set) key old data) :
      Outcome settings q s s' (.ofError ((Failure.noStamp fault).toErrorBody settings.debug))
  /-- A record is added. -/
  | created {set id : String} {data : Record} {tag : String} (hm : q.method = "POST")
      (hr : q.resource = .collection set) (h : s.Inserted set data id s')
      (htag : EntityTag.ofRecord (Store.newRecord data id s.stamp) = .ok tag) :
      Outcome settings q s s' (createdResponse settings set (Store.newRecord data id s.stamp) tag)
  /-- A record is changed. -/
  | changed {set key : String} {old data : Record} {tag : String}
      (hm : q.method = "PUT" ∨ q.method = "PATCH") (ha : q.Addresses set key)
      (hd : s.declares set = true) (hr : s.record? set key = some old)
      (hstamp : s.stampFault? = none) (h : s' = (s.change set (s.rows set) key old data).2)
      (htag : EntityTag.ofRecord (Store.changedRecord old data s.stamp) = .ok tag) :
      Outcome settings q s s'
        (changedResponse settings set (Store.changedRecord old data s.stamp) tag)
  /-- A record is removed. -/
  | removed {set key : String} {old : Record} (hm : q.method = "DELETE")
      (ha : q.Addresses set key) (hd : s.declares set = true) (hr : s.record? set key = some old)
      (h : s' = s.setTable set (Assoc.erase (s.rows set) key)) :
      Outcome settings q s s' (.empty 204 [])

/-! ## From the action to the response -/

/-- The action that answers a request. -/
def routed (settings : Settings) (q : Http.Request) : Action (World Store) Http.Response :=
  (inMemory settings).route (inMemory settings).replyBatch q

/-- A response of the route is the answer. -/
theorem run_handle_ok (h : (routed settings q).exec w =
    (.ok r, w')) : ((inMemory settings).handle q).run w = (r, w') :=
  run_answering_ok h

/-- A failure of the route becomes an error response, and the store stays as the route left it. -/
theorem run_handle_error {f : Failure}
    (h : (routed settings q).exec w = (.error f, w')) :
    ∃ w'', ((inMemory settings).handle q).run w =
        (.ofError (f.toErrorBody settings.debug), w'') ∧ w''.store = w'.store :=
  run_answering_error h

/-- The store after a request is the store after the action of its route. -/
theorem store_run_handle (settings : Settings) (q : Http.Request) (w : World Store) :
    (((inMemory settings).handle q).run w).2.store =
      ((routed settings q).exec w).2.store := by
  rcases h : (routed settings q).exec w with ⟨x, w'⟩
  cases x with
  | ok r => rw [run_handle_ok h]
  | error f =>
    obtain ⟨w'', hrun, hstore⟩ := run_handle_error h
    rw [hrun, hstore]

/-- A request comes to an outcome. -/
def Comes (settings : Settings) (q : Http.Request) (w : World Store) : Prop :=
  Outcome settings q w.store (((inMemory settings).handle q).run w).2.store
    (((inMemory settings).handle q).run w).1

/-- A failure that leaves the data as they were is a refusal. -/
theorem comes_of_error {f : Failure}
    (h : (routed settings q).exec w = (.error f, w'))
    (hsame : w.store.SameData w'.store) : Comes settings q w := by
  obtain ⟨w'', hrun, hstore⟩ := run_handle_error h
  rw [Comes, hrun]
  exact .refused _ (hsame.trans (.of_eq hstore))

/-- A request to add a record adds it, or it is refused. -/
theorem comes_create (hm : q.method = "POST") (hr : q.resource = .collection set)
    (hd : w.store.declares set = true) : Comes settings q w := by
  have hroute : (routed settings q).exec w = _ := exec_route_create hm hd hr
  cases hb : Content.readRecord q.body.toText with
  | error e =>
    rw [exec_replyCreate_unread hb] at hroute
    exact comes_of_error hroute (.refl _)
  | ok data =>
    rcases exec_replyCreate settings set w hb with
      ⟨id, tag, w', hreply, hins, htag⟩ | ⟨f, w', hreply, hsame⟩
    · rw [hreply] at hroute
      rw [Comes, run_handle_ok hroute]
      exact .created hm hr hins htag
    · rw [hreply] at hroute
      exact comes_of_error hroute hsame

/-- A request to change a record changes it, is refused, or finds no stamp. -/
theorem comes_update (hs : w.store.Sound) (hm : q.method = "PUT" ∨ q.method = "PATCH")
    (ha : q.Addresses set key) (hd : w.store.declares set = true) : Comes settings q w := by
  have hroute : (routed settings q).exec w = _ := exec_route_update hm hd ha
  cases hb : Content.readRecord q.body.toText with
  | error e =>
    rw [exec_replyUpdate_unread hb] at hroute
    exact comes_of_error hroute (.refl _)
  | ok data =>
    cases hr : w.store.record? set key with
    | none =>
      rw [exec_replyUpdate_gone hb hd hr] at hroute
      exact comes_of_error hroute (.refl _)
    | some old =>
      by_cases hmet : Meets settings q old
      · cases hstamp : w.store.stampFault? with
        | none =>
          -- the record has a new stamp, hence a tag for the response
          have hupdated := Store.get?_changedRecord_updated old data w.store.stamp
          obtain ⟨tag, htag⟩ := EntityTag.exists_tag hupdated
          rw [exec_replyUpdate hb hd hr hmet hstamp htag] at hroute
          rw [Comes, run_handle_ok hroute]
          exact .changed hm ha hd hr hstamp rfl htag
        | some fault =>
          -- the properties are stored already when the stamp is refused
          rw [exec_replyUpdate_unstamped hb hd hr hmet hstamp] at hroute
          obtain ⟨w', hrun, hstore⟩ := run_handle_error hroute
          have hnoStamp : w.store.stampFault? ≠ none := by simp [hstamp]
          rw [Comes, hrun]
          exact .unstamped fault ⟨hm, ha, hd, hr, hb, hmet, hnoStamp⟩ hstore
      · obtain ⟨tag, htag⟩ := hs.exists_tag hr
        -- the condition is checked before anything is written
        rw [exec_replyUpdate_unmet hb hd hr htag hmet] at hroute
        exact comes_of_error hroute (.refl _)

/-- A request to remove a record removes it, or it is refused. -/
theorem comes_delete (hs : w.store.Sound) (hm : q.method = "DELETE") (ha : q.Addresses set key)
    (hd : w.store.declares set = true) : Comes settings q w := by
  have hroute : (routed settings q).exec w = _ := exec_route_delete hm hd ha
  cases hr : w.store.record? set key with
  | none =>
    rw [exec_replyDelete_gone hd hr] at hroute
    exact comes_of_error hroute (.refl _)
  | some old =>
    by_cases hmet : Meets settings q old
    · rw [exec_replyDelete hd hr hmet] at hroute
      rw [Comes, run_handle_ok hroute]
      exact .removed hm ha hd hr rfl
    · obtain ⟨tag, htag⟩ := hs.exists_tag hr
      rw [exec_replyDelete_unmet hd hr htag hmet] at hroute
      exact comes_of_error hroute (.refl _)

/-- Every request that is no batch comes to one of the outcomes. -/
theorem handle_outcome (hs : w.store.Sound) (hq : q.resource ≠ .batch)
    (h : ((inMemory settings).handle q).run w = (r, w')) :
    Outcome settings q w.store w'.store r := by
  have hcomes : Comes settings q w := by
    -- requests that read are told by the method, and the others by their routes
    by_cases hm : q.method = "GET" ∨ q.method = "OPTIONS"
    · have hreads : SameStore w ((routed settings q).exec w).2 := route_reads settings _ w hq hm
      exact .read _ hm ((store_run_handle settings q w).trans hreads)
    · rw [not_or] at hm
      rcases route_cases settings (inMemory settings).replyBatch w hq hm.1 hm.2 with
        ⟨f, hf⟩ | ⟨set, hpost, hr, hd⟩ | ⟨set, key, hup, ha, hd⟩ | ⟨set, key, hdel, ha, hd⟩
      · exact comes_of_error hf (.refl _)
      · exact comes_create hpost hr hd
      · exact comes_update hs hup ha hd
      · exact comes_delete hs hdel ha hd
  rwa [Comes, h] at hcomes

end ODataService.Service
