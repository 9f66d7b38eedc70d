import ODataService.Proofs.Service.Outcome

/-!
# What a request leaves unchanged

A request that is no batch and fails leaves the store as it is, and so does one that only reads. A
request that succeeds in writing adds, changes or removes one record and touches nothing else.

There is one exception. An update sets the properties of the record before it takes the stamp of the
write. Where no stamp is left, because the last one is the last millisecond of the calendar or the
clock shows no time, the request fails and the properties stay changed (`FindsNoStamp`).

Main result: `Service.handle_frame`.
-/

namespace ODataService.Service

open ODataService.Action

variable {settings : Settings} {w w' : World Store} {set key : String} {q : Http.Request}
  {r : Http.Response} {old data : Record}

/-! ## Where no stamp is left -/

/-- A change that finds no stamp is answered as an internal error, and the properties have
changed. -/
theorem FindsNoStamp.run_handle (h : FindsNoStamp settings q w.store set key old data) :
    ∃ fault w', ((inMemory settings).handle q).run w =
        (.ofError ((Failure.noStamp fault).toErrorBody settings.debug), w') ∧
      w'.store = w.store.changeUnstamped set (w.store.rows set) key old data := by
  obtain ⟨fault, hfault⟩ := Option.ne_none_iff_exists'.mp h.noStamp
  have hroute : (routed settings q).exec w = _ :=
    exec_route_update h.method h.declared h.addresses
  rw [exec_replyUpdate_unstamped h.body h.declared h.stored h.condition hfault] at hroute
  obtain ⟨w', hrun, hstore⟩ := run_handle_error hroute
  exact ⟨fault, w', hrun, hstore⟩

/-- A change that leaves the record as it was leaves everything as it was. -/
theorem sameData_iff_of_changed {s s' : Store} {new : Record} (h : s.Changed s' set key old new)
    (hlast : s'.lastStamp = s.lastStamp) : s.SameData s' ↔ new = old := by
  constructor
  · intro hsame
    -- the record itself is data
    have hnew : s'.record? set key = some new := h.rows.get?_self
    have hold : s.record? set key = some old := h.rows.get?_old
    rw [hsame.record?_eq, hold] at hnew
    exact (Option.some.inj hnew).symm
  · intro heq
    have hrows := h.rows.eq_iff.mpr heq
    exact ⟨h.types, h.tables.eq_iff.mpr hrows, hlast⟩

/-! ## The frame -/

/-- What a request that answers with success has done, by its method: it has added a record under a
free identifier, changed the record it addresses but for its identifiers and the time of its
creation, or removed the record it addresses, and everything else is as it was. -/
structure Wrote (q : Http.Request) (s s' : Store) : Prop where
  post : q.method = "POST" →
    ∃ set id new, q.resource = .collection set ∧ s.Added s' set id new
  update : q.method = "PUT" ∨ q.method = "PATCH" →
    ∃ set key old new, q.Addresses set key ∧ s.Changed s' set key old new ∧
      ∀ k ∈ ["_id", "id", "created_at"], Keyed.get? new k = Keyed.get? old k
  delete : q.method = "DELETE" →
    ∃ set key old, q.Addresses set key ∧ s.Removed s' set key old

/-- A change keeps the identifier and the stamp of creation. -/
theorem get?_changedRecord_of_mem {k : String} (hk : k ∈ ["_id", "id", "created_at"])
    (old data : Record) (stamp : Json) :
    Keyed.get? (Store.changedRecord old data stamp) k = Keyed.get? old k := by
  have hmem : k ∈ Store.systemFields ∧ k ≠ "updated_at" := by
    simp only [List.mem_cons, List.not_mem_nil, or_false] at hk
    rcases hk with rfl | rfl | rfl <;> decide
  exact Store.get?_changedRecord hmem.1 hmem.2 old data stamp

/-- A request that comes to success has written what its method says. -/
theorem Outcome.wrote {s s' : Store} (hs : s.Sound) (h : Outcome settings q s s' r)
    (hstatus : 200 ≤ r.status ∧ r.status < 300) : Wrote q s s' := by
  -- an error response has no status of a success
  have herror : ∀ e : ErrorBody, ¬ (200 ≤ e.status ∧ e.status < 300) := by
    intro e he
    have := e.status_ge
    omega
  cases h with
  | refused e _ => exact absurd hstatus (herror e)
  | unstamped fault => exact absurd hstatus (herror _)
  | read r hm hstore =>
    -- neither method writes
    constructor
    · intro hpost
      rcases hm with hm | hm <;> simp [hm] at hpost
    · intro hupdate
      rcases hm with hm | hm <;> simp [hm] at hupdate
    · intro hdelete
      rcases hm with hm | hm <;> simp [hm] at hdelete
  -- each write says of its own method what changed, and the other methods are excluded
  | created hm hr hins htag =>
    constructor
    · exact fun _ => ⟨_, _, _, hr, hs.added hins⟩
    · intro hupdate
      simp [hm] at hupdate
    · intro hdelete
      simp [hm] at hdelete
  | changed hm ha hd hr hstamp hstore htag =>
    constructor
    · intro hpost
      rcases hm with hm | hm <;> simp [hm] at hpost
    · intro _
      exact ⟨_, _, _, _, ha, (hs.changedStamped hd hr hstore).1,
        fun k hk => get?_changedRecord_of_mem hk _ _ _⟩
    · intro hdelete
      rcases hm with hm | hm <;> simp [hm] at hdelete
  | removed hm ha hd hr hstore =>
    constructor
    · intro hpost
      simp [hm] at hpost
    · intro hupdate
      simp [hm] at hupdate
    · exact fun _ => ⟨_, _, _, ha, (hs.removed hd hr hstore).1⟩

/-- **The frame of a request.** A request that is no batch and fails, or only reads, leaves
declarations, tables and the last stamp as they are, unless it is an update that finds no stamp. A
request that is answered with success has written one record, by its method. An update that finds
no stamp is answered with status 500 and has changed the properties of its record all the same. -/
theorem handle_frame (settings : Settings) {w w' : World Store} (hw : Store.Reachable w)
    {q : Http.Request} (hq : q.resource ≠ .batch) {r : Http.Response}
    (h : ((inMemory settings).handle q).run w = (r, w')) :
    ((400 ≤ r.status ∨ q.method = "GET" ∨ q.method = "OPTIONS") →
      (¬ ∃ set key old data, FindsNoStamp settings q w.store set key old data) →
      w.store.SameData w'.store) ∧
    (200 ≤ r.status ∧ r.status < 300 → Wrote q w.store w'.store) ∧
    ∀ set key old data, FindsNoStamp settings q w.store set key old data →
      r.status = 500 ∧ w.store.Changed w'.store set key old (Store.mergedRecord old data) ∧
        (w.store.SameData w'.store ↔ Store.mergedRecord old data = old) := by
  have hs := hw.sound
  have houtcome := handle_outcome hs hq h
  refine ⟨?_, ?_, ?_⟩
  · intro hstatus hstamps
    cases houtcome with
    | refused e hsame => exact hsame
    | read r hm hstore => exact .of_eq hstore
    -- the one way in which a request fails and something changes
    | unstamped fault hfind hstore => exact absurd ⟨_, _, _, _, hfind⟩ hstamps
    -- writes that succeed have other statuses and methods
    | created hm => exact absurd hstatus (by simp [createdResponse, Http.Response.json, hm])
    | changed hm =>
      refine absurd hstatus ?_
      rcases hm with hm | hm <;> simp [changedResponse, Http.Response.json, hm]
    | removed hm => exact absurd hstatus (by simp [Http.Response.empty, hm])
  · intro hstatus
    exact houtcome.wrote hs hstatus
  · intro set key old data hfind
    obtain ⟨fault, w'', hrun, hstore⟩ := hfind.run_handle
    obtain ⟨rfl, rfl⟩ := Prod.mk.inj (h.symm.trans hrun)
    obtain ⟨hchanged, hlast⟩ := hs.changedUnstamped hfind.declared hfind.stored data
    rw [← hstore] at hchanged hlast
    exact ⟨status_noStamp settings.debug fault, hchanged, sameData_iff_of_changed hchanged hlast⟩

/-- A request that changes the record of `Store.oneRecord`. -/
def lateChange : Http.Request :=
  { method := "PATCH", path := "/A('1')", body := .text "\x7b\"n\":2\x7d" }

/-- The late change is a request that finds no stamp. -/
theorem findsNoStamp_lateChange :
    FindsNoStamp {} lateChange (Store.oneRecord Store.lastMillisecond).store "A" "1"
      Store.lastRecord [(.str "n", .int 2)] where
  method := .inr rfl
  addresses := ⟨"'1'", by decide +kernel, rfl⟩
  declared := by decide
  stored := Store.record?_oneRecord
  body := rfl
  condition ifMatch h := by simp [lateChange, condition?, Http.Request.header?, Assoc.get?] at h
  noStamp := by simp [Store.stampFault?_oneRecord]

/-- A change in the last millisecond is refused, and made all the same. -/
theorem handle_frame_late_change :
    ∃ r w', ((inMemory {}).handle lateChange).run (Store.oneRecord Store.lastMillisecond) =
        (r, w') ∧
      r.status = 500 ∧ ¬ (Store.oneRecord Store.lastMillisecond).store.SameData w'.store := by
  rcases h : ((inMemory {}).handle lateChange).run (Store.oneRecord Store.lastMillisecond)
    with ⟨r, w'⟩
  have hq : lateChange.resource ≠ .batch := by decide +kernel
  obtain ⟨-, -, hframe⟩ := handle_frame {} (Store.reachable_oneRecord _) hq h
  obtain ⟨hstatus, -, hsame⟩ := hframe _ _ _ _ findsNoStamp_lateChange
  refine ⟨r, w', rfl, hstatus, fun hdata => ?_⟩
  -- the property has its new value although the data would be the same
  have hnew : Keyed.get? Store.lastRecord "n" = some (.int 2) := by
    rw [← hsame.mp hdata]
    rfl
  have hold : Keyed.get? Store.lastRecord "n" = some (.int 1) := rfl
  simp [hold] at hnew

end ODataService.Service
