import ODataService.Proofs.Service.Paths
import ODataService.Proofs.Service.Tagging

/-!
# Where a new record is found

The answer to a request that adds a record says in its `Location` header where the record is: behind
the base path stand the entity set and, in quotes and parentheses, the identifier. It stands there
as it is, but a key in quotes is read with one quote for each pair of quotes. So a request for that
path reads the new record exactly if there is no pair of quotes in its identifier
(`Service.location_finds`). An identifier with a pair of quotes is read as another one, under which
there is another record or none.
-/

namespace ODataService.Service

open ODataService.Action

variable {settings : Settings} {w w' : World Store} {set key path : String} {q : Http.Request}
  {r : Http.Response} {stored data : Record} {tag : String}

/-! ## Reading without options -/

/-- The request reads what is at a path, without options and conditions. -/
structure ReadsAt (q : Http.Request) (path : String) : Prop where
  method : q.method = "GET"
  path_eq : q.path = path
  query : q.query = ""
  unconditional : q.header? "if-none-match" = none

/-- A plain request has no parameters. -/
theorem ReadsAt.params (h : ReadsAt q path) : paramsOf q = [] := by
  rw [paramsOf, h.query]
  rfl

/-- A plain request has no options. -/
theorem ReadsAt.options (h : ReadsAt q path) : SystemOptions.parse (paramsOf q) = .ok {} := by
  rw [h.params]
  rfl

theorem exec_entityFields_none : ((inMemory settings).entityFields {}).exec w = (.ok none, w) := rfl

/-- A record that is stored is answered with its body and its tag. -/
theorem exec_replyEntity_found (h : ReadsAt q path) (hd : w.store.declares set = true)
    (hr : w.store.record? set key = some stored) (htag : EntityTag.ofRecord stored = .ok tag) :
    ((inMemory settings).replyEntity set key (paramsOf q) q).exec w =
      (.ok (changedResponse settings set stored tag), w) := by
  -- no tag was sent along, so none is known
  have hunknown : ¬ isKnown (if settings.entityTags then some tag else none)
      (q.header? "if-none-match") = true := by
    rw [h.unconditional]
    split <;> simp [isKnown, EntityTag.isNotModified, EntityTag.listedTags?]
  rw [replyEntity, exec_bind_ok (exec_ofRejection_ok h.options w),
    exec_bind_ok exec_entityFields_none, exec_bind_ok (exec_engineGet hd), hr,
    exec_bind_ok exec_present, exec_bind_ok (exec_tag? htag), if_neg hunknown]
  rfl

/-- A record that is not stored is reported missing. -/
theorem exec_replyEntity_missing (h : ReadsAt q path) (hd : w.store.declares set = true)
    (hr : w.store.record? set key = none) :
    ((inMemory settings).replyEntity set key (paramsOf q) q).exec w =
      (.error (.rejected (missing set key)), w) := by
  rw [replyEntity, exec_bind_ok (exec_ofRejection_ok h.options w),
    exec_bind_ok exec_entityFields_none, exec_bind_ok (exec_engineGet hd), hr]
  rfl

/-- A record that is stored is read, and nothing changes. -/
theorem run_handle_found (settings : Settings) (hs : w.store.Sound) (h : ReadsAt q path)
    (ha : q.Addresses set key) (hd : w.store.declares set = true)
    (hr : w.store.record? set key = some stored) :
    ∃ r, ((inMemory settings).handle q).run w = (r, w) ∧ r.status = 200 ∧
      r.body = (recordBody settings set stored).text := by
  obtain ⟨tag, htag⟩ := hs.exists_tag hr
  have hroute : (routed settings q).exec w = (.ok (changedResponse settings set stored tag), w) :=
    (exec_route_get h.method hd ha).trans (exec_replyEntity_found h hd hr htag)
  exact ⟨_, run_handle_ok hroute, rfl, rfl⟩

/-- The service answers a request for a missing record with 404. -/
theorem run_handle_missing (settings : Settings) (h : ReadsAt q path) (ha : q.Addresses set key)
    (hd : w.store.declares set = true) (hr : w.store.record? set key = none) :
    ∃ r, ((inMemory settings).handle q).run w = (r, w) ∧ r.status = 404 := by
  have hroute : (routed settings q).exec w = (.error (.rejected (missing set key)), w) :=
    (exec_route_get h.method hd ha).trans (exec_replyEntity_missing h hd hr)
  have hcode : (missing set key).code.status < 500 :=
    (by decide : ErrorCode.notFound.status < 500)
  exact ⟨_, run_answering_rejected hcode hroute, status_rejected settings.debug (missing set key)⟩

/-! ## The path of a new record -/

/-- The path of a record whose identifier has no closing parenthesis names it by what its
identifier denotes between quotes. -/
theorem addresses_location {id : String} (hset : Route.ofPath path = .collection set)
    (hid : id ≠ "") (hparen : ')' ∉ id.toList) (hq : q.path = s!"/{set}('{id}')") :
    q.Addresses set (EntityKey.denoted id) := by
  have hresource : q.resource = .entity set s!"'{id}'" :=
    (resource_eq hq (Route.toList_recordPath set id)).trans (Route.ofPath_record hset hparen)
  exact ⟨_, hresource, EntityKey.parse_inQuotes hid⟩

/-- What is read at the path of an identifier: the record of what the identifier denotes between
quotes, if there is one. -/
theorem run_handle_location {id : String} (settings : Settings) (hs : w.store.Sound)
    (hd : w.store.declares set = true) (hset : Route.ofPath path = .collection set) (hid : id ≠ "")
    (hparen : ')' ∉ id.toList) (h : ReadsAt q s!"/{set}('{id}')") :
    ∃ r, ((inMemory settings).handle q).run w = (r, w) ∧
      (∀ stored, w.store.record? set (EntityKey.denoted id) = some stored →
        r.status = 200 ∧ r.body = (recordBody settings set stored).text) ∧
      (w.store.record? set (EntityKey.denoted id) = none →
        r.status = 404) := by
  have haddresses := addresses_location hset hid hparen h.path_eq
  cases hr : w.store.record? set (EntityKey.denoted id) with
  | none =>
    obtain ⟨r, hrun, hstatus⟩ := run_handle_missing settings h haddresses hd hr
    exact ⟨r, hrun, by simp, fun _ => hstatus⟩
  | some stored =>
    obtain ⟨r, hrun, hanswer⟩ := run_handle_found settings hs h haddresses hd hr
    refine ⟨r, hrun, ?_, by simp⟩
    rintro _ ⟨⟩
    exact hanswer

/-- A location is the base path and the path of the record behind it. -/
theorem location_eq_append (base set id : String) :
    s!"{base}/{set}('{id}')" = base ++ s!"/{set}('{id}')" := by
  show base ++ "/" ++ set ++ "('" ++ id ++ "')" = base ++ ("/" ++ set ++ "('" ++ id ++ "')")
  simp only [String.append_assoc]

/-- A request to an entity set that is answered with 201 has added a record. -/
theorem inserted_of_created (hs : w.store.Sound) (hm : q.method = "POST")
    (hset : q.resource = .collection set)
    (h : ((inMemory settings).handle q).run w = (r, w')) (hstatus : r.status = 201) :
    ∃ data id tag, w.store.Inserted set data id w'.store ∧
      r = createdResponse settings set (Store.newRecord data id w.store.stamp) tag := by
  have hbatch : q.resource ≠ .batch := by simp [hset]
  -- only the creation of a record has the status 201
  cases handle_outcome hs hbatch h with
  | refused e =>
    have hge : 400 ≤ 201 := hstatus ▸ e.status_ge
    omega
  | read _ hread => simp [hm] at hread
  | unstamped fault =>
    have hother : 500 = 201 := (status_noStamp settings.debug fault).symm.trans hstatus
    omega
  | @created set' id data tag _ hset' hinserted =>
    obtain rfl : set' = set := by simpa [hset] using hset'.symm
    exact ⟨data, id, tag, hinserted, rfl⟩
  | changed hput => simp [hm] at hput
  | removed hdelete => simp [hm] at hdelete

/-- The answer to a request that adds a record says where the record is. After any run of calls and
under all settings: if a request to an entity set adds a record, then the `Location` header of the
answer is the base path with the path of the identifier behind it. Let there be no closing
parenthesis in the identifier. If there is no pair of quotes in it either, then a request that reads
at that path is answered with 200, the new record and the same text as before. If there is one, then
that request asks for another identifier: it is answered with the record that has this one, or with
404. -/
theorem location_finds (settings : Settings) {w w' : World Store} (hw : Store.Reachable w)
    {q : Http.Request} {r : Http.Response} {set : String} (hm : q.method = "POST")
    (hset : q.resource = .collection set) (h : ((inMemory settings).handle q).run w = (r, w'))
    (hstatus : r.status = 201) :
    ∃ id new, w'.store.record? set id = some new ∧ Keyed.get? new "_id" = some (.str id) ∧
      r.body = (recordBody settings set new).text ∧
      Assoc.get? r.headers "Location" = some (settings.basePath ++ s!"/{set}('{id}')") ∧
      ∀ get, ReadsAt get s!"/{set}('{id}')" → ')' ∉ id.toList →
        ∃ found, ((inMemory settings).handle get).run w' = (found, w') ∧
          (¬ ['\'', '\''] <:+: id.toList → found.status = 200 ∧ found.body = r.body) ∧
          (['\'', '\''] <:+: id.toList → EntityKey.denoted id ≠ id ∧
            (w'.store.record? set (EntityKey.denoted id) = none → found.status = 404) ∧
            ∀ stored, w'.store.record? set (EntityKey.denoted id) = some stored →
              Keyed.get? stored "_id" = some (.str (EntityKey.denoted id)) ∧
                found.status = 200 ∧ found.body = (recordBody settings set stored).text) := by
  obtain ⟨data, id, tag, hinserted, rfl⟩ := inserted_of_created hw.sound hm hset h hstatus
  have hadded := hw.sound.added hinserted
  have hsound : w'.store.Sound := by
    have hreachable := hw.handle settings q
    rw [h] at hreachable
    exact hreachable.sound
  have hd : w'.store.declares set = true := by
    rw [hadded.declares_eq]
    exact hinserted.declared
  -- the created record stands under its identifier
  have hnew : w'.store.record? set id = some (Store.newRecord data id w.store.stamp) :=
    hadded.rows.get?_self
  have hident : Keyed.get? (Store.newRecord data id w.store.stamp) "_id" = some (.str id) :=
    (Store.kept_newRecord hinserted.stamped data id).ident
  have hlocation := location_created settings set tag hident
  rw [location_eq_append] at hlocation
  refine ⟨id, _, hnew, hident, rfl, hlocation, ?_⟩
  intro get hget hparen
  -- what is found is what is stored under the name the location denotes
  obtain ⟨found, hrun, hfound, hmissing⟩ :=
    run_handle_location settings hsound hd hset hinserted.named hparen hget
  refine ⟨found, hrun, ?_, ?_⟩
  · intro hnone
    rw [EntityKey.denoted_eq_iff.2 hnone] at hfound
    exact hfound _ hnew
  · intro hpair
    -- a pair of quotes does not denote itself
    refine ⟨fun hsame => EntityKey.denoted_eq_iff.1 hsame hpair, hmissing, ?_⟩
    intro stored hstored
    obtain ⟨created, updated, hkept⟩ := hsound.kept set _ stored hstored
    exact ⟨hkept.ident, hfound stored hstored⟩

/-! ### With quotes in identifiers -/

/-- A request that adds a record with an identifier. -/
def addition (id : String) : Http.Request :=
  { method := "POST", path := "/A", body := .text ("\x7b\"_id\":\"" ++ id ++ "\"\x7d") }

/-- A request for the path of the new record. -/
def lookBack (id : String) : Http.Request := { method := "GET", path := s!"/A('{id}')" }

/-- The answer to the addition of a record to the world of `Store.oneRecord`, and the world after
it. -/
def addedBy (id : String) : Http.Response × World Store :=
  ((inMemory {}).handle (addition id)).run (Store.oneRecord {})

theorem readsAt_lookBack (id : String) : ReadsAt (lookBack id) s!"/A('{id}')" :=
  ⟨rfl, rfl, rfl, rfl⟩

theorem resource_addition (id : String) : (addition id).resource = .collection "A" :=
  (by decide : Route.ofPath "/A" = .collection "A")

/-- The same location names the same identifier. -/
theorem identifier_of_location {base set id other : String}
    (h : some (base ++ s!"/{set}('{id}')") = some s!"{base}/{set}('{other}')") : id = other := by
  rw [← location_eq_append] at h
  exact location_inj (Option.some.inj h)

/-- The new record is found where a quote in its identifier stands alone. Where two stand together,
nothing is found. -/
theorem location_finds_quotes :
    (∃ found, ((inMemory {}).handle (lookBack "it's")).run (addedBy "it's").2 =
        (found, (addedBy "it's").2) ∧ (addedBy "it's").1.status = 201 ∧ found.status = 200 ∧
          found.body = (addedBy "it's").1.body) ∧
      ∃ found, ((inMemory {}).handle (lookBack "a''b")).run (addedBy "a''b").2 =
        (found, (addedBy "a''b").2) ∧ (addedBy "a''b").1.status = 201 ∧ found.status = 404 := by
  constructor
  · have hstatus : (addedBy "it's").1.status = 201 := by decide +kernel
    have hlocation : Assoc.get? (addedBy "it's").1.headers "Location" =
        some ("/odata" ++ "/" ++ "A" ++ "('" ++ "it's" ++ "')") := by decide +kernel
    have hadded : ((inMemory {}).handle (addition "it's")).run (Store.oneRecord {}) =
        addedBy "it's" := rfl
    -- from here on it does not matter what was added
    generalize addedBy "it's" = p at *
    obtain ⟨id, new, -, -, -, hheader, hreads⟩ := location_finds {} (Store.reachable_oneRecord {})
      rfl (resource_addition "it's") (hadded.trans Prod.mk.eta.symm) hstatus
    -- the identifier is read off the header
    obtain rfl : id = "it's" := identifier_of_location (hheader.symm.trans hlocation)
    obtain ⟨found, hrun, hfound, -⟩ := hreads _ (readsAt_lookBack _) (by decide)
    exact ⟨found, hrun, hstatus, hfound (by decide)⟩
  · have hstatus : (addedBy "a''b").1.status = 201 := by decide +kernel
    have hlocation : Assoc.get? (addedBy "a''b").1.headers "Location" =
        some ("/odata" ++ "/" ++ "A" ++ "('" ++ "a''b" ++ "')") := by decide +kernel
    have hmissing : ((addedBy "a''b").2.store.record? "A"
        (EntityKey.denoted "a''b")).isNone = true := by decide +kernel
    have hadded : ((inMemory {}).handle (addition "a''b")).run (Store.oneRecord {}) =
        addedBy "a''b" := rfl
    generalize addedBy "a''b" = p at *
    obtain ⟨id, new, -, -, -, hheader, hreads⟩ := location_finds {} (Store.reachable_oneRecord {})
      rfl (resource_addition "a''b") (hadded.trans Prod.mk.eta.symm) hstatus
    obtain rfl : id = "a''b" := identifier_of_location (hheader.symm.trans hlocation)
    obtain ⟨found, hrun, -, hpair⟩ := hreads _ (readsAt_lookBack _) (by decide)
    exact ⟨found, hrun, hstatus, (hpair (by decide)).2.1 (Option.isNone_iff_eq_none.1 hmissing)⟩

end ODataService.Service
