import ODataService.Proofs.Service.Location

/-!
# Which records have a path

A record is read at the path of its entity set with its identifier behind it, in parentheses and
quotes. A quote in the identifier is written twice, and then the identifier is read as it was
stored (`EntityKey.denoted_doubled`). No identifier is empty (`Store.Reachable.record?_empty`).

Still not every record has such a path. The path is cut at the first closing parenthesis before
quotes are looked at, so one between the quotes ends the key as well, and what follows it does not
end the path. A record with a closing parenthesis in its identifier is stored, it is listed among
the records of its entity set, but its path names nothing (`Service.stored_found_unless_paren`).
-/

namespace ODataService.Service

open ODataService.Action

variable {settings : Settings} {w : World Store} {set key path : String} {q : Http.Request}

/-- A path that names nothing is not found, whatever is stored. -/
theorem run_handle_unknown (settings : Settings) (h : ReadsAt q path)
    (hr : q.resource = .unknown) :
    ∃ r, ((inMemory settings).handle q).run w = (r, w) ∧ r.status = 404 := by
  let named := if q.path = "" then "/" else q.path
  let rejection : Rejection := ⟨.notFound, s!"Invalid OData path: {named}", none, none⟩
  -- the path is refused before the store is asked
  have hroute : (routed settings q).exec w = (.error (.rejected rejection), w) := by
    rw [routed, route_eq _ (by simp [h.method]), actionOf, hr]
    rfl
  have hcode : rejection.code.status < 500 := (by decide : ErrorCode.notFound.status < 500)
  exact ⟨_, run_answering_rejected hcode hroute, status_rejected settings.debug rejection⟩

/-- The path of a record with its quotes doubled names the record by its identifier. -/
theorem addresses_doubled (hset : Route.ofPath path = .collection set) (hkey : key ≠ "")
    (hparen : ')' ∉ key.toList) (hq : q.path = s!"/{set}('{EntityKey.doubled key}')") :
    q.Addresses set key := by
  have haddresses := addresses_location hset (EntityKey.doubled_ne_empty hkey)
    (mt EntityKey.mem_doubled_iff.1 hparen) hq
  rwa [EntityKey.denoted_doubled] at haddresses

/-- A stored record is found under its identifier unless there is a closing parenthesis in it. In
every world that the store comes to and under all settings, let a record be stored in an entity set
whose name can stand in a path, and let a request read at the path of its identifier with every
quote doubled. Without a closing parenthesis in the identifier the answer is 200 and the record.
With one it is 404. Nothing changes in either case. -/
theorem stored_found_unless_paren (settings : Settings) {w : World Store} (hw : Store.Reachable w)
    {set key : String} {stored : Record} (hset : Route.isName set.toList = true)
    (hd : w.store.declares set = true) (hr : w.store.record? set key = some stored)
    {q : Http.Request} (hq : ReadsAt q s!"/{set}('{EntityKey.doubled key}')") :
    Keyed.get? stored "_id" = some (.str key) ∧
      ∃ r, ((inMemory settings).handle q).run w = (r, w) ∧
        (')' ∉ key.toList → r.status = 200 ∧ r.body = (recordBody settings set stored).text) ∧
        (')' ∈ key.toList → r.status = 404) := by
  obtain ⟨created, updated, hkept⟩ := hw.sound.kept set key stored hr
  refine ⟨hkept.ident, ?_⟩
  have hcollection := Route.ofPath_set hset
  by_cases hparen : ')' ∈ key.toList
  · -- the key ends at the parenthesis, whether it stands in quotes or not
    have hunknown : q.resource = .unknown :=
      (resource_eq hq.path_eq (Route.toList_recordPath set _)).trans
        (Route.ofPath_record_of_paren hcollection (EntityKey.mem_doubled_iff.2 hparen))
    obtain ⟨r, hrun, hstatus⟩ := run_handle_unknown (w := w) settings hq hunknown
    exact ⟨r, hrun, fun hnot => absurd hparen hnot, fun _ => hstatus⟩
  -- without one the key is read back as it was doubled
  · have hkey : key ≠ "" := by
      rintro rfl
      simp [hw.record?_empty] at hr
    obtain ⟨r, hrun, hanswer⟩ :=
      run_handle_found settings hw.sound hq (addresses_doubled hcollection hkey hparen hq.path_eq)
        hd hr
    exact ⟨r, hrun, fun _ => hanswer, fun hmem => absurd hmem hparen⟩

/-! ### One record -/

/-- A world with one record, under the given identifier. -/
def keptUnder (id : String) : World Store :=
  let declared := ((Store.declare { name := "A" }).exec { store := {} }).2
  ((Store.insert "A" [(.str "_id", .str id)]).exec declared).2

theorem reachable_keptUnder (id : String) : Store.Reachable (keptUnder id) :=
  .insert (.declare .start _) _ _

/-- A request for the path of an identifier with its quotes doubled. -/
def pathLookup (id : String) : Http.Request :=
  { method := "GET", path := s!"/A('{EntityKey.doubled id}')" }

/-- The lookup by path is a plain request for the record. -/
theorem readsAt_pathLookup (id : String) :
    ReadsAt (pathLookup id) s!"/A('{EntityKey.doubled id}')" :=
  ⟨rfl, rfl, rfl, rfl⟩

/-- A record is found that has two quotes in a row in its identifier. One with a closing parenthesis
is not. -/
theorem stored_found_unless_paren_quotes :
    (∃ r, ((inMemory {}).handle (pathLookup "it''s")).run (keptUnder "it''s") =
      (r, keptUnder "it''s") ∧ r.status = 200) ∧
      ∃ r, ((inMemory {}).handle (pathLookup "a)b")).run (keptUnder "a)b") = (r, keptUnder "a)b") ∧
        r.status = 404 := by
  -- quotes are read back, a parenthesis is not
  constructor
  · have hr : (keptUnder "it''s").store.record? "A" "it''s" = some _ := rfl
    obtain ⟨-, r, hrun, hfound, -⟩ := stored_found_unless_paren {} (reachable_keptUnder "it''s")
      (by decide) (by decide +kernel) hr (readsAt_pathLookup _)
    exact ⟨r, hrun, (hfound (by decide)).1⟩
  · have hr : (keptUnder "a)b").store.record? "A" "a)b" = some _ := rfl
    obtain ⟨-, r, hrun, -, hmissing⟩ := stored_found_unless_paren {} (reachable_keptUnder "a)b")
      (by decide) (by decide +kernel) hr (readsAt_pathLookup _)
    exact ⟨r, hrun, hmissing (by decide)⟩

end ODataService.Service
