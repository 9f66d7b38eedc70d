import ODataService.Proofs.Remote.Conversation
import ODataService.Proofs.Service.Parallel

/-!
# Errors of a remote record store reach the client

A service on a remote record store may ask it several times for one request: for the record whose
tag is compared, for a list and its number, and for related records at each level. Whatever the
script of answers is, no answer that is an error goes unnoticed: the response is then an error, too.
A request for one record that is answered with status 404 leads to a response with status 404,
whatever the answer says besides.

Each operation heeds its answers (`Remote.Heeds`), and this goes through the whole request, because
the first failure ends it.

Main result: `Service.upstream_errors_surface`.
-/

namespace ODataService

open ODataService.Action Remote

namespace Remote

/-- An action that heeds the answers it gets, paired with itself. -/
def Heeding : Pairing (World Client) := fun _ a b => b = a ∧ Heeds a

theorem heeding {α : Type} {a : Action (World Client) α} (h : Heeds a) : Paired Heeding a a :=
  ⟨rfl, h⟩

instance : Parallel Heeding where
  pure x := heeding (.pure x)
  fail f := heeding (.fail f)
  look f := heeding (heeds_of_exec fun _ => rfl)
  report level channel message := heeding (heeds_of_exec fun _ => rfl)
  bind {_ _ a b f g} hab hfg := by
    obtain ⟨rfl, ha⟩ := hab
    obtain rfl : g = f := funext fun x => (hfg x).1
    exact heeding (ha.bind fun x => (hfg x).2)

/-- Reading a value asks for nothing, so it heeds. -/
theorem heeds_usable {α : Type} (x : Except ValueFault α) : Heeds (usable x) := by
  cases x with
  | ok a => exact .pure a
  | error fault => exact .fail _

/-- Reporting a missing record asks for nothing, so it heeds. -/
theorem heeds_present (set key : String) (v : Option Json) :
    Heeds (Service.present set key v : Action (World Client) Json) := by
  cases v with
  | some v => exact .pure v
  | none => exact .fail _

/-- A record that is looked for, and what is said if it is missing. -/
theorem heeds_present_forOne (operation : String) (name args : Json) (set key : String) :
    Heeds ((do
      let v ← orMissing .null (call operation name args)
      return present? v) >>= Service.present set key) := by
  rw [bind_assoc]
  refine heeds_forOne operation name args (Service.missing set key)
    (fun v => ?_) rfl rfl
  rw [pure_bind]
  exact heeds_present set key _

/-- A removal heeds its answer, also where it says that nothing was deleted. -/
theorem heeds_removal (set key : String) : Heeds (engine.removal set key) := by
  have hdelete : engine.delete set key = (do
      let v ← orMissing .null (call "delete" (.str set) (.obj [("id", .str key)]))
      return saysDeleted v) := rfl
  -- a missing record is `null` here, which does not say that a record has been deleted
  rw [Engine.removal, hdelete, bind_assoc]
  refine heeds_forOne _ _ _ (Service.missing set key) (fun v => ?_) rfl rfl
  rw [pure_bind]
  split
  · exact .pure _
  · exact .fail _

/-- All operations of the remote record store heed the answers. -/
theorem engine_alongside : engine.Alongside Heeding engine where
  registry := rfl
  -- a bad answer ends the operation; what follows a good one asks nothing more
  find name q := by
    refine heeding (.bind (heeds_call (by decide) _ _) fun v => ?_)
    split
    · exact .pure _
    · exact heeds_usable _
  count name q := heeding (.bind (heeds_call (by decide) _ _) fun v => heeds_usable _)
  create name data := heeding (heeds_call (by decide) _ _)
  get set key := heeding (heeds_present_forOne "findOne" (.str set) _ set key)
  update set key data := heeding (heeds_present_forOne "update" (.str set) _ set key)
  removal set key := heeding (heeds_removal set key)

end Remote

namespace Service

/-- The service on a remote record store. -/
def remote (settings : Settings) : Service Client := ⟨settings, Remote.engine⟩

/-- Errors of the remote record store are never swallowed. Whatever its answers are and whatever the
request, as long as it is no batch: if one of the answers that were used is an error, the response
is an error, and if a request to read, change or remove one record was answered with status 404, the
response has status 404. -/
theorem upstream_errors_surface (settings : Settings) (w : World Client) (q : Http.Request)
    (hq : q.resource ≠ .batch) :
    ∃ r w' asked unanswered, ((remote settings).handle q).run w = (r, w') ∧
      Talk w w' asked unanswered ∧
      ((∃ e ∈ asked, e.2.Fails) → 400 ≤ r.status) ∧
      ((∃ e ∈ asked, e.1.AsksForOne ∧ e.2.status = 404) → r.status = 404) := by
  have hroute : Heeds ((remote settings).route (remote settings).replyBatch q) :=
    (route_paired engine_alongside (remote settings).replyBatch (remote settings).replyBatch
      fun hbatch => absurd hbatch hq).2
  obtain ⟨asked, unanswered, htalk, hends⟩ := hroute w
  rcases hx : ((remote settings).route (remote settings).replyBatch q).exec w with ⟨f | r, w'⟩
  · -- the failure is reported without another word to the remote record store
    rw [hx] at htalk hends
    obtain ⟨w'', hrun, hstore⟩ := run_answering_error (s := remote settings) hx
    refine ⟨_, w'', asked, unanswered, hrun, ⟨?_, ?_⟩, fun _ => ErrorBody.status_ge _, ?_⟩
    · rw [hstore]
      exact htalk.sent
    · rw [hstore]
      exact htalk.answers
    · rintro ⟨e, he, hone, hstatus⟩
      obtain ⟨r, rfl, hcode⟩ := hends e he hone hstatus
      show ((Failure.rejected r).toErrorBody _).status = 404
      rw [status_rejected, hcode]
      rfl
  · -- all answers were good, so none had a status of 404
    rw [hx] at htalk hends
    obtain ⟨rfl, hgood⟩ := hends
    refine ⟨r, w', asked, [], run_answering_ok hx, htalk, ?_, ?_⟩
    · rintro ⟨e, he, hfails⟩
      exact absurd hfails (hgood e he)
    · rintro ⟨e, he, -, hstatus⟩
      exact absurd (.inl (by omega)) (hgood e he)

/-- A conversation about an entity set, before the first request. -/
def startOf (answers : List Answer) : World Client where
  store := { connection := { base := "http://store", answers := answers },
             types := [(.str "A", { name := "A" })] }

/-- An answer that holds an error in spite of its status. -/
def reportingAnswer : Answer := ⟨200, (Json.obj [("error", .obj [])]).compact⟩

/-- An answer with status 404 whose body tells something else. -/
def missingAnswer : Answer := ⟨404, "\x7b\"error\":\x7b\"code\":\"FORBIDDEN\"\x7d\x7d"⟩

/-- A list is answered by an error if its number cannot be had, and a record that the remote store
does not know is missing, whatever it says about it. -/
theorem upstream_errors_surface_scripts :
    (∃ r w', ((remote {}).handle ⟨"GET", "/A", "$count=true", [], .none⟩).run
        (startOf [⟨200, "[]"⟩, reportingAnswer]) = (r, w') ∧ 400 ≤ r.status) ∧
      ∃ r w', ((remote {}).handle ⟨"DELETE", "/A('1')", "", [], .none⟩).run
        (startOf [missingAnswer]) = (r, w') ∧ r.status = 404 := by
  constructor
  · obtain ⟨r, w', asked, unanswered, hrun, htalk, hfails, -⟩ := upstream_errors_surface {}
      (startOf [⟨200, "[]"⟩, reportingAnswer]) ⟨"GET", "/A", "$count=true", [], .none⟩ (by decide)
    have hused : (((remote {}).handle ⟨"GET", "/A", "$count=true", [], .none⟩).run
        (startOf [⟨200, "[]"⟩, reportingAnswer])).2.store.connection.answers = [] := by
      decide +kernel
    have hanswers := htalk.answers
    rw [hrun] at hused
    rw [hused, List.append_nil] at hanswers
    -- the number was asked for, and the answer is an error
    have hmem : reportingAnswer ∈ asked.map Prod.snd := hanswers ▸ .tail _ (.head _)
    obtain ⟨e, he, herror⟩ := List.mem_map.1 hmem
    have hempty : Json.Readable (.obj []) := .obj [] List.nodup_nil (by simp)
    have hreadable : Json.Readable (.obj [("error", .obj [])]) :=
      .obj [("error", .obj [])] (List.nodup_singleton _) (by simpa using hempty)
    have hreports : reportingAnswer.Fails :=
      .inr (.inr ⟨_, [], Json.parse_write_readable Json.Separators.known_compact hreadable, rfl⟩)
    exact ⟨r, w', hrun, hfails ⟨e, he, herror ▸ hreports⟩⟩
  · obtain ⟨r, w', asked, unanswered, hrun, htalk, -, hmissing⟩ := upstream_errors_surface {}
      (startOf [missingAnswer]) ⟨"DELETE", "/A('1')", "", [], .none⟩ (by decide)
    have hused : (((remote {}).handle ⟨"DELETE", "/A('1')", "", [], .none⟩).run
        (startOf [missingAnswer])).2.store.connection.answers = [] := by decide +kernel
    have hsent : (((remote {}).handle ⟨"DELETE", "/A('1')", "", [], .none⟩).run
        (startOf [missingAnswer])).2.store.connection.sent.map Sent.body =
          [some (operationCall "delete" (.str "A") (.obj [("id", .str "1")])).compact] := by
      decide +kernel
    have hanswers := htalk.answers
    rw [hrun] at hused hsent
    rw [hused, List.append_nil] at hanswers
    obtain ⟨e, rest, rfl, herror, hrest⟩ := List.map_eq_cons_iff.1 hanswers.symm
    have hasks : e.1.AsksForOne := by
      rw [htalk.sent] at hsent
      exact ⟨"delete", by decide, _, _, (List.cons.inj hsent).1⟩
    exact ⟨r, w', hrun, hmissing ⟨e, .head _, hasks, herror ▸ rfl⟩⟩

end Service

end ODataService
