import ODataService.Proofs.Service.Tagging

/-!
# Optimistic concurrency

A client that has got the tag of a record finds out with a later request
whether the record was written in between: a write that depends on the tag is
let through exactly when it was not, and a read that depends on it is answered
as not modified exactly when it was not. This holds for every run of requests
and for every clock, also for one that stands still or goes backwards.

A change that is let through takes a stamp of its own. Where none is left in the
range of times it is answered as an internal error.

Main result: `Service.tag_tells_writes`.
-/

namespace ODataService.Service

open ODataService.Action EntityTag

variable {settings : Settings} {q : Http.Request} {r : Http.Response} {w w' : World Store}
  {set key : String} {u v : Int} {record : Record}

/-- The request changes or removes a record, and what it writes can be read. -/
def Writing (q : Http.Request) : Prop :=
  ((q.method = "PUT" ∨ q.method = "PATCH") ∧
    ∃ data, Content.readRecord q.body.toText = .ok data) ∨
  q.method = "DELETE"

/-- The request is answered with an error of the given status, and nothing changes. -/
def RefusedWith (settings : Settings) (q : Http.Request) (w : World Store) (status : Nat) : Prop :=
  ∃ r w', ((inMemory settings).handle q).run w = (r, w') ∧ r.status = status ∧
    w.store.SameData w'.store

/-- A rejected request is answered with the status of the rejection, and the store stays. -/
theorem refusedWith_of_rejected {e : Rejection}
    (h : (routed settings q).exec w = (.error (.rejected e), w)) :
    RefusedWith settings q w e.code.status := by
  obtain ⟨w', hRun, hStore⟩ := run_handle_error h
  exact ⟨_, w', hRun, status_rejected settings.debug e, .of_eq hStore⟩

/-- A write to a record that is not there is refused as not found. -/
theorem writing_gone (hWriting : Writing q) (hAddresses : q.Addresses set key)
    (hDeclared : w.store.declares set = true) (hGone : w.store.record? set key = none) :
    RefusedWith settings q w 404 := by
  -- a change and a removal look the record up first
  rcases hWriting with ⟨hMethod, data, hBody⟩ | hMethod
  · have hRoute : (routed settings q).exec w = _ := exec_route_update hMethod hDeclared hAddresses
    rw [exec_replyUpdate_gone hBody hDeclared hGone] at hRoute
    exact refusedWith_of_rejected hRoute
  · have hRoute : (routed settings q).exec w = _ := exec_route_delete hMethod hDeclared hAddresses
    rw [exec_replyDelete_gone hDeclared hGone] at hRoute
    exact refusedWith_of_rejected hRoute

/-- A write to another version than that of its condition is refused. -/
theorem writing_unmet (hWriting : Writing q) (hAddresses : q.Addresses set key)
    (hDeclared : w.store.declares set = true) (hRecord : w.store.record? set key = some record)
    {tag : String} (hTag : EntityTag.ofRecord record = .ok tag)
    (hUnmet : ¬ Meets settings q record) : RefusedWith settings q w 412 := by
  -- a change and a removal compare the tag before they write
  rcases hWriting with ⟨hMethod, data, hBody⟩ | hMethod
  · have hRoute : (routed settings q).exec w = _ := exec_route_update hMethod hDeclared hAddresses
    rw [exec_replyUpdate_unmet hBody hDeclared hRecord hTag hUnmet] at hRoute
    exact refusedWith_of_rejected hRoute
  · have hRoute : (routed settings q).exec w = _ := exec_route_delete hMethod hDeclared hAddresses
    rw [exec_replyDelete_unmet hDeclared hRecord hTag hUnmet] at hRoute
    exact refusedWith_of_rejected hRoute

/-- A write to the version of its condition succeeds, unless it is a change and
no stamp is left for it. -/
theorem writing_met (hWriting : Writing q) (hAddresses : q.Addresses set key)
    (hDeclared : w.store.declares set = true) (hRecord : w.store.record? set key = some record)
    (hMet : Meets settings q record) (h : ((inMemory settings).handle q).run w = (r, w')) :
    (q.method = "DELETE" ∨ w.store.stampFault? = none → 200 ≤ r.status ∧ r.status < 300) ∧
      (q.method ≠ "DELETE" → w.store.stampFault? ≠ none → r.status = 500) := by
  -- a change needs a stamp, a removal does not
  rcases hWriting with ⟨hMethod, data, hBody⟩ | hMethod
  · have hRoute : (routed settings q).exec w = _ := exec_route_update hMethod hDeclared hAddresses
    have hDelete : q.method ≠ "DELETE" := by
      rcases hMethod with hMethod | hMethod <;> simp [hMethod]
    cases hStamp : w.store.stampFault? with
    | none =>
      have hUpdated := Store.get?_changedRecord_updated record data w.store.stamp
      obtain ⟨tag, hTag⟩ := EntityTag.exists_tag hUpdated
      rw [exec_replyUpdate hBody hDeclared hRecord hMet hStamp hTag] at hRoute
      obtain ⟨rfl, -⟩ := Prod.mk.inj (h.symm.trans (run_handle_ok hRoute))
      simp [Http.Response.json]
    | some fault =>
      rw [exec_replyUpdate_unstamped hBody hDeclared hRecord hMet hStamp] at hRoute
      obtain ⟨w₁, hRun, -⟩ := run_handle_error hRoute
      obtain ⟨rfl, -⟩ := Prod.mk.inj (h.symm.trans hRun)
      simp only [hDelete, false_or, reduceCtorEq, false_implies, true_and]
      exact fun _ _ => status_noStamp settings.debug fault
  · have hRoute : (routed settings q).exec w = _ := exec_route_delete hMethod hDeclared hAddresses
    rw [exec_replyDelete hDeclared hRecord hMet] at hRoute
    obtain ⟨rfl, -⟩ := Prod.mk.inj (h.symm.trans (run_handle_ok hRoute))
    simp [hMethod, Http.Response.empty]

/-- A read that depends on a tag is answered as not modified exactly when the
tag is that of the current version. -/
theorem reading_iff (hTags : settings.entityTags = true) (hSound : w.store.Sound)
    (hMethod : q.method = "GET") (hOptions : ValidOptions settings q)
    (hHeader : q.header? "if-none-match" = some (stampTag u)) (hAddresses : q.Addresses set key)
    (hDeclared : w.store.declares set = true)
    (h : ((inMemory settings).handle q).run w = (r, w')) :
    (r.status = 304 ∧ r.body = "") ↔ w.store.Current set key u := by
  have hRoute : (routed settings q).exec w = _ := exec_route_get hMethod hDeclared hAddresses
  constructor
  -- answered as known, so the tag of the record is the one sent along
  · rintro ⟨hStatus, -⟩
    rcases hReply : ((inMemory settings).replyEntity set key (paramsOf q) q).exec w with ⟨f | r', w₁⟩
    · -- errors have other statuses
      obtain ⟨w₂, hRun, -⟩ := run_handle_error (hRoute.trans hReply)
      obtain ⟨rfl, -⟩ := Prod.mk.inj (h.symm.trans hRun)
      have := (f.toErrorBody settings.debug).status_ge
      have hStatus' : (f.toErrorBody settings.debug).status = 304 := hStatus
      omega
    · obtain ⟨rfl, -⟩ := Prod.mk.inj (h.symm.trans (run_handle_ok (hRoute.trans hReply)))
      obtain ⟨record, tag, hRecord, hTag, hAnswer⟩ := replyEntity_eq_ok hSound hDeclared hReply
      obtain ⟨created, v, hKept⟩ := hSound.kept set key record hRecord
      obtain rfl : tag = stampTag v := Except.ok.inj (hTag.symm.trans hKept.tag)
      rcases hAnswer with ⟨hKnown, -⟩ | ⟨-, body, rfl⟩
      · obtain rfl := (known_iff hTags hHeader).mp hKnown
        exact ⟨record, created, hRecord, hKept⟩
      · simp [Http.Response.json] at hStatus
  -- a current stamp is that of the record, whose tag is then known
  · rintro ⟨record, created, hRecord, hKept⟩
    have hKnown : Known settings q (stampTag u) := (known_iff hTags hHeader).mpr rfl
    have hReply := exec_replyEntity_known hOptions hDeclared hRecord hKept.tag hKnown
    obtain ⟨rfl, -⟩ := Prod.mk.inj (h.symm.trans (run_handle_ok (hRoute.trans hReply)))
    exact ⟨rfl, rfl⟩

/-! ## Between the tag and the condition -/

/-- A stale version is not the current one. -/
theorem not_current_of_stale {s : Store} (hStale : s.Stale set key u) :
    ¬ s.Current set key u := by
  rintro ⟨record, created, hRecord, hKept⟩
  obtain ⟨created', v, hKept', hLater⟩ := hStale.later record hRecord
  have := stampTag_inj.mp (Except.ok.inj (hKept.tag.symm.trans hKept'.tag))
  omega

/-- No exchange has written the record under an identifier. -/
def Unwritten (xs : List Exchange) (set key : String) : Prop := ∀ x ∈ xs, ¬ x.Writes set key

/-- Versions tell whether the record was written. -/
theorem current_or_stale {xs : List Exchange} (hReach : Store.Reachable w)
    (hRun : Run settings w xs w') (hCurrent : w.store.Current set key u) :
    (Unwritten xs set key ∧ w'.store.Current set key u) ∨
      (¬ Unwritten xs set key ∧ w'.store.Stale set key u) := by
  -- the first write makes the stamp stale, and stale it stays
  by_cases hUnwritten : Unwritten xs set key
  · exact .inl ⟨hUnwritten, hRun.current hReach hCurrent hUnwritten⟩
  · refine .inr ⟨hUnwritten, ?_⟩
    simp only [Unwritten, not_forall, not_not, exists_prop] at hUnwritten
    obtain ⟨x, hx, hWrites⟩ := hUnwritten
    exact hRun.stale_of_writes hReach hCurrent hx hWrites

/-- How a write is answered that depends on a tag, when the version of the tag
is current or stale according to `Same`. -/
theorem writing_answers (hTags : settings.entityTags = true)
    (hHeader : q.header? "if-match" = some (stampTag u)) (hWriting : Writing q)
    (hAddresses : q.Addresses set key) (hDeclared : w.store.declares set = true) {Same : Prop}
    (hVersion : (Same ∧ w.store.Current set key u) ∨ (¬ Same ∧ w.store.Stale set key u))
    (h : ((inMemory settings).handle q).run w = (r, w')) :
    (200 ≤ r.status ∧ r.status < 300 ↔
      w.store.record? set key ≠ none ∧ Same ∧
        (q.method = "DELETE" ∨ w.store.stampFault? = none)) ∧
    (w.store.record? set key = none → r.status = 404 ∧ w.store.SameData w'.store) ∧
    (w.store.record? set key ≠ none → ¬ Same → r.status = 412 ∧ w.store.SameData w'.store) ∧
    (w.store.record? set key ≠ none → Same → q.method ≠ "DELETE" →
      w.store.stampFault? ≠ none → r.status = 500) := by
  -- there is one answer to the request, so a refusal that is proved is the answer
  have hRefused : ∀ status, RefusedWith settings q w status →
      r.status = status ∧ w.store.SameData w'.store := by
    rintro status ⟨r', w'', hRun, hStatus, hSame⟩
    obtain ⟨rfl, rfl⟩ := Prod.mk.inj (h.symm.trans hRun)
    exact ⟨hStatus, hSame⟩
  cases hRecord : w.store.record? set key with
  | none =>
    have hGone := hRefused 404 (writing_gone hWriting hAddresses hDeclared hRecord)
    refine ⟨?_, fun _ => hGone, fun hThere => absurd rfl hThere, fun hThere => absurd rfl hThere⟩
    refine ⟨fun hSuccess => ?_, fun hAll => absurd rfl hAll.1⟩
    omega
  | some record =>
    rcases hVersion with ⟨hSame, record', created, hRecord', hKept⟩ | ⟨hOther, hStale⟩
    · obtain rfl : record = record' := Option.some.inj (hRecord.symm.trans hRecord')
      -- the version is the current one, so its tag meets the condition
      have hMet : Meets settings q record := (meets_iff hTags hHeader hKept.tag).mpr rfl
      obtain ⟨hSuccess, hFault⟩ := writing_met hWriting hAddresses hDeclared hRecord hMet h
      refine ⟨⟨fun hStatus => ⟨by simp, hSame, ?_⟩, fun hAll => hSuccess hAll.2.2⟩,
        fun hNone => by simp at hNone, fun _ hOther => absurd hSame hOther, fun _ _ => hFault⟩
      -- without a stamp the status would be another one
      by_cases hDelete : q.method = "DELETE"
      · exact .inl hDelete
      · refine .inr ?_
        by_contra hNoStamp
        have := hFault hDelete hNoStamp
        omega
    · obtain ⟨created, v, hKept, hLater⟩ := hStale.later record hRecord
      -- the record was written later, so it has another tag
      have hUnmet : ¬ Meets settings q record := by
        rw [meets_iff hTags hHeader hKept.tag]
        omega
      have hFailed := hRefused 412
        (writing_unmet hWriting hAddresses hDeclared hRecord hKept.tag hUnmet)
      refine ⟨⟨fun hStatus => ?_, fun hAll => absurd hAll.2.1 hOther⟩,
        fun hNone => by simp at hNone, fun _ _ => hFailed, fun _ hSame => absurd hSame hOther⟩
      omega

/-- **Tags tell writes.** A response of a run carried a tag for a record, some
exchanges followed, and now a request on that record comes at any time.

A write that depends on the tag succeeds if and only if the record is there and
was not written since, and there is a stamp for it unless it is a removal. It is
refused as not found if the record is gone, and as failing its condition if it
was written, and then nothing changes. A read with valid options that depends on
the tag is answered as not modified, without a body, if and only if the record
was not written since. -/
theorem tag_tells_writes (hTags : settings.entityTags = true) {w₀ : World Store}
    (hReach : Store.Reachable w₀) {before between : List Exchange} {x : Exchange} {tag : String}
    (hRun : Run settings w₀ (before ++ x :: between) w) (hx : x.Tags settings set key tag)
    (c : Clock) (hAddresses : q.Addresses set key)
    (h : ((inMemory settings).handle q).run (w.withClock c) = (r, w')) :
    (q.header? "if-match" = some tag → Writing q →
      (200 ≤ r.status ∧ r.status < 300 ↔
        w.store.record? set key ≠ none ∧ Unwritten between set key ∧
          (q.method = "DELETE" ∨ (w.withClock c).store.stampFault? = none)) ∧
      (w.store.record? set key = none → r.status = 404 ∧ w.store.SameData w'.store) ∧
      (w.store.record? set key ≠ none → ¬ Unwritten between set key →
        r.status = 412 ∧ w.store.SameData w'.store) ∧
      (w.store.record? set key ≠ none → Unwritten between set key → q.method ≠ "DELETE" →
        (w.withClock c).store.stampFault? ≠ none → r.status = 500)) ∧
    (q.header? "if-none-match" = some tag → q.method = "GET" → ValidOptions settings q →
      (r.status = 304 ∧ r.body = "" ↔ Unwritten between set key)) := by
  obtain ⟨w₁, hBefore, hRest⟩ := Run.append_iff.mp hRun
  have hReach₁ := hBefore.reachable hReach
  cases hRest with
  | @step _ w₂ _ q₁ r₁ _ c₁ hq₁ h₁ hBetween =>
  -- the tag names the version that is current after the exchange that carried it
  obtain ⟨u, rfl, hCurrent, hDeclared⟩ := current_of_tags hTags (hReach₁.clock c₁) hq₁ h₁ hx
  -- requests lead from reachable worlds to reachable ones, so the record stays sound
  have hReach₂ := reachable_of_step hReach₁ c₁ h₁
  have hSound := ((hBetween.reachable hReach₂).clock c).sound
  have hDeclared' : (w.withClock c).store.declares set = true :=
    (hBetween.declares_eq hReach₂ set).trans hDeclared
  have hVersion := current_or_stale hReach₂ hBetween hCurrent
  -- the clock has no part in versions
  have hClock : (Unwritten between set key ∧ (w.withClock c).store.Current set key u) ∨
      (¬ Unwritten between set key ∧ (w.withClock c).store.Stale set key u) :=
    hVersion.imp_right fun hStale => ⟨hStale.1, hStale.2.taken, hStale.2.later⟩
  constructor
  · intro hHeader hWriting
    obtain ⟨hSuccess, hGone, hFailed, hFault⟩ :=
      writing_answers hTags hHeader hWriting hAddresses hDeclared' hClock h
    have hData : (w.withClock c).store.SameData w'.store → w.store.SameData w'.store :=
      fun hSame => ⟨hSame.types, hSame.tables, hSame.lastStamp⟩
    exact ⟨hSuccess, fun hNone => (hGone hNone).imp_right hData,
      fun hThere hWritten => (hFailed hThere hWritten).imp_right hData, hFault⟩
  · intro hHeader hMethod hOptions
    rw [reading_iff hTags hSound hMethod hOptions hHeader hAddresses hDeclared' h]
    rcases hClock with ⟨hUnwritten, hCurrent'⟩ | ⟨hWritten, hStale⟩
    · exact iff_of_true hCurrent' hUnwritten
    · exact iff_of_false (not_current_of_stale hStale) hWritten

/-! ### With one record -/

/-- A request for the record of `Store.oneRecord`. -/
def lookUp : Http.Request := { method := "GET", path := "/A('1')" }

/-- A request that changes the record, if it has a tag that is given. -/
def changeIf (tag : Option String) : Http.Request :=
  { method := "PUT", path := "/A('1')", headers := (tag.map fun t => ("if-match", t)).toList }

theorem addresses_lookUp : lookUp.Addresses "A" "1" := ⟨"'1'", by decide +kernel, rfl⟩

theorem addresses_changeIf (tag : Option String) : (changeIf tag).Addresses "A" "1" :=
  ⟨"'1'", (by decide +kernel : lookUp.resource = .entity "A" "'1'"), rfl⟩

theorem writing_changeIf (tag : Option String) : Writing (changeIf tag) :=
  .inl ⟨.inl rfl, [], rfl⟩

/-- The answer to a request, and the world after it. -/
def answer (q : Http.Request) (w : World Store) : Http.Response × World Store :=
  ((inMemory {}).handle q).run w

/-- An answer is a run of one exchange. -/
theorem run_of_answer {p : Http.Response × World Store} (hq : q.Addresses set key)
    (h : answer q w = p) : Run {} w [⟨q, p.1⟩] p.2 := by
  obtain ⟨raw, hRoute, -⟩ := hq
  exact .step w.store.clock (by simp [hRoute]) h (.done _)

/-- The record is looked up, when it was written at `c`. -/
def seen (c : Clock) : Http.Response × World Store := answer lookUp (Store.oneRecord c)

/-- Then it is changed. -/
def changed : Http.Response × World Store := answer (changeIf none) (seen {}).2

/-- Behind the change the tag does not let a write through any more. -/
theorem tag_tells_change :
    Run {} (Store.oneRecord {}) [⟨lookUp, (seen {}).1⟩, ⟨changeIf none, changed.1⟩] changed.2 ∧
      Assoc.get? (seen {}).1.headers "ETag" = some "W/\"1700000000000\"" ∧
      (answer (changeIf "W/\"1700000000000\"") changed.2).1.status = 412 := by
  have hSeen : answer lookUp (Store.oneRecord {}) = seen {} := rfl
  have hChanged : answer (changeIf none) (seen {}).2 = changed := rfl
  have hTag : Assoc.get? (seen {}).1.headers "ETag" = some "W/\"1700000000000\"" := by
    decide +kernel
  have hWritten : ¬ Unwritten [⟨changeIf none, changed.1⟩] "A" "1" :=
    fun h => h _ (.head _) ⟨.inl rfl, addresses_changeIf none, by decide +kernel⟩
  have hThere : changed.2.store.record? "A" "1" ≠ none :=
    Option.isSome_iff_ne_none.mp (by decide +kernel)
  -- from here on it does not matter what the answers are
  generalize seen {} = s at *
  generalize changed = t at *
  have hRun : Run {} (Store.oneRecord {}) ([⟨lookUp, s.1⟩] ++ [⟨changeIf none, t.1⟩]) t.2 :=
    Run.append_iff.mpr ⟨s.2, run_of_answer addresses_lookUp hSeen,
      run_of_answer (addresses_changeIf none) hChanged⟩
  have hSplit : Run {} (Store.oneRecord {}) ([] ++ ⟨lookUp, s.1⟩ :: [⟨changeIf none, t.1⟩]) t.2 :=
    hRun
  -- the record was changed behind the tag, so the condition is not met
  refine ⟨hRun, hTag, ?_⟩
  have hAnswer : ((inMemory {}).handle (changeIf "W/\"1700000000000\"")).run
      (t.2.withClock t.2.store.clock) = (_, _) := Prod.mk.eta.symm
  obtain ⟨hWrites, -⟩ := tag_tells_writes rfl (Store.reachable_oneRecord {}) hSplit
    ⟨hTag, .inl addresses_lookUp⟩ t.2.store.clock (addresses_changeIf _) hAnswer
  exact ((hWrites rfl (writing_changeIf _)).2.2.1 hThere hWritten).1

/-- In the last millisecond the tag is that of the current version, and yet it
does not let a change through. -/
theorem current_tag_without_stamp :
    Run {} (Store.oneRecord Store.lastMillisecond)
        [⟨lookUp, (seen Store.lastMillisecond).1⟩] (seen Store.lastMillisecond).2 ∧
      Exchange.Tags {} ⟨lookUp, (seen Store.lastMillisecond).1⟩ "A" "1"
        "W/\"253402300799999\"" ∧
      (changeIf "W/\"253402300799999\"").Addresses "A" "1" ∧
      Writing (changeIf "W/\"253402300799999\"") ∧
      (seen Store.lastMillisecond).2.store.record? "A" "1" ≠ none ∧ Unwritten [] "A" "1" ∧
      (answer (changeIf "W/\"253402300799999\"") (seen Store.lastMillisecond).2).1.status =
        500 :=
  ⟨run_of_answer addresses_lookUp rfl, ⟨by decide +kernel, .inl addresses_lookUp⟩,
    addresses_changeIf _, writing_changeIf _, Option.isSome_iff_ne_none.mp (by decide +kernel),
    List.forall_mem_nil _, by decide +kernel⟩

end ODataService.Service
