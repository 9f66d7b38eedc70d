import ODataService.Proofs.EntityTag.Tags
import ODataService.Proofs.Service.Versions

/-!
# Tags in requests and responses

A response may carry the tag of a record, and a request may depend on a tag:
`If-Match` lets a write through, and `If-None-Match` spares the body of a read.
The tag that a response carries is that of the current version of the record
(`Service.current_of_tags`), and a condition on it holds of this version only.
-/

namespace ODataService

open ODataService.Action EntityTag

/-- The tag of a record is that of its version. -/
theorem Store.Kept.tag {last : Option Int} {key : String} {r : Record} {created u : Int}
    (h : Kept last key r created u) : EntityTag.ofRecord r = .ok (stampTag u) :=
  ofRecord_eq_stampTag h.updated_at h.updated_valid

namespace Service

variable {settings : Settings} {q : Http.Request} {r : Http.Response} {w w' : World Store}
  {set key : String} {u v : Int} {record : Record}

/-! ## Conditions -/

/-- The tag sent along as a condition is the one the service compares with. -/
theorem condition?_eq (hTags : settings.entityTags = true)
    (h : q.header? "if-match" = some (stampTag u)) :
    (inMemory settings).condition? q = some (stampTag u) := by
  have hTags' : (inMemory settings).settings.entityTags = true := hTags
  have hne : stampTag u ≠ "" := by
    intro hEmpty
    have := congrArg String.toList hEmpty
    rw [toList_stampTag] at this
    simp at this
  rw [condition?, if_pos hTags', h]
  simp [hne]

/-- A record meets the condition on a tag when the tag is that of its version. -/
theorem meets_iff (hTags : settings.entityTags = true)
    (h : q.header? "if-match" = some (stampTag u))
    (hTag : EntityTag.ofRecord record = .ok (stampTag v)) :
    Meets settings q record ↔ v = u := by
  -- the condition is the text of the header, since the text is not empty
  have hCondition := condition?_eq hTags h
  constructor
  · intro hMeets
    obtain ⟨tag, hTag', hSatisfies⟩ := hMeets _ hCondition
    obtain rfl : stampTag v = tag := Except.ok.inj (hTag.symm.trans hTag')
    exact satisfies_stampTag.mp hSatisfies
  · rintro rfl ifMatch hCondition'
    obtain rfl : stampTag v = ifMatch := Option.some.inj (hCondition.symm.trans hCondition')
    exact ⟨_, hTag, satisfies_stampTag.mpr rfl⟩

/-! ## Reading -/

/-- The options of a request for one record can be read. What is expanded plays
a part only for a projection. -/
def ValidOptions (settings : Settings) (q : Http.Request) : Prop :=
  ∃ o, SystemOptions.parse (paramsOf q) = .ok o ∧
    ∀ raw, o.select = some raw →
      (∃ fields, Query.parseSelect raw = .ok fields) ∧
      ∀ text, Query.nonEmpty? o.expand = some text →
        ∃ kept, settings.expandDepth.isKept = .ok kept ∧
          (kept = true → ∃ entries, Expand.parse text = .ok entries)

/-- Valid options give the fields of a record without touching the store. -/
theorem ValidOptions.exec_entityFields (h : ValidOptions settings q) :
    ∃ o fields, SystemOptions.parse (paramsOf q) = .ok o ∧
      ∀ w, ((inMemory settings).entityFields o).exec w = (.ok fields, w) := by
  obtain ⟨o, hParse, hTexts⟩ := h
  -- without a selection there is nothing to read
  cases hSelect : o.select with
  | none =>
    refine ⟨o, none, hParse, fun w => ?_⟩
    rw [entityFields, hSelect]
    rfl
  | some raw =>
    obtain ⟨⟨fields, hFields⟩, hExpand⟩ := hTexts raw hSelect
    -- what is expanded is added to what is selected, if such levels are kept
    have hExpanded : ∃ expanded, ∀ w,
        ((inMemory settings).expandedProperties o.expand).exec w = (.ok expanded, w) := by
      unfold expandedProperties
      cases hText : Query.nonEmpty? o.expand with
      | none => exact ⟨_, fun w => rfl⟩
      | some text =>
        obtain ⟨kept, hKept, hEntries⟩ := hExpand text hText
        have hUsable : ∀ w, (usable (inMemory settings).settings.expandDepth.isKept :
            Action (World Store) Bool).exec w = (.ok kept, w) := fun w => exec_usable hKept
        cases kept with
        | false => exact ⟨[], fun w => exec_bind_ok (hUsable w)⟩
        | true =>
          obtain ⟨entries, hEntries⟩ := hEntries rfl
          refine ⟨entries.map Expand.Entry.property, fun w => ?_⟩
          dsimp only
          rw [exec_bind_ok (hUsable w), if_pos rfl,
            exec_bind_ok (exec_ofRejection_ok hEntries w)]
          rfl
    obtain ⟨expanded, hExpanded⟩ := hExpanded
    refine ⟨o, Query.includeFields fields expanded, hParse, fun w => ?_⟩
    rw [entityFields, hSelect]
    dsimp only
    rw [exec_bind_ok (exec_ofRejection_ok hFields w), exec_bind_ok (hExpanded w)]
    rfl

/-- A client has the version of a record already, where tags are switched on. -/
def Known (settings : Settings) (q : Http.Request) (tag : String) : Prop :=
  isKnown (if settings.entityTags then some tag else none) (q.header? "if-none-match") = true

/-- The tag sent along is known when it is that of the stamp. -/
theorem known_iff (hTags : settings.entityTags = true)
    (h : q.header? "if-none-match" = some (stampTag u)) :
    Known settings q (stampTag v) ↔ v = u := by
  rw [Known, if_pos hTags, h]
  exact isNotModified_stampTag

/-- A request for a record that comes to an answer has found the record, and
answers with its tag: without a body if the client has this version, and with a
body otherwise. -/
theorem replyEntity_eq_ok (hSound : w.store.Sound) (hDeclared : w.store.declares set = true)
    (h : ((inMemory settings).replyEntity set key (paramsOf q) q).exec w = (.ok r, w')) :
    ∃ record tag, w.store.record? set key = some record ∧
      EntityTag.ofRecord record = .ok tag ∧
      ((Known settings q tag ∧ r = .empty 304 (tagHeaders settings tag)) ∨
        (¬ Known settings q tag ∧ ∃ body, r = .json 200 body (tagHeaders settings tag))) := by
  unfold replyEntity at h
  obtain ⟨o, w₁, hParse, h⟩ := exec_bind_eq_ok h
  obtain ⟨fields, w₂, hFields, h⟩ := exec_bind_eq_ok h
  -- reading the options leaves the store as it is
  have hStore₁ : w₁.store = w.store := by
    have := (Keeps.ofRejection (P := Along SameStore) (SystemOptions.parse (paramsOf q))).along w
    rwa [hParse] at this
  have hStore₂ : w₂.store = w.store := by
    have := (keeps_entityFields (P := Along SameStore) (inMemory settings) o).along w₁
    rw [hFields] at this
    exact this.trans hStore₁
  rw [exec_bind_ok (exec_engineGet (hStore₂ ▸ hDeclared)), hStore₂] at h
  cases hRecord : w.store.record? set key with
  | none =>
    -- without a record there is an error and no answer
    obtain ⟨v, w₃, hPresent, -⟩ := exec_bind_eq_ok h
    rw [hRecord] at hPresent
    cases hPresent
  | some record =>
    obtain ⟨tag, hTag⟩ := hSound.exists_tag hRecord
    refine ⟨record, tag, rfl, hTag, ?_⟩
    rw [hRecord, exec_bind_ok exec_present, exec_bind_ok (exec_tag? hTag)] at h
    -- a record whose tag is known is answered with 304, any other with its body
    by_cases hKnown : Known settings q tag
    · rw [if_pos (show isKnown _ _ = true from hKnown)] at h
      exact .inl ⟨hKnown, (Except.ok.inj (Prod.mk.inj h).1).symm⟩
    · rw [if_neg (show ¬ isKnown _ _ = true from hKnown)] at h
      obtain ⟨expanded, w₄, -, h⟩ := exec_bind_eq_ok h
      obtain ⟨projected, w₅, -, h⟩ := exec_bind_eq_ok h
      obtain ⟨body, w₆, -, h⟩ := exec_bind_eq_ok h
      exact .inr ⟨hKnown, body, (Except.ok.inj (Prod.mk.inj h).1).symm⟩

/-- A client that has the version of a record already gets no body, if it asks
for the record with valid options. -/
theorem exec_replyEntity_known (hOptions : ValidOptions settings q)
    (hDeclared : w.store.declares set = true) (hRecord : w.store.record? set key = some record)
    {tag : String} (hTag : EntityTag.ofRecord record = .ok tag) (hKnown : Known settings q tag) :
    ((inMemory settings).replyEntity set key (paramsOf q) q).exec w =
      (.ok (.empty 304 (tagHeaders settings tag)), w) := by
  obtain ⟨o, fields, hParse, hFields⟩ := hOptions.exec_entityFields
  rw [replyEntity, exec_bind_ok (exec_ofRejection_ok hParse w), exec_bind_ok (hFields w),
    exec_bind_ok (exec_engineGet hDeclared), hRecord, exec_bind_ok exec_present,
    exec_bind_ok (exec_tag? hTag), if_pos (show isKnown _ _ = true from hKnown)]
  rfl

/-! ## Responses that carry tags -/

/-- The response carries a tag for the record under an identifier: the request
names the record in its path, or it has created the record and the response says
where it is. -/
structure Exchange.Tags (settings : Settings) (x : Exchange) (set key tag : String) : Prop where
  header : Assoc.get? x.response.headers "ETag" = some tag
  names : x.request.Addresses set key ∨
    (x.request.method = "POST" ∧ x.request.resource = .collection set ∧
      Assoc.get? x.response.headers "Location" = some s!"{settings.basePath}/{set}('{key}')")

theorem tag_ofError (e : ErrorBody) :
    Assoc.get? (Http.Response.ofError e).headers "ETag" = none := rfl

/-- A response with a body carries the tag it is given. -/
theorem tag_json (hTags : settings.entityTags = true) (status : Nat) (body : Json) (tag : String) :
    Assoc.get? (Http.Response.json status body (tagHeaders settings tag)).headers "ETag" =
      some tag := by
  rw [tagHeaders, if_pos hTags]
  rfl

/-- A response without a body carries the tag it is given. -/
theorem tag_empty (hTags : settings.entityTags = true) (status : Nat) (tag : String) :
    Assoc.get? (Http.Response.empty status (tagHeaders settings tag)).headers "ETag" =
      some tag := by
  rw [tagHeaders, if_pos hTags]
  rfl

/-- The response to a creation carries the tag of the record. -/
theorem tag_created (hTags : settings.entityTags = true) (set tag : String) (record : Record) :
    Assoc.get? (createdResponse settings set record tag).headers "ETag" = some tag := by
  rw [createdResponse, tagHeaders, if_pos hTags]
  unfold locationHeader
  split <;> rfl

/-- The address of a record names its identifier. -/
theorem location_inj {base key other : String}
    (h : s!"{base}/{set}('{key}')" = s!"{base}/{set}('{other}')") : key = other := by
  have hList := congrArg String.toList h
  simp only [String.toList_append] at hList
  have hKey := List.append_cancel_left (List.append_cancel_right hList)
  exact String.toList_inj.mp hKey

/-- A request for a record of an entity set that is not declared is refused. -/
theorem exec_route_undeclared (settings : Settings) (hMethod : q.method = "GET")
    (hAddresses : q.Addresses set key) (hDeclared : w.store.declares set = false) :
    ∃ f, (routed settings q).exec w = (.error f, w) := by
  obtain ⟨raw, hRoute, hKey⟩ := hAddresses
  obtain ⟨e, hRefused⟩ := exec_requireSet_undeclared settings hDeclared
  refine ⟨.rejected e, ?_⟩
  rw [routed, route_eq _ (by simp [hMethod]), actionOf, hRoute]
  exact exec_bind_error hRefused

/-- A tag that comes with a record that is read is the tag of this record. -/
theorem tag_of_get (hTags : settings.entityTags = true) (hSound : w.store.Sound)
    (hMethod : q.method = "GET") (hAddresses : q.Addresses set key)
    (h : ((inMemory settings).handle q).run w = (r, w')) {tag : String}
    (hTag : Assoc.get? r.headers "ETag" = some tag) :
    w.store.declares set = true ∧
      ∃ record, w.store.record? set key = some record ∧ EntityTag.ofRecord record = .ok tag := by
  -- an error response would carry no tag
  have hNoError : ∀ f w₁, (routed settings q).exec w ≠ (.error f, w₁) := by
    intro f w₁ hError
    obtain ⟨w₂, hRun, -⟩ := run_handle_error hError
    obtain ⟨rfl, -⟩ := Prod.mk.inj (h.symm.trans hRun)
    rw [tag_ofError] at hTag
    contradiction
  cases hDeclared : w.store.declares set with
  | false =>
    obtain ⟨f, hError⟩ := exec_route_undeclared settings hMethod hAddresses hDeclared
    exact absurd hError (hNoError f w)
  | true =>
    refine ⟨rfl, ?_⟩
    have hRoute : (routed settings q).exec w = _ := exec_route_get hMethod hDeclared hAddresses
    rcases hReply : ((inMemory settings).replyEntity set key (paramsOf q) q).exec w with ⟨f | r', w₁⟩
    · exact absurd (hRoute.trans hReply) (hNoError f w₁)
    · have hRun := run_handle_ok (hRoute.trans hReply)
      obtain ⟨rfl, -⟩ := Prod.mk.inj (h.symm.trans hRun)
      obtain ⟨record, tag', hRecord, hTag', hAnswer⟩ := replyEntity_eq_ok hSound hDeclared hReply
      refine ⟨record, hRecord, hTag'.trans (congrArg _ ?_)⟩
      -- either answer carries the tag of the record
      rcases hAnswer with ⟨-, rfl⟩ | ⟨-, body, rfl⟩
      · rw [tag_empty hTags] at hTag
        exact Option.some.inj hTag
      · rw [tag_json hTags] at hTag
        exact Option.some.inj hTag

/-- Requests that ask for options only are answered without a tag. -/
theorem tag_of_options (hMethod : q.method = "OPTIONS") (hAddresses : q.Addresses set key)
    (h : ((inMemory settings).handle q).run w = (r, w')) :
    Assoc.get? r.headers "ETag" = none := by
  -- with origins allowed the answer is empty, otherwise the method is refused
  by_cases hCross : (q.method = "OPTIONS" && (inMemory settings).settings.crossOrigin) = true
  · have hRoute : (routed settings q).exec w = (.ok (.empty 204 []), w) := by
      unfold routed route
      dsimp only
      rw [if_pos hCross]
      rfl
    obtain ⟨rfl, -⟩ := Prod.mk.inj (h.symm.trans (run_handle_ok hRoute))
    rfl
  · obtain ⟨raw, hPath, hKey⟩ := hAddresses
    have hRefused : ∃ f, (routed settings q).exec w = (.error f, w) := by
      rw [routed, route_eq _ hCross, actionOf, hPath]
      dsimp only
      rw [replyRecord]
      cases hDeclared : w.store.declares set with
      | false =>
        obtain ⟨e, hUndeclared⟩ := exec_requireSet_undeclared settings hDeclared
        exact ⟨_, exec_bind_error hUndeclared⟩
      | true =>
        rw [exec_bind_ok (exec_requireSet hDeclared), exec_bind_ok (exec_ofRejection_ok hKey w)]
        simp only [hMethod]
        exact ⟨_, rfl⟩
    obtain ⟨f, hError⟩ := hRefused
    obtain ⟨w₁, hRun, -⟩ := run_handle_error hError
    obtain ⟨rfl, -⟩ := Prod.mk.inj (h.symm.trans hRun)
    rfl

/-- A tag that a response carries is that of the current version. -/
theorem current_of_tags (hTags : settings.entityTags = true) (hReach : Store.Reachable w)
    (hq : q.resource ≠ .batch) (h : ((inMemory settings).handle q).run w = (r, w')) {tag : String}
    (hx : Exchange.Tags settings ⟨q, r⟩ set key tag) :
    ∃ u, tag = stampTag u ∧ w'.store.Current set key u ∧ w'.store.declares set = true := by
  have hSound := hReach.sound
  have hOutcome := handle_outcome hSound hq h
  have hDeclares := hOutcome.declares_eq hSound
  have hHeader := hx.header
  -- a record in the path and a collection in the path exclude each other
  have hPath : ∀ {set' key' set''}, q.Addresses set' key' → q.resource ≠ .collection set'' := by
    rintro set' key' set'' ⟨raw, hRoute, -⟩ hCollection
    rw [hRoute] at hCollection
    contradiction
  generalize hs : w.store = s at hSound hOutcome hDeclares
  generalize hs' : w'.store = s' at hOutcome hDeclares ⊢
  -- one case for each outcome; errors and removals carry no tag
  cases hOutcome with
  | refused e hSame =>
    rw [tag_ofError] at hHeader
    contradiction
  | unstamped fault hFind hStore =>
    rw [tag_ofError] at hHeader
    contradiction
  | removed hMethod hAddresses hDeclared hRecord hStore =>
    have hNone : none = some tag := hHeader
    contradiction
  | read r hMethod hStore =>
    -- a read record has the tag of its stamp, and its location is not given
    rcases hx.names with hAddresses | ⟨hPost, -, -⟩
    · rcases hMethod with hMethod | hMethod
      · obtain ⟨hDeclared, record, hRecord, hTag⟩ :=
          tag_of_get hTags (hs ▸ hSound) hMethod hAddresses h hHeader
        rw [hs] at hDeclared hRecord
        obtain ⟨created, u, hKept⟩ := hSound.kept set key record hRecord
        refine ⟨u, Except.ok.inj (hTag.symm.trans hKept.tag), ?_, by rw [hStore, hDeclared]⟩
        rw [hStore]
        exact ⟨record, created, hRecord, hKept⟩
      · have hNone := tag_of_options hMethod hAddresses h
        rw [hNone] at hHeader
        contradiction
    · have hPost' : q.method = "POST" := hPost
      rcases hMethod with hMethod | hMethod <;> simp [hPost'] at hMethod
  | @created set' id data tag' hMethod hRoute hInserted hTag =>
    -- the record was created, and the response says where it is
    have hKept := Store.kept_newRecord hInserted.stamped data id
    have hHeader' := tag_created hTags set' tag' (Store.newRecord data id s.stamp)
    have hLocation' := location_created settings set' tag' hKept.ident
    rcases hx.names with hAddresses | ⟨-, hCollection, hLocation⟩
    · exact absurd hRoute (hPath hAddresses)
    · obtain rfl : set' = set := Route.collection.inj (hRoute.symm.trans hCollection)
      obtain rfl := location_inj (Option.some.inj (hLocation'.symm.trans hLocation))
      obtain rfl : tag' = tag := Option.some.inj (hHeader'.symm.trans hHeader)
      have hAdded := hSound.added hInserted
      have hLast := hInserted.lastStamp
      refine ⟨s.nextStamp, Except.ok.inj (hTag.symm.trans hKept.tag), ?_, ?_⟩
      · exact ⟨_, s.nextStamp, hAdded.rows.get?_self, hLast ▸ hKept⟩
      · rw [hDeclares, hInserted.declared]
  | @changed set' key' old data tag' hMethod hAddresses' hDeclared hRecord hStamp hStore hTag =>
    rcases hx.names with hAddresses | ⟨-, hCollection, -⟩
    · obtain ⟨rfl, rfl⟩ := addresses_inj hAddresses hAddresses'
      rw [changedResponse, tag_json hTags] at hHeader
      obtain rfl : tag' = tag := Option.some.inj hHeader
      obtain ⟨created, updated, hOld⟩ := hSound.kept set key old hRecord
      have hKept := hOld.changed hStamp data
      obtain ⟨hChanged, hLast⟩ := hSound.changedStamped hDeclared hRecord hStore
      refine ⟨s.nextStamp, Except.ok.inj (hTag.symm.trans hKept.tag), ?_, ?_⟩
      · exact ⟨_, created, hChanged.rows.get?_self, hLast ▸ hKept⟩
      · rw [hDeclares, hDeclared]
    · exact absurd hCollection (hPath hAddresses')

end Service

end ODataService
