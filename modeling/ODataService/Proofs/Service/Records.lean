import ODataService.Proofs.Store.Reachable

/-!
# Writing single records

How the service on the store in memory answers requests that add, change or remove a record: one
equation for each way in which such a request can go. They are about the actions behind a request;
`ODataService.Proofs.Service.Frame` is about whole requests.
-/

namespace ODataService

open ODataService.Action

/-! ## Registered types and tags -/

/-- The registry finds a type where the store has it declared. -/
theorem Store.registry_find? (s : Store) (name : String) :
    s.registry.find? name = Assoc.get? s.types name := by
  rw [Registry.find?, Store.registry]
  -- the registry lists the types of the store under the same names
  induction s.types with
  | nil => rfl
  | cons e types ih =>
    obtain ⟨k, t⟩ := e
    rw [List.map_cons, Keyed.get?, Assoc.get?]
    by_cases hk : k = name
    · rw [if_pos hk, if_pos (Scalar.sameKey_str_iff.mpr hk)]
      rfl
    · rw [if_neg hk, if_neg (mt Scalar.sameKey_str_iff.mp hk), ih]

/-- A record with a text as the time of its last write has a tag. -/
theorem EntityTag.exists_tag {r : Record} {text : String}
    (h : Keyed.get? r "updated_at" = some (.str text)) : ∃ tag, ofRecord r = .ok tag := by
  have hmember : Json.member r timestampField = .str text := by
    rw [Json.member, timestampField, h]
    rfl
  unfold ofRecord timeMillis
  rw [hmember]
  dsimp only
  -- a text that is no time has no time, and the tag comes from the identifier
  cases Time.Timestamp.parse (withOffset (Text.strip text)) with
  | ok micros => exact ⟨_, rfl⟩
  | error fault => exact ⟨_, rfl⟩

/-- Records of sound stores have tags. -/
theorem Store.Sound.exists_tag {s : Store} (hs : s.Sound) {set key : String} {r : Record}
    (hr : s.record? set key = some r) : ∃ tag, EntityTag.ofRecord r = .ok tag := by
  obtain ⟨created, updated, hk⟩ := hs.kept set key r hr
  exact EntityTag.exists_tag hk.updated_at

namespace Service

variable {settings : Settings} {w : World Store} {set key : String} {q : Http.Request}
  {r old data : Record} {tag : String}

theorem exec_registry :
    (inMemory settings).registry.exec w = (.ok w.store.registry, w) := rfl

/-- A declared entity set passes. -/
theorem exec_requireSet (h : w.store.declares set = true) :
    ((inMemory settings).requireSet set).exec w = (.ok (), w) := by
  obtain ⟨t, ht⟩ := Option.isSome_iff_exists.mp h
  have hfind : w.store.registry.find? set = some t := by rw [Store.registry_find?, ht]
  rw [requireSet, exec_bind_ok exec_registry]
  simp only [hfind]
  rfl

/-- An entity set that is not declared is refused. -/
theorem exec_requireSet_undeclared (settings : Settings) (h : w.store.declares set = false) :
    ∃ r, ((inMemory settings).requireSet set).exec w = (.error (.rejected r), w) := by
  -- the registry does not know the set
  have hfind : w.store.registry.find? set = none := by
    rw [Store.registry_find?]
    simpa [Store.declares, Assoc.has] using h
  rw [requireSet, exec_bind_ok exec_registry]
  simp only [hfind]
  exact ⟨_, rfl⟩

/-- Getting a record from a declared set hands it out, if it is there. -/
theorem exec_engineGet (h : w.store.declares set = true) :
    ((inMemory settings).engine.get set key).exec w =
      (.ok ((w.store.record? set key).map .obj), w) :=
  exec_bind_ok (Store.exec_fetch h)

/-- A value that can be used is handed on. -/
theorem exec_usable {α : Type} {x : Except ValueFault α} {a : α} (h : x = .ok a) :
    (usable x : Action (World Store) α).exec w = (.ok a, w) := by
  rw [h]
  rfl

/-- A record that was found is handed on. -/
theorem exec_present :
    (present set key ((some r).map .obj) : Action (World Store) Json).exec w = (.ok (.obj r), w) :=
  rfl

/-! ## Conditions -/

/-- The tag of a record is that of its time, or of its contents. -/
theorem exec_tagOf (h : EntityTag.ofRecord r = .ok tag) :
    (tagOf (.obj r)).exec w = (.ok tag, w) := by
  have hrecord : (Json.obj r).asRecord = .ok r := rfl
  rw [tagOf, exec_bind_ok (exec_usable hrecord), h]
  rfl

/-- The tag of a record is handed out where tags are switched on. -/
theorem exec_tag? (h : EntityTag.ofRecord r = .ok tag) :
    ((inMemory settings).tag? (.obj r)).exec w =
      (.ok (if settings.entityTags then some tag else none), w) := by
  -- the settings alone decide whether there is a tag
  change (if settings.entityTags then _ else _ : Action (World Store) _).exec w = _
  split
  · rw [map_eq_pure_bind, exec_bind_ok (exec_tagOf h)]
    rfl
  · rfl

/-- The record meets the condition of a request, if it has one. -/
def Meets (settings : Settings) (q : Http.Request) (r : Record) : Prop :=
  ∀ ifMatch, (inMemory settings).condition? q = some ifMatch →
    ∃ tag, EntityTag.ofRecord r = .ok tag ∧ EntityTag.satisfies tag (some ifMatch) = true

/-- The rejection of a condition that is not met. -/
def mismatch : Rejection :=
  ⟨.preconditionFailed, "Precondition Failed: ETag mismatch", some "If-Match", none⟩

/-- A request whose condition is met may go on. -/
theorem exec_checkCondition (hd : w.store.declares set = true)
    (hr : w.store.record? set key = some r) (h : Meets settings q r) :
    ((inMemory settings).checkCondition set key q).exec w = (.ok (), w) := by
  unfold checkCondition
  split
  · rfl
  -- the record is there, and its tag satisfies the condition
  · next ifMatch hc =>
    obtain ⟨tag, htag, hsat⟩ := h ifMatch hc
    rw [exec_bind_ok (exec_engineGet hd), hr, exec_bind_ok exec_present,
      exec_bind_ok (exec_tagOf htag), EntityTag.require, if_pos hsat]
    rfl

/-- A request whose condition is not met is refused. -/
theorem exec_checkCondition_unmet (hd : w.store.declares set = true)
    (hr : w.store.record? set key = some r) (htag : EntityTag.ofRecord r = .ok tag)
    (h : ¬ Meets settings q r) :
    ((inMemory settings).checkCondition set key q).exec w = (.error (.rejected mismatch), w) := by
  unfold checkCondition
  split
  · next hc => exact absurd (fun ifMatch hc' => by simp [hc] at hc') h
  · next ifMatch hc =>
    -- the only condition of the request is the one that is not met
    have hsat : ¬ EntityTag.satisfies tag (some ifMatch) = true := by
      intro hsat
      refine h fun ifMatch' hc' => ⟨tag, htag, ?_⟩
      obtain rfl : ifMatch = ifMatch' := Option.some.inj (hc.symm.trans hc')
      exact hsat
    rw [exec_bind_ok (exec_engineGet hd), hr, exec_bind_ok exec_present,
      exec_bind_ok (exec_tagOf htag), EntityTag.require, if_neg hsat]
    rfl

/-- Without a record only a request without a condition may go on. -/
theorem exec_checkCondition_gone (hd : w.store.declares set = true)
    (hr : w.store.record? set key = none) :
    ((inMemory settings).checkCondition set key q).exec w = (.ok (), w) ∨
      ((inMemory settings).checkCondition set key q).exec w =
        (.error (.rejected (missing set key)), w) := by
  -- without a condition nothing is looked up
  unfold checkCondition
  split
  · exact .inl rfl
  · refine .inr ?_
    rw [exec_bind_ok (exec_engineGet hd), hr]
    rfl

/-! ## Changing -/

/-- A body that is not read decides the outcome, and the store stays as it is. -/
theorem exec_replyUpdate_unread {f : Failure} (hb : Content.readRecord q.body.toText = .error f) :
    ((inMemory settings).replyUpdate set key q).exec w = (.error f, w) := by
  rw [replyUpdate, exec_bind_error (exec_ofResult_error hb w)]

/-- The operation of the engine is that of the store, on values. -/
theorem exec_engineUpdate {x : Option Record} {w' : World Store}
    (h : (Store.update set key data).exec w = (.ok x, w')) :
    ((inMemory settings).engine.update set key data).exec w = (.ok (x.map .obj), w') :=
  exec_bind_ok h

/-- A record that is not there is answered as missing, with a condition or without. -/
theorem exec_replyUpdate_gone (hb : Content.readRecord q.body.toText = .ok data)
    (hd : w.store.declares set = true) (hr : w.store.record? set key = none) :
    ((inMemory settings).replyUpdate set key q).exec w =
      (.error (.rejected (missing set key)), w) := by
  rw [replyUpdate, exec_bind_ok (exec_ofResult_ok hb w)]
  -- without a condition it is the update that finds no record
  rcases exec_checkCondition_gone hd hr with hc | hc
  · rw [exec_bind_ok hc, exec_bind_ok (exec_engineUpdate (Store.exec_update_missing hd hr))]
    rfl
  · rw [exec_bind_error hc]

/-- A condition that is not met is refused in front of the update. -/
theorem exec_replyUpdate_unmet (hb : Content.readRecord q.body.toText = .ok data)
    (hd : w.store.declares set = true) (hr : w.store.record? set key = some r)
    (htag : EntityTag.ofRecord r = .ok tag) (h : ¬ Meets settings q r) :
    ((inMemory settings).replyUpdate set key q).exec w = (.error (.rejected mismatch), w) := by
  rw [replyUpdate, exec_bind_ok (exec_ofResult_ok hb w),
    exec_bind_error (exec_checkCondition_unmet hd hr htag h)]

/-- Where no stamp is left, the properties are changed and the request fails. -/
theorem exec_replyUpdate_unstamped {fault : Time.RangeFault}
    (hb : Content.readRecord q.body.toText = .ok data) (hd : w.store.declares set = true)
    (hr : w.store.record? set key = some old) (h : Meets settings q old)
    (hs : w.store.stampFault? = some fault) :
    ((inMemory settings).replyUpdate set key q).exec w =
      (.error (.noStamp fault),
        { w with store := w.store.changeUnstamped set (w.store.rows set) key old data }) := by
  have hupdate : ((inMemory settings).engine.update set key data).exec w = _ :=
    exec_bind_error (Store.exec_update_unstamped hd hr hs)
  rw [replyUpdate, exec_bind_ok (exec_ofResult_ok hb w),
    exec_bind_ok (exec_checkCondition hd hr h), exec_bind_error hupdate]

/-- The headers that hold the tag of a record, where tags are switched on. -/
def tagHeaders (settings : Settings) (tag : String) : Assoc String :=
  tagHeader (if settings.entityTags then some tag else none)

/-- The body of an answer with a record. -/
def recordBody (settings : Settings) (set : String) (r : Record) : Json :=
  .obj (Keyed.merge [(contextName, .str ((inMemory settings).context set ++ "/$entity"))] r)

/-- Otherwise the record is changed and answered with its new tag. -/
theorem exec_replyUpdate (hb : Content.readRecord q.body.toText = .ok data)
    (hd : w.store.declares set = true) (hr : w.store.record? set key = some old)
    (h : Meets settings q old) (hs : w.store.stampFault? = none)
    (htag : EntityTag.ofRecord (Store.changedRecord old data w.store.stamp) = .ok tag) :
    ((inMemory settings).replyUpdate set key q).exec w =
      (.ok (.json 200
          (recordBody settings set (Store.changedRecord old data w.store.stamp))
          (tagHeaders settings tag)),
        { w with store := (w.store.change set (w.store.rows set) key old data).2 }) := by
  have hbody : (inMemory settings).entityBody set
      (.obj (Store.changedRecord old data w.store.stamp)) = .ok (recordBody settings set _) := rfl
  -- step by step: the body, the condition, the change, the response
  rw [replyUpdate, exec_bind_ok (exec_ofResult_ok hb w),
    exec_bind_ok (exec_checkCondition hd hr h),
    exec_bind_ok (exec_engineUpdate (Store.exec_update_stamped hd hr hs)),
    exec_bind_ok exec_present, exec_bind_ok (exec_usable hbody),
    exec_bind_ok (exec_tag? htag)]
  rfl

/-! ## Removing -/

/-- A record that is not there is answered as missing. -/
theorem exec_replyDelete_gone (hd : w.store.declares set = true)
    (hr : w.store.record? set key = none) :
    ((inMemory settings).replyDelete set key q).exec w =
      (.error (.rejected (missing set key)), w) := by
  rw [replyDelete]
  -- the record is missed by the deletion, or by the condition in front of it
  rcases exec_checkCondition_gone hd hr with hc | hc
  · have hdelete : ((inMemory settings).engine.delete set key).exec w = _ :=
      Store.exec_delete_missing hd hr
    rw [exec_bind_ok hc, exec_bind_ok hdelete]
    rfl
  · rw [exec_bind_error hc]

/-- A condition that is not met is refused in front of the deletion. -/
theorem exec_replyDelete_unmet (hd : w.store.declares set = true)
    (hr : w.store.record? set key = some r) (htag : EntityTag.ofRecord r = .ok tag)
    (h : ¬ Meets settings q r) :
    ((inMemory settings).replyDelete set key q).exec w = (.error (.rejected mismatch), w) := by
  rw [replyDelete, exec_bind_error (exec_checkCondition_unmet hd hr htag h)]

/-- Otherwise the record is removed, and the answer is empty. -/
theorem exec_replyDelete (hd : w.store.declares set = true)
    (hr : w.store.record? set key = some r) (h : Meets settings q r) :
    ((inMemory settings).replyDelete set key q).exec w =
      (.ok (.empty 204 []),
        { w with store := w.store.setTable set (Assoc.erase (w.store.rows set) key) }) := by
  have hdelete : ((inMemory settings).engine.delete set key).exec w = _ := Store.exec_delete hd hr
  rw [replyDelete, exec_bind_ok (exec_checkCondition hd hr h), exec_bind_ok hdelete]
  rfl

/-! ## Adding -/

/-- A body that is not read decides the outcome, and the store stays as it is. -/
theorem exec_replyCreate_unread {f : Failure} (hb : Content.readRecord q.body.toText = .error f) :
    ((inMemory settings).replyCreate set q).exec w = (.error f, w) := by
  rw [replyCreate, exec_bind_error (exec_ofResult_error hb w)]

/-- The response to a request that has added a record. -/
def createdResponse (settings : Settings) (set : String) (r : Record) (tag : String) :
    Http.Response :=
  .json 201 (recordBody settings set r)
    (tagHeaders settings tag ++ (inMemory settings).locationHeader set r)

/-- The answer says where the record is: the address is built from the identifier that the store has
filled in. -/
theorem location_created (settings : Settings) (set tag : String) {id : String}
    (hid : Keyed.get? r "_id" = some (.str id)) :
    Assoc.get? (createdResponse settings set r tag).headers "Location" =
      some s!"{settings.basePath}/{set}('{id}')" := by
  have hidentifier : identifierOf r = .str id := by
    rw [identifierOf, Query.idField, hid]
    rfl
  -- the identifier is a text, so there is a header
  have hheader : (inMemory settings).locationHeader set r =
      [("Location", s!"{settings.basePath}/{set}('{id}')")] := by
    rw [locationHeader, hidentifier]
    rfl
  rw [createdResponse, hheader]
  unfold tagHeaders
  split <;> rfl

/-- A record is added and answered with its tag, or nothing is added. -/
theorem exec_replyCreate (settings : Settings) (set : String) (w : World Store)
    (hb : Content.readRecord q.body.toText = .ok data) :
    (∃ id tag w', ((inMemory settings).replyCreate set q).exec w =
        (.ok (createdResponse settings set (Store.newRecord data id w.store.stamp) tag), w') ∧
      Store.Inserted w.store set data id w'.store ∧
      EntityTag.ofRecord (Store.newRecord data id w.store.stamp) = .ok tag) ∨
    ∃ f w', ((inMemory settings).replyCreate set q).exec w = (.error f, w') ∧
      Store.SameData w.store w'.store := by
  rw [replyCreate, exec_bind_ok (exec_ofResult_ok hb w)]
  rcases Store.exec_insert set data w with ⟨id, w', hins, h⟩ | ⟨f, w', hins, hsame⟩
  · have hcreate : ((inMemory settings).engine.create set data).exec w = _ := exec_bind_ok hins
    -- what was stored is a record with a stamp, so none of the steps behind can fail
    have hupdated := Store.get?_newRecord (k := "updated_at") (by decide) data id w.store.stamp
    obtain ⟨tag, htag⟩ := EntityTag.exists_tag hupdated
    refine .inl ⟨id, tag, w', ?_, h, htag⟩
    have hrecord : (Json.obj (Store.newRecord data id w.store.stamp)).asRecord = .ok _ := rfl
    have hbody : (inMemory settings).entityBody set
        (.obj (Store.newRecord data id w.store.stamp)) = .ok (recordBody settings set _) := rfl
    rw [exec_bind_ok hcreate, exec_bind_ok (exec_tag? htag), exec_bind_ok (exec_usable hrecord),
      exec_bind_ok (exec_usable hbody)]
    rfl
  -- what could not be inserted is reported, and no data has changed
  · have hcreate : ((inMemory settings).engine.create set data).exec w = _ := exec_bind_error hins
    exact .inr ⟨f, w', exec_bind_error hcreate, hsame⟩

end Service

end ODataService
