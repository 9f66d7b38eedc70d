import ODataService.Proofs.Expand.Chain
import ODataService.Proofs.Service.Bodies
import ODataService.Proofs.Service.Envelopes
import ODataService.Proofs.Service.Reads

/-!
# Faults of callers

A request to the service on the store in memory fails only by the fault of the caller: a reader
refuses one of its texts, it asks for what does not exist, or the store refuses its record. So no
request that is no batch is answered with an internal error, whatever its method, path, query,
headers and body are.

This needs settings of the declared kinds, fields that refer to other types by name, a clock that
still gives stamps, and a stack with room for what is nested in the request and in the store
(`Service.FitsStack`). The last is the one way in which callers can bring about an internal error: a
body that is nested too deep is answered as an incident (`Service.handle_nested`).

Most steps of a request would fail on values of the wrong kind: a tag needs a record with a time, an
embedded record needs a record to stand in, a reference needs a name. So the proof follows what each
step hands to the next (`Serves`): the store hands out records, all of which have tags, and what is
embedded in records or selected from them are records again.

Main results: `Service.no_internal_errors` and `Service.handle_nested`.
-/

namespace ODataService

open ODataService.Action

/-! ## Failures -/

/-- The failure is the fault of a caller: a refusal by a protocol layer that is answered as such, or
one of the errors by which the store in memory says what is missing or not valid. -/
inductive Failure.IsCallers : Failure → Prop where
  | rejected (r : Rejection) (h : r.code.status < 500) : IsCallers (.rejected r)
  | unknownType (name : String) : IsCallers (.unknownType name)
  | missingFields (type : String) (fields : List String) : IsCallers (.missingFields type fields)
  | duplicateId (type id : String) : IsCallers (.duplicateId type id)

/-- An incident is answered with the status of its class, in debug mode, too. -/
theorem Incident.status_toErrorBody (debug : Bool) (i : Incident) :
    (i.toErrorBody debug).status = i.classify.1.status := by
  have hname := ErrorCode.ofName?_name i.classify.1
  unfold toErrorBody
  dsimp only
  split
  · rw [ErrorBody.status, ErrorBody.ofCode, hname]
  · rw [ErrorBody.status, ErrorBody.ofCode, hname]

/-- Callers are told that the fault is theirs. -/
theorem Failure.IsCallers.status_lt {f : Failure} (h : f.IsCallers) (debug : Bool) :
    (f.toErrorBody debug).status < 500 := by
  have hclass {f : Failure} {c : ErrorCode} (h : f.incident.classify.1 = c) (hc : c.status < 500) :
      (f.incident.toErrorBody debug).status < 500 := by
    rw [Incident.status_toErrorBody, h]
    exact hc
  cases h with
  | rejected r h =>
    rw [status_rejected]
    exact h
  | unknownType name =>
    exact hclass (f := .unknownType name) (c := .notFound) rfl (by decide)
  | missingFields type fields =>
    exact hclass (f := .missingFields type fields) (c := .badRequest) rfl (by decide)
  | duplicateId type id =>
    exact hclass (f := .duplicateId type id) (c := .badRequest) rfl (by decide)

/-! ## What steps hand on -/

section Serves

variable {ω α β : Type} {I J K : ω → Prop} {Q : α → Prop} {R : β → Prop}

/-- All states. -/
def Anywhere (_ : ω) : Prop := True

/-- From the states in `I` the action comes to a result with the property `Q` and a state in `J`, or
it fails by the fault of a caller. -/
def Serves (I J : ω → Prop) (Q : α → Prop) (a : Action ω α) : Prop :=
  ∀ w, I w → Batch.Meets (fun x => Q x ∧ J (a.exec w).2) Failure.IsCallers (a.exec w).1

namespace Serves

theorem pure {x : α} (h : Q x) : Serves I I Q (Pure.pure x) := fun _ hw => ⟨h, hw⟩

theorem fail {f : Failure} (h : f.IsCallers) : Serves I J Q (Action.fail f) := fun _ _ => h

theorem reject {r : Rejection} (h : r.code.status < 500) : Serves I J Q (Action.reject r) :=
  .fail (.rejected r h)

/-- A step hands on what the next one needs, a property of the result and of the state. -/
theorem bind {a : Action ω α} {f : α → Action ω β} (ha : Serves I J Q a)
    (hf : ∀ x, Q x → Serves J K R (f x)) : Serves I K R (a >>= f) := by
  intro w hw
  have hresult := ha w hw
  rw [exec_bind]
  rcases hx : a.exec w with ⟨e | x, w'⟩
  · -- the failure of the first step is that of both
    rw [hx] at hresult
    exact hresult
  · rw [hx] at hresult
    exact hf x hresult.1 w' hresult.2

/-- After the last step the state does not matter any more. -/
theorem anywhere {a : Action ω α} (ha : Serves I J Q a) : Serves I Anywhere Q a :=
  fun w hw => (ha w hw).imp (fun _ hx => ⟨hx.1, trivial⟩) fun _ hf => hf

/-- A reading that refuses with a status below 500 blames the caller. -/
theorem ofRejection {status : Nat} {x : Except Rejection α} (hx : RefusesWith status x)
    (hstatus : status < 500) : Serves I I (fun _ => True) (Action.ofRejection x) := by
  cases x with
  | ok a => exact .pure trivial
  | error r =>
    have hr := hx r rfl
    exact .reject (by omega)

/-- A known result serves if its failure is a caller's. -/
theorem ofResult {x : Except Failure α} (hx : ∀ f, x = .error f → f.IsCallers) :
    Serves I I (fun _ => True) (Action.ofResult x) := by
  cases x with
  | ok a => exact .pure trivial
  | error f => exact .fail (hx f rfl)

/-- Whatever text of a request is refused as a bad request, it is the caller who sent it. -/
theorem ofReader {x : Except Rejection α} (hx : RefusesWith 400 x) :
    Serves I I (fun _ => True) (Action.ofRejection x) :=
  .ofRejection hx (by decide)

/-- Steps that hand on the same property from one to the next serve as a whole. -/
theorem foldlM {f : α → β → Action ω α} (hf : ∀ x y, Q x → Serves I I Q (f x y)) (ys : List β)
    {x : α} (hx : Q x) : Serves I I Q (ys.foldlM f x) := by
  induction ys generalizing x with
  | nil => exact .pure hx
  | cons y ys ih =>
    rw [List.foldlM_cons]
    exact .bind (hf x y hx) fun x' hx' => ih hx'

end Serves

end Serves

/-! ## The store -/

/-- The values are records. -/
def AreRecords (vs : List Json) : Prop := ∃ rows : List Record, vs = rows.map .obj

/-- The value is a record that has a tag. -/
def IsTagged (v : Json) : Prop := ∃ r tag, v = .obj r ∧ EntityTag.ofRecord r = .ok tag

namespace Store

/-- All fields of the declared types refer to other types by name, or to nothing. -/
def RefersByName (s : Store) : Prop :=
  ∀ name t, Assoc.get? s.types name = some t → ∀ field f, Assoc.get? t.fields field = some f →
    f.reference = .null ∨ ∃ target, f.reference = .str target

/-- The worlds with a given store. -/
def At (s : Store) (w : World Store) : Prop := w.store = s

variable {s : Store}

theorem serves_get : Serves (At s) (At s) (At s) (get : Run (World Store)) := fun _ hw => ⟨hw, hw⟩

theorem serves_put (s' : Store) : Serves (At s) Anywhere (fun _ => True) (put s') :=
  fun _ _ => ⟨trivial, trivial⟩

/-- The table of a declared set is handed out, and an undeclared set is the fault of the caller. -/
theorem serves_tableOf (name : String) :
    Serves (At s) (At s) (fun t => t = s.rows name ∧ s.declares name = true) (tableOf name) := by
  rintro w rfl
  cases hd : w.store.declares name with
  | true =>
    rw [exec_tableOf hd]
    exact ⟨⟨rfl, rfl⟩, rfl⟩
  | false =>
    rw [exec_tableOf_undeclared hd]
    exact .unknownType name

/-- A record is looked for by its identifier, and all that are stored have tags. -/
theorem serves_engineGet (hs : s.Sound) (name id : String) :
    Serves (At s) (At s) (fun v => ∀ x, v = some x → IsTagged x) (engine.get name id) := by
  refine .bind (Q := fun r => r = s.record? name id) (.bind (serves_tableOf name) fun t ht => ?_)
    fun r hr => .pure ?_
  · rw [ht.1]
    exact .pure rfl
  · intro x hx
    obtain ⟨stored, hstored, rfl⟩ := Option.map_eq_some_iff.1 hx
    obtain ⟨tag, htag⟩ := hs.exists_tag (hr.symm.trans hstored)
    exact ⟨stored, tag, rfl, htag⟩

/-- Counting fails for undeclared sets only. -/
theorem serves_engineCount (name : String) (q : Query) :
    Serves (At s) (At s) (fun _ => True) (engine.count name q) :=
  .bind (Q := fun _ => True) (.bind (serves_tableOf name) fun _ _ => .pure trivial) fun _ _ =>
    .pure trivial

/-- What is found are records. -/
theorem serves_engineFind (name : String) (q : Query) :
    Serves (At s) (At s) AreRecords (engine.find (.str name) q) := by
  refine .bind (Q := (· = name)) (.pure rfl) fun name' hname' =>
    .bind (Q := fun _ => True) ?_ fun rows _ => .pure ⟨rows, rfl⟩
  exact .bind (serves_tableOf name') fun _ _ => .pure trivial

/-- Lacking a required field is the fault of the caller. -/
theorem serves_checkRequired (name : String) (data : Record) :
    Serves (At s) (At s) (fun _ => True) (checkRequired name data) := by
  refine .bind serves_get fun w _ => ?_
  split
  · exact .fail (.missingFields name _)
  · exact .pure trivial

/-- An identifier is given or handed out, and the store stays as it is. -/
theorem serves_chooseId (data : Record) :
    Serves (At s) (At s) (fun _ => True) (chooseId data) := by
  unfold chooseId
  split
  · exact .pure trivial
  · exact fun _ hw => ⟨trivial, hw⟩

/-- A record that is added gets a time, hence a tag. -/
theorem serves_engineCreate (hstamp : s.stampFault? = none) (name : String) (data : Record) :
    Serves (At s) Anywhere IsTagged (engine.create name data) := by
  refine .bind (Q := fun r => ∃ tag, EntityTag.ofRecord r = .ok tag) ?_
    fun r ⟨tag, htag⟩ => .pure ⟨r, tag, rfl, htag⟩
  refine .bind (serves_tableOf name) fun t _ => .bind (serves_checkRequired name data) fun _ _ =>
    .bind (serves_chooseId data) fun id _ => ?_
  split
  · exact .fail (.duplicateId name id)
  · refine .bind serves_get fun w hw => ?_
    obtain rfl : w.store = s := hw
    -- the clock still gives stamps, and the new record has the stamp as its time
    rw [hstamp]
    have hupdated := get?_newRecord (k := "updated_at") (by decide) data id w.store.stamp
    exact .bind (serves_put _) fun _ _ => .pure (EntityTag.exists_tag hupdated)

/-- A record that is changed gets a new time, hence a tag. -/
theorem serves_engineUpdate (hstamp : s.stampFault? = none) (name id : String) (data : Record) :
    Serves (At s) Anywhere (fun v => ∀ x, v = some x → IsTagged x)
      (engine.update name id data) := by
  refine .bind (Q := fun v => ∀ r, v = some r → ∃ tag, EntityTag.ofRecord r = .ok tag) ?_
    fun v hv => .pure ?_
  · refine .bind (serves_tableOf name) fun t _ => ?_
    split
    · exact .anywhere (.pure fun r hr => absurd hr (by simp))
    · next old _ =>
      refine .bind serves_get fun w hw => ?_
      obtain rfl : w.store = s := hw
      -- whatever time the data bring along, the stamp is written over it
      rw [hstamp]
      have hupdated := get?_changedRecord_updated old data w.store.stamp
      refine .bind (serves_put _) fun _ _ => .pure fun r hr => ?_
      rw [← Option.some.inj hr]
      exact EntityTag.exists_tag hupdated
  · intro x hx
    obtain ⟨r, rfl, rfl⟩ := Option.map_eq_some_iff.1 hx
    obtain ⟨tag, htag⟩ := hv r rfl
    exact ⟨r, tag, rfl, htag⟩

/-- Removing a record fails for undeclared sets only. -/
theorem serves_engineDelete (name id : String) :
    Serves (At s) Anywhere (fun _ => True) (engine.delete name id) := by
  refine .bind (serves_tableOf name) fun t _ => ?_
  split
  · refine .bind serves_get fun w _ => .bind (serves_put _) fun _ _ => .pure trivial
  · exact .anywhere (.pure trivial)

end Store

/-! ## Related records -/

namespace Expand

variable {s : Store}

/-- Values that are records pass the check that they are. -/
theorem serves_requireRecords {vs : List Json} (hvs : AreRecords vs) {I : World Store → Prop} :
    Serves I I (fun _ => True) (requireRecords vs) := by
  obtain ⟨rows, rfl⟩ := hvs
  intro w hw
  rw [exec_requireRecords]
  exact ⟨trivial, hw⟩

/-- A text to be expanded is refused, or what is read of it belongs to a type that is declared. -/
theorem readEntries_str (set text : String) :
    (∃ r, readEntries s.registry (.str set) text = .error (.rejected r) ∧ r.code.status < 500) ∨
      readEntries s.registry (.str set) text = .ok none ∨
      ∃ es t, readEntries s.registry (.str set) text = .ok (some (es, t)) ∧
        Assoc.get? s.types set = some t := by
  unfold readEntries
  split
  · exact .inr (.inl rfl)
  · cases hparse : parse text with
    | error r =>
      have hstatus := parse_refuses text r hparse
      exact .inl ⟨r, rfl, by omega⟩
    | ok es =>
      -- a name that is a text is looked up, so the only question is whether its type is declared
      have hresolve : s.registry.resolve? (.str set) = .ok (Assoc.get? s.types set) :=
        congrArg Except.ok (Store.registry_find? s set)
      rw [hresolve]
      cases Assoc.get? s.types set with
      | none => exact .inr (.inl rfl)
      | some t => exact .inr (.inr ⟨es, t, rfl, rfl⟩)

/-- With the given number of levels, texts are resolved in records, and what comes of it are records
again. -/
def ResolvesRecords (s : Store) (levels : Nat) : Prop :=
  ∀ (set : String) (vs : List Json) (text : String), AreRecords vs →
    Serves (Store.At s) (Store.At s) AreRecords
      (resolve ⟨s.registry, Store.engine.find⟩ levels (.str set) vs text)

/-- The records of some keys are found, read again on the level below, and are records. -/
theorem serves_related {levels : Nat} (hdeeper : ResolvesRecords s levels) (target : String)
    (keys : List Scalar) (e : Entry) :
    Serves (Store.At s) (Store.At s) (fun _ => True)
      (related ⟨s.registry, Store.engine.find⟩ levels
        (outcome ⟨s.registry, Store.engine.find⟩ levels) (.str target) keys e) := by
  rw [related_eq]
  refine .bind (.ofReader (nestedProperties_refuses _ _)) fun keep _ =>
    .bind (.ofReader (relatedQuery_refuses _ _ _)) fun q _ =>
    .bind (Store.serves_engineFind target q) fun found hfound =>
    .bind (Q := AreRecords) ?_ fun done hdone => serves_requireRecords hdone
  -- what is nested in the entry is resolved one level deeper
  unfold resolveNested
  split
  · exact .pure hfound
  · exact hdeeper target found _ hfound

/-- A field that is a relationship refers to the type that it names. -/
theorem serves_resolveEntry {levels : Nat} (hdeeper : ResolvesRecords s levels) {type : ObjectType}
    (href : ∀ field f, Assoc.get? type.fields field = some f →
      f.reference = .null ∨ ∃ target, f.reference = .str target)
    {vs : List Json} (hvs : AreRecords vs) (e : Entry) :
    Serves (Store.At s) (Store.At s) AreRecords
      (resolveEntry ⟨s.registry, Store.engine.find⟩ levels
        (outcome ⟨s.registry, Store.engine.find⟩ levels) type vs e) := by
  unfold resolveEntry
  split
  · exact .pure hvs
  · next f hf =>
    split
    · next hrelationship =>
      -- a relationship refers to something, so it does so by name
      have hreference : f.reference ≠ .null := by
        intro hnull
        simp [Field.isRelationship, hnull, Json.isVoid] at hrelationship
      obtain ⟨target, htarget⟩ := (href _ f hf).resolve_left hreference
      unfold resolveRelationship
      rw [htarget]
      refine .bind (serves_requireRecords hvs) fun rows _ => ?_
      split
      · exact .pure hvs
      · exact .bind (serves_related hdeeper target _ e) fun found _ =>
          .pure ⟨rows.map (embed e.property found), by simp⟩
    · exact .pure hvs

/-- Texts are resolved in records on any number of levels. -/
theorem resolvesRecords (hrefs : s.RefersByName) (levels : Nat) : ResolvesRecords s levels := by
  -- by induction on the levels; on one level, the entries hand records from one to the next
  induction levels with
  | zero => exact fun set vs text hvs => .pure hvs
  | succ levels ih =>
    intro set vs text hvs
    rw [resolve_succ]
    split
    · exact .pure hvs
    · rcases readEntries_str (s := s) set text with
        ⟨r, hread, hstatus⟩ | hread | ⟨es, t, hread, ht⟩
      · rw [hread]
        exact .reject hstatus
      · rw [hread]
        exact .pure hvs
      · rw [hread]
        exact .foldlM (fun vs e hvs => serves_resolveEntry ih (hrefs set t ht) hvs e) es hvs

end Expand

/-! ## Answers -/

/-- The settings have values of the declared kinds, as far as they may have others: the namespace is
a text and the depth of expansions a number. -/
structure Settings.IsTyped (settings : Settings) : Prop where
  space : ∃ text, settings.space = .str text
  expandDepth : ∃ levels whole, settings.expandDepth = .number levels whole

/-- What is wrong with a body is the fault of the caller, where there is room to read it. -/
theorem Content.HasRoom.isCallers {body : String} (h : HasRoom body) {f : Failure}
    (hf : readRecord body = .error f) : f.IsCallers := by
  rcases readRecord_error hf with ⟨r, rfl, hr⟩ | ⟨c, rfl⟩
  · exact .rejected r (by omega)
  · exact absurd hf (h c)

namespace Service

open Store (At)

/-- The places of a text where a filter or an expansion can go one level deeper: the opening
parentheses and the occurrences of `not`. -/
def nestingMarks (text : String) : Nat :=
  text.toList.count '(' + text.toList.tails.countP (['n', 'o', 't'].isPrefixOf ·)

/-- The stack has room for what is nested in a request and in the store. Of the readers, only that
of the body counts its levels here (`Content.maxLevels`). Filters and expansions are read, and
records are written, with no bound here; the service that is described reads a parenthesis by four
calls and writes a level by one, out of a thousand in all. The bounds keep well within that. -/
structure FitsStack (s : Store) (q : Http.Request) : Prop where
  body : Content.HasRoom q.body.toText
  query : ∀ p ∈ paramsOf q, p.1 = "$filter" ∨ p.1 = "$expand" → nestingMarks p.2 ≤ 100
  records : ∀ table ∈ s.tables, ∀ e ∈ table.2, (Json.obj e.2).levels ≤ 400

variable {settings : Settings} {s : Store} {I : World Store → Prop}

/-- A refusal with a code below 500 blames the caller. -/
theorem serves_refuse {α : Type} {J : World Store → Prop} {Q : α → Prop} {code : ErrorCode}
    (hcode : code.status < 500) (message : String) (target : Option String) :
    Serves I J Q (refuse code message target) :=
  .reject hcode

/-- A value of the right kind is handed on. -/
theorem serves_usable {α : Type} {x : Except ValueFault α} {a : α} (h : x = .ok a) :
    Serves I I (· = a) (usable x : Action (World Store) α) := by
  rw [h]
  exact .pure rfl

/-- A record that was found has what all found records have; a missing one is the fault of the
caller. -/
theorem serves_present {set key : String} {v : Option Json} {Q : Json → Prop}
    (hv : ∀ x, v = some x → Q x) : Serves I I Q (present set key v) := by
  cases v with
  | none => exact .reject (show ErrorCode.notFound.status < 500 by decide)
  | some x => exact .pure (hv x rfl)

/-- The registry is that of the store. -/
theorem serves_registry :
    Serves (At s) (At s) (· = s.registry) (inMemory settings).registry := by
  rintro w rfl
  exact ⟨rfl, rfl⟩

/-- A wrong method is the fault of the caller. -/
theorem serves_requireMethod (method allowed : String) :
    Serves I I (fun _ => True) (requireMethod method allowed : Action (World Store) Unit) := by
  unfold requireMethod
  split
  · exact .pure trivial
  · exact serves_refuse (by decide) _ _

/-- An entity set that is not declared is the fault of the caller. -/
theorem serves_requireSet (set : String) :
    Serves (At s) (At s) (fun _ => True) ((inMemory settings).requireSet set) := by
  refine .bind serves_registry fun g _ => ?_
  split
  · exact .pure trivial
  · exact serves_refuse (by decide) _ _

/-- Records with a tag hand it out. -/
theorem serves_tagOf {v : Json} (hv : IsTagged v) :
    Serves I I (fun _ => True) (tagOf v : Action (World Store) String) := by
  obtain ⟨r, tag, rfl, htag⟩ := hv
  refine .bind (serves_usable (a := r) rfl) fun r' hr' => ?_
  rw [hr', htag]
  exact .pure trivial

/-- Likewise where tags may be switched off. -/
theorem serves_tag? {v : Json} (hv : IsTagged v) :
    Serves I I (fun _ => True) ((inMemory settings).tag? v) := by
  unfold tag?
  split
  · rw [map_eq_pure_bind]
    exact .bind (serves_tagOf hv) fun _ _ => .pure trivial
  · exact .pure trivial

/-- A record becomes a body. -/
theorem serves_entityBody {set : String} {v : Json} {r : Record} (hv : v = .obj r) :
    Serves I I (fun _ => True) (usable ((inMemory settings).entityBody set v)) := by
  rw [hv]
  exact .pure trivial

section expansion

variable (hsettings : settings.IsTyped)

include hsettings

/-- What is to be expanded is read, or refused as a bad request. -/
theorem serves_expandedProperties (expand : Option String) :
    Serves I I (fun _ => True) ((inMemory settings).expandedProperties expand) := by
  obtain ⟨levels, whole, hdepth⟩ := hsettings.expandDepth
  have hkept : (inMemory settings).settings.expandDepth.isKept = .ok whole := by
    show settings.expandDepth.isKept = .ok whole
    rw [hdepth]
    rfl
  unfold expandedProperties
  split
  · exact .pure trivial
  · refine .bind (serves_usable hkept) fun _ _ => ?_
    split
    · exact .bind (.ofReader (Expand.parse_refuses _)) fun _ _ => .pure trivial
    · exact .pure trivial

/-- What is found stays a list of records when related ones are embedded. -/
theorem serves_expandOption (hrefs : s.RefersByName) (set : String) {found : List Json}
    (hfound : AreRecords found) (expand : Option String) :
    Serves (At s) (At s) AreRecords ((inMemory settings).expandOption set found expand) := by
  obtain ⟨levels, whole, hdepth⟩ := hsettings.expandDepth
  have hlevels : (inMemory settings).settings.expandDepth.levels = .ok levels := by
    show settings.expandDepth.levels = .ok levels
    rw [hdepth]
    rfl
  unfold expandOption
  split
  · refine .bind serves_registry fun g hg => ?_
    split
    -- without records there is nothing to embed anything in
    · exact .pure ⟨[], rfl⟩
    · refine .bind (serves_usable hlevels) fun levels' _ => ?_
      rw [hg]
      exact Expand.resolvesRecords hrefs levels' set found _ hfound
  · exact .pure hfound

/-- The projection is read from the options, or refused as a bad request. -/
theorem serves_entityFields (o : SystemOptions) :
    Serves I I (fun _ => True) ((inMemory settings).entityFields o) := by
  unfold entityFields
  split
  · exact .pure trivial
  · exact .bind (.ofReader (Query.parseSelect_refuses _)) fun _ _ =>
      .bind (serves_expandedProperties hsettings _) fun _ _ => .pure trivial

/-- The query is read from the options, or refused as a bad request. -/
theorem serves_collectionQuery (o : SystemOptions) :
    Serves I I (fun _ => True) ((inMemory settings).collectionQuery o) :=
  .bind (.ofReader (Query.ofOptions_refuses _ o)) fun _ _ =>
    .bind (serves_expandedProperties hsettings _) fun _ _ => .pure trivial

end expansion

/-- In worlds with the given store the request is answered, or it fails by the fault of the
caller. -/
def Spares (s : Store) (a : Action (World Store) Http.Response) : Prop :=
  Serves (At s) Anywhere (fun _ => True) a

/-- A response spares the caller. -/
theorem Spares.pure (r : Http.Response) :
    Spares s (Pure.pure r : Action (World Store) Http.Response) :=
  .anywhere (.pure trivial)

/-- A step in front of a response may need the store, as long as it leaves it. -/
theorem Spares.bind {α : Type} {a : Action (World Store) α} {Q : α → Prop}
    {f : α → Action (World Store) Http.Response} (ha : Serves (At s) (At s) Q a)
    (hf : ∀ x, Q x → Spares s (f x)) : Spares s (a >>= f) :=
  Serves.bind ha hf

/-! ### Reading -/

section reading

variable (hsettings : settings.IsTyped) (hs : s.Sound) (hrefs : s.RefersByName)

include hsettings hrefs

/-- Answering with a collection finds records, embeds others and counts. -/
theorem spares_replyCollection (set : String) (params : Assoc String) :
    Spares s ((inMemory settings).replyCollection set params) := by
  refine .bind (.ofReader (SystemOptions.parse_refuses params)) fun o _ =>
    .bind (serves_collectionQuery hsettings o) fun q _ =>
    .bind (Store.serves_engineFind set q) fun found hfound =>
    .bind (serves_expandOption hsettings hrefs set hfound _) fun rows _ =>
    .bind (Q := fun _ => True) ?_ fun count _ => .pure _
  unfold countMember
  split
  · exact .bind (Store.serves_engineCount set _) fun _ _ => .pure trivial
  · exact .pure trivial

include hs

/-- Answering with a record gets it, embeds others and cuts it down. -/
theorem spares_replyEntity (set key : String) (params : Assoc String) (q : Http.Request) :
    Spares s ((inMemory settings).replyEntity set key params q) := by
  refine .bind (.ofReader (SystemOptions.parse_refuses params)) fun o _ =>
    .bind (serves_entityFields hsettings o) fun fields _ =>
    .bind (Store.serves_engineGet hs set key) fun stored hstored =>
    .bind (serves_present hstored) fun v hv => .bind (serves_tag? hv) fun tag _ => ?_
  obtain ⟨r, -, rfl, -⟩ := hv
  split
  · exact .pure _
  · refine .bind (serves_expandOption hsettings hrefs set ⟨[r], rfl⟩ _) fun expanded hexpanded => ?_
    -- the record itself is there even if nothing is left of the list
    obtain ⟨r', hr'⟩ : ∃ r', expanded.headD (.obj r) = .obj r' := by
      obtain ⟨rows, rfl⟩ := hexpanded
      cases rows with
      | nil => exact ⟨r, rfl⟩
      | cons r' rows => exact ⟨r', rfl⟩
    have hprojected := projectValue_obj fields r'
    rw [hr']
    exact .bind (serves_usable hprojected) fun projected hv => .bind (serves_entityBody hv)
      fun body _ => .pure _

end reading

/-- Answering with a number counts. -/
theorem spares_replyNumber (set : String) (params : Assoc String) (q : Http.Request) :
    Spares s ((inMemory settings).replyNumber set params q) :=
  .bind (serves_requireMethod _ _) fun _ _ => .bind (serves_requireSet set) fun _ _ =>
    .bind (.ofReader (Query.ofParams_refuses _ params)) fun _ _ =>
    .bind (Store.serves_engineCount set _) fun _ _ => .pure _

/-- The service document needs no more than the registry. -/
theorem spares_replyService (method : String) :
    Spares s ((inMemory settings).replyService method) :=
  .bind (serves_requireMethod _ _) fun _ _ => .bind serves_registry fun _ _ => .pure _

/-- The store names its types by texts. -/
theorem exists_publishedTypes (types : Assoc ObjectType) :
    ∃ published, Schema.publishedTypes (types.map fun (name, t) => (.str name, some t)) =
      .ok published := by
  induction types with
  | nil => exact ⟨[], rfl⟩
  | cons e types ih =>
    obtain ⟨published, hpublished⟩ := ih
    refine ⟨(e.1, some e.2) :: published, ?_⟩
    rw [List.map_cons, Schema.publishedTypes, hpublished]
    rfl

/-- Unknown types are reported, and the store stays as it is. -/
theorem serves_reportTypes (types : List String) :
    Serves (At s) (At s) (fun _ => True) (reportTypes types : Action (World Store) Unit) := by
  induction types with
  | nil => exact .pure trivial
  -- a report changes the log alone
  | cons type types ih => exact .bind (Q := fun _ => True) (fun _ hw => ⟨trivial, hw⟩) fun _ _ => ih

/-- The description is made, since the namespace is a text and the types have names. -/
theorem spares_replyMetadata (hsettings : settings.IsTyped) (method : String) :
    Spares s ((inMemory settings).replyMetadata method) := by
  obtain ⟨text, hspace⟩ := hsettings.space
  obtain ⟨published, hpublished⟩ := exists_publishedTypes s.types
  refine .bind (serves_requireMethod _ _) fun _ _ => .bind serves_registry fun g hg =>
    .bind (serves_reportTypes _) fun _ _ => ?_
  have hdocument : Schema.metadataDocument g (inMemory settings).settings.space =
      .ok (Xml.document (Schema.metadataTree published (.text text) (Json.str text).display)) := by
    show Schema.metadataDocument g settings.space = _
    rw [hg, hspace, Schema.metadataDocument, Store.registry, hpublished]
    rfl
  exact .bind (serves_usable hdocument) fun _ _ => .pure _

/-! ### Writing -/

/-- A condition that is not met is the fault of the caller. -/
theorem serves_checkCondition (hs : s.Sound) (set key : String) (q : Http.Request) :
    Serves (At s) (At s) (fun _ => True) ((inMemory settings).checkCondition set key q) := by
  unfold checkCondition
  split
  · exact .pure trivial
  · exact .bind (Store.serves_engineGet hs set key) fun stored hstored =>
      .bind (serves_present hstored) fun v hv => .bind (serves_tagOf hv) fun tag _ =>
      .ofRejection (EntityTag.require_refuses tag _) (by decide)

/-- Adding a record fails by the body or by what the store refuses. -/
theorem spares_replyCreate (hstamp : s.stampFault? = none) (set : String) {q : Http.Request}
    (hroom : Content.HasRoom q.body.toText) :
    Spares s ((inMemory settings).replyCreate set q) := by
  refine .bind (.ofResult fun _ => hroom.isCallers) fun data _ => ?_
  refine Serves.bind (Store.serves_engineCreate hstamp set data) fun v hv =>
    .bind (serves_tag? hv) fun tag _ => ?_
  -- what the store has added is a record, so its body and its address can be made
  obtain ⟨r, -, rfl, -⟩ := hv
  exact .bind (serves_usable (a := r) rfl) fun _ _ => .bind (serves_entityBody rfl) fun _ _ =>
    .pure trivial

/-- Changing a record fails by the body, by the condition, or because there is none. -/
theorem spares_replyUpdate (hs : s.Sound) (hstamp : s.stampFault? = none) (set key : String)
    {q : Http.Request} (hroom : Content.HasRoom q.body.toText) :
    Spares s ((inMemory settings).replyUpdate set key q) := by
  refine .bind (.ofResult fun _ => hroom.isCallers) fun data _ =>
    .bind (serves_checkCondition hs set key q) fun _ _ => ?_
  refine Serves.bind (Store.serves_engineUpdate hstamp set key data) fun stored hstored =>
    .bind (serves_present hstored) fun v hv => ?_
  -- here the body is made in front of the tag
  have htag : Serves Anywhere Anywhere (fun _ => True) ((inMemory settings).tag? v) :=
    serves_tag? hv
  obtain ⟨r, -, rfl, -⟩ := hv
  exact .bind (serves_entityBody rfl) fun _ _ => .bind htag fun _ _ => .pure trivial

/-- Removing a record fails by the condition, or because there is none. -/
theorem spares_replyDelete (hs : s.Sound) (set key : String) (q : Http.Request) :
    Spares s ((inMemory settings).replyDelete set key q) := by
  refine .bind (serves_checkCondition hs set key q) fun _ _ => ?_
  refine Serves.bind (Store.serves_engineDelete set key) fun removed _ => ?_
  split
  · exact .pure trivial
  · exact .reject (show ErrorCode.notFound.status < 500 by decide)

/-! ### Whole requests -/

section requests

variable (hsettings : settings.IsTyped) (hs : s.Sound) (hrefs : s.RefersByName)
  (hstamp : s.stampFault? = none)

include hsettings hrefs hstamp

/-- Requests for an entity set read it, add to it or are refused. -/
theorem spares_replySet (set path : String) (params : Assoc String) {q : Http.Request}
    (hroom : Content.HasRoom q.body.toText) :
    Spares s ((inMemory settings).replySet set path params q) := by
  refine .bind (serves_requireSet set) fun _ _ => ?_
  split
  · exact spares_replyCollection hsettings hrefs set params
  · exact spares_replyCreate hstamp set hroom
  all_goals exact serves_refuse (by decide) _ _

include hs

/-- Requests for a record read, change or remove it, or are refused. -/
theorem spares_replyRecord (set rawKey path : String) (params : Assoc String)
    {q : Http.Request} (hroom : Content.HasRoom q.body.toText) :
    Spares s ((inMemory settings).replyRecord set rawKey path params q) := by
  refine .bind (serves_requireSet set) fun _ _ =>
    .bind (.ofReader (EntityKey.parse_refuses rawKey)) fun key _ => ?_
  split
  · exact spares_replyEntity hsettings hs hrefs set key params q
  · exact spares_replyUpdate hs hstamp set key hroom
  · exact spares_replyUpdate hs hstamp set key hroom
  · exact spares_replyDelete hs set key q
  · exact serves_refuse (by decide) _ _

/-- Whatever the path of a request that is no batch, callers are spared. -/
theorem spares_route {q : Http.Request} (hq : q.resource ≠ .batch)
    (hroom : Content.HasRoom q.body.toText) :
    Spares s (routed settings q) := by
  unfold routed route
  dsimp only
  split
  · exact .pure _
  split
  -- one case for each kind of path; batches are excluded
  · exact spares_replyService q.method
  · exact spares_replyMetadata hsettings q.method
  · next hbatch => exact absurd hbatch hq
  · exact spares_replyNumber _ _ q
  · exact spares_replySet hsettings hrefs hstamp _ _ _ hroom
  · exact spares_replyRecord hsettings hs hrefs hstamp _ _ _ _ hroom
  · exact serves_refuse (by decide) _ _

end requests

/-- Errors of callers never become internal errors, except for what the stack has no room for. In
every reachable world whose fields refer to types by name and whose clock still gives stamps, and
under all settings of the declared kinds: a request that is no batch and fits the stack is answered
with a status below 500, and if it fails on the way, then because a protocol layer refuses it or
because the store says that something is missing or not valid. -/
theorem no_internal_errors {settings : Settings} (hsettings : settings.IsTyped) {w : World Store}
    (hw : Store.Reachable w) (hrefs : w.store.RefersByName) (hstamp : w.store.stampFault? = none)
    {q : Http.Request} (hq : q.resource ≠ .batch) (hfits : FitsStack w.store q) :
    (((inMemory settings).handle q).run w).1.status < 500 ∧
      ∀ f w', (routed settings q).exec w = (.error f, w') → f.IsCallers := by
  have hends := spares_route hsettings hw.sound hrefs hstamp hq hfits.body w rfl
  -- the action of the route has failed by the fault of a caller, or it has come to a response
  rcases hroute : (routed settings q).exec w with ⟨f | r, w'⟩
  · rw [hroute] at hends
    obtain ⟨w'', hrun, -⟩ := run_handle_error hroute
    refine ⟨?_, ?_⟩
    · rw [hrun]
      exact hends.status_lt settings.debug
    · intro f' w₁ h
      obtain rfl := Except.error.inj (Prod.mk.inj h).1
      exact hends
  · -- what a request succeeds with is no error at all
    have hsucceeds : Batch.Meets (fun r => r.status < 400) (fun _ => True)
        ((routed settings q).exec w).1 :=
      succeeds_route (s := inMemory settings) (q := q) _ succeeds_replyBatch w
    rw [hroute] at hsucceeds
    refine ⟨?_, fun f w₁ h => absurd (Prod.mk.inj h).1 (by simp)⟩
    rw [run_handle_ok hroute]
    exact lt_trans hsucceeds (by decide)

/-- A type whose records refer to others. -/
def accountType : ObjectType where
  name := "Accounts"
  fields := [("owner", { type := "lookup", reference := .str "Owners" })]

/-- A world with a record that refers to a type which is not declared. -/
def strayReference : World Store :=
  let declared := ((Store.declare accountType).exec { store := {} }).2
  ((Store.insert "Accounts" [(.str "_id", .str "1"), (.str "owner", .str "7")]).exec declared).2

/-- A request to embed what the reference refers to. -/
def expandOwner : Http.Request where
  method := "GET"
  path := "/Accounts"
  query := "$expand=owner"

/-- The store does not know the type that the record refers to, and this is answered as the fault
that it is. -/
theorem no_internal_errors_strayReference :
    (((inMemory {}).handle expandOwner).run strayReference).1.status = 404 ∧
      (((inMemory {}).handle expandOwner).run strayReference).1.status < 500 ∧
      ∀ f w', (routed {} expandOwner).exec strayReference = (.error f, w') → f.IsCallers := by
  have hreachable : Store.Reachable strayReference := .insert (.declare .start _) _ _
  have hrefs : strayReference.store.RefersByName := by
    intro name t ht field f hf
    have htype : (name, t) ∈ [("Accounts", accountType)] := Assoc.mem_of_get? ht
    obtain rfl : t = accountType := congrArg Prod.snd (List.mem_singleton.1 htype)
    have hfield := List.mem_singleton.1 (Assoc.mem_of_get? hf)
    exact .inr ⟨"Owners", congrArg (fun m => m.2.reference) hfield⟩
  -- the request has no body and no parentheses, and the record is flat
  have hbody : Content.readRecord expandOwner.body.toText = .ok [] := rfl
  have hfits : FitsStack strayReference.store expandOwner :=
    ⟨fun c => by simp [hbody], by decide +kernel, by decide +kernel⟩
  exact ⟨by decide +kernel,
    no_internal_errors ⟨⟨_, rfl⟩, ⟨_, _, rfl⟩⟩ hreachable hrefs (by decide +kernel) (by decide)
      hfits⟩

end Service

end ODataService
