import ODataService.Proofs.Expand.Projecting
import ODataService.Proofs.Filter.RoundTrip
import ODataService.Proofs.Service.Outcome
import ODataService.Proofs.Service.Paths
import ODataService.Proofs.Store.Maps

/-!
# Two ways to read a record

A record can be read by itself, and it can be read in its entity set by a filter for its identifier.
The one way embeds related records and projects the record afterwards. The other way has the store
project the record, with the properties that are expanded, and embeds related records then. Both
come to the same record (`Service.reads_agree`).
-/

namespace ODataService

open ODataService.Action

namespace Service

variable {settings : Settings} {w w' : World Store} {set key : String} {q : Http.Request}
  {r : Http.Response} {stored : Record} {filter select expand : Option String}
  {fields : Option (List String)}

/-! ## Options -/

/-- The system query options of a request are these and no others. -/
structure Asks (q : Http.Request) (filter select expand : Option String) : Prop where
  filter : Assoc.get? (paramsOf q) "$filter" = filter
  select : Assoc.get? (paramsOf q) "$select" = select
  expand : Assoc.get? (paramsOf q) "$expand" = expand
  others : ∀ name ∈ Assoc.keys (paramsOf q), SystemOptions.isOption name = true →
    name ∈ ["$filter", "$select", "$expand"]

/-- The options read from such a request are the three it asks with. -/
theorem Asks.options (h : Asks q filter select expand) {o : SystemOptions}
    (ho : SystemOptions.parse (paramsOf q) = .ok o) :
    o = { filter := filter, select := select, expand := expand } := by
  -- no other option is given
  have hnone : ∀ name, SystemOptions.isOption name = true →
      name ∉ ["$filter", "$select", "$expand"] → Assoc.get? (paramsOf q) name = none := by
    intro name hoption hname
    rw [Assoc.get?_eq_none_iff]
    intro hmem
    exact hname (h.others name hmem hoption)
  unfold SystemOptions.parse at ho
  split at ho
  · exact absurd ho (by simp)
  · rw [← Except.ok.inj ho, h.filter, h.select, h.expand]
    simp only [SystemOptions.pageSize?, hnone "$orderby" (by decide) (by decide),
      hnone "$top" (by decide) (by decide), hnone "$skip" (by decide) (by decide),
      hnone "$count" (by decide) (by decide), hnone "$search" (by decide) (by decide),
      hnone "$format" (by decide) (by decide), Option.bind_none, Option.getD_none]

/-- The options `$select` and `$expand` ask for a projection. What is expanded plays a part only if
something is selected. -/
def Projects (settings : Settings) (select expand : Option String)
    (fields : Option (List String)) : Prop :=
  ∃ read names, Query.readOption none Query.parseSelect select = .ok read ∧
    (select ≠ none → ∀ w, ((inMemory settings).expandedProperties expand).exec w =
      (.ok names, w)) ∧ fields = Query.includeFields read names

/-- There is one projection that options ask for. -/
theorem Projects.unique {fields' : Option (List String)}
    (h : Projects settings select expand fields)
    (h' : Projects settings select expand fields') : fields' = fields := by
  obtain ⟨read, names, hread, hnames, rfl⟩ := h
  obtain ⟨read', names', hread', hnames', rfl⟩ := h'
  rw [hread] at hread'
  obtain rfl := Except.ok.inj hread'
  -- with a selection the expanded properties are the same from any store
  cases select with
  | none =>
    obtain rfl : none = read := Except.ok.inj hread
    rfl
  | some raw =>
    have hsome : some raw ≠ none := by simp
    have hsame := (hnames hsome Store.blank).symm.trans (hnames' hsome Store.blank)
    rw [Except.ok.inj (Prod.mk.inj hsame).1]

/-- The expanded properties are read from the text alone. -/
theorem exec_expandedProperties_eq_ok {names : List String}
    (h : ((inMemory settings).expandedProperties expand).exec w = (.ok names, w')) :
    w = w' ∧ ∀ u, ((inMemory settings).expandedProperties expand).exec u = (.ok names, u) := by
  have hkeeps : Keeps Apart ((inMemory settings).expandedProperties expand) :=
    keeps_expandedProperties (inMemory settings) expand
  obtain ⟨x, hx⟩ := hkeeps.apart
  rw [hx w] at h
  obtain ⟨rfl, rfl⟩ := Prod.mk.inj h
  exact ⟨rfl, hx⟩

/-- The query of a collection is that of the options, its fields widened by the expanded
properties. -/
theorem exec_collectionQuery_eq_ok {o : SystemOptions} {query : Query}
    (h : ((inMemory settings).collectionQuery o).exec w = (.ok query, w')) :
    w = w' ∧ ∃ q names, Query.ofOptions settings.search o = .ok q ∧
      (∀ u, ((inMemory settings).expandedProperties o.expand).exec u = (.ok names, u)) ∧
      query = { q with fields := Query.includeFields q.fields names } := by
  obtain ⟨q, w₁, hq, h⟩ := exec_bind_eq_ok h
  obtain ⟨hoptions, rfl⟩ := exec_ofRejection_eq_ok hq
  obtain ⟨names, w₂, hnames, h⟩ := exec_bind_eq_ok h
  obtain ⟨rfl, hall⟩ := exec_expandedProperties_eq_ok hnames
  obtain ⟨hquery, rfl⟩ := Prod.mk.inj h
  exact ⟨rfl, q, names, hoptions, hall, (Except.ok.inj hquery).symm⟩

/-- The projection for a record that is read by itself. -/
theorem exec_entityFields_eq_ok {o : SystemOptions}
    (h : ((inMemory settings).entityFields o).exec w = (.ok fields, w')) :
    w = w' ∧ Projects settings o.select o.expand fields := by
  unfold entityFields at h
  split at h
  · next hselect =>
    obtain ⟨hfields, rfl⟩ := Prod.mk.inj h
    refine ⟨rfl, none, [], by rw [hselect]; rfl, ?_, (Except.ok.inj hfields).symm⟩
    intro hne
    exact absurd hselect hne
  -- with a selection the names are read, then the expanded properties added
  · next raw hselect =>
    obtain ⟨read, w₁, hread, h⟩ := exec_bind_eq_ok h
    obtain ⟨hparse, rfl⟩ := exec_ofRejection_eq_ok hread
    obtain ⟨names, w₂, hnames, h⟩ := exec_bind_eq_ok h
    obtain ⟨rfl, hall⟩ := exec_expandedProperties_eq_ok hnames
    obtain ⟨hfields, rfl⟩ := Prod.mk.inj h
    exact ⟨rfl, read, names, by rw [hselect]; exact hparse, fun _ => hall,
      (Except.ok.inj hfields).symm⟩

/-! ## Embedding -/

/-- What is usable is used as it is, and nothing happens in the store. -/
theorem exec_usable_eq_ok {α : Type} {x : Except ValueFault α} {a : α}
    (h : (usable x : Action (World Store) α).exec w = (.ok a, w')) : x = .ok a ∧ w = w' := by
  cases x with
  | ok b =>
    obtain ⟨hb, hw⟩ := Prod.mk.inj h
    exact ⟨congrArg Except.ok (Except.ok.inj hb), hw⟩
  | error fault => exact absurd (Prod.mk.inj h).1 (by simp)

/-- Related records are embedded on the levels that the settings give, with the types and tables of
the store. -/
theorem exec_embedRelated_eq_ok {v : Json} {rows : List Json} {text : String}
    (h : ((inMemory settings).embedRelated set [v] text).exec w = (.ok rows, w')) :
    ∃ levels, settings.expandDepth.levels = .ok levels ∧
      (Expand.resolve ⟨w.store.registry, Store.engine.find⟩ levels (.str set) [v] text).exec w =
        (.ok rows, w') := by
  unfold embedRelated at h
  rw [exec_bind_ok exec_registry] at h
  obtain ⟨levels, w₁, husable, h⟩ := exec_bind_eq_ok h
  obtain ⟨hlevels, rfl⟩ := exec_usable_eq_ok husable
  exact ⟨levels, hlevels, h⟩

/-- A record may be projected before or after related records are embedded in it, if both
succeed. -/
theorem expandOption_project {rows full : List Json} {u u' : World Store}
    (hrows : ((inMemory settings).expandOption set [.obj (Query.project fields stored)]
      expand).exec w = (.ok rows, u))
    (hfull : ((inMemory settings).expandOption set [.obj stored] expand).exec w = (.ok full, u')) :
    ∃ r : Record, Keyed.keys r = Keyed.keys stored ∧ full = [.obj r] ∧
      rows = [.obj (Query.project fields r)] := by
  unfold expandOption at hrows hfull
  cases htext : Query.nonEmpty? expand with
  -- nothing is expanded, so the record stays as it is
  | none =>
    simp only [htext] at hrows hfull
    obtain ⟨hrows, -⟩ := Prod.mk.inj hrows
    obtain ⟨hfull, -⟩ := Prod.mk.inj hfull
    exact ⟨stored, rfl, (Except.ok.inj hfull).symm, (Except.ok.inj hrows).symm⟩
  | some text =>
    simp only [htext] at hrows hfull
    obtain ⟨levels, hlevels, hrows⟩ := exec_embedRelated_eq_ok hrows
    obtain ⟨levels', hlevels', hfull⟩ := exec_embedRelated_eq_ok hfull
    obtain rfl : levels = levels' := Except.ok.inj (hlevels.symm.trans hlevels')
    -- both resolve the text with the tables of one store
    have hreads := Expand.engine_reads w.store w.store.registry
    have hresolve : ∃ done, Expand.Parallel fields [stored] done full rows :=
      Expand.resolve_project hreads ⟨rfl, rfl⟩ hfull hrows
    obtain ⟨done, hparallel⟩ := hresolve
    -- the resolved rows are as many as those before, so there is one
    obtain ⟨r, rfl⟩ : ∃ r, done = [r] := by
      have hlength := congrArg List.length hparallel.keys_eq
      rw [List.length_map, List.length_map] at hlength
      exact List.length_eq_one_iff.mp hlength
    exact ⟨r, (List.cons.inj hparallel.keys_eq).1, hparallel.full, hparallel.projected⟩

/-! ## The record in its entity set -/

/-- The query for the record with an identifier. -/
def keyQuery (key : String) (fields : Option (List String)) : Query :=
  { filter := some (.compare "_id" .eq (.str key)), fields := fields }

/-- The filter for an identifier is read as a comparison. -/
theorem parse_identifier (hkey : ∀ c ∈ key.toList, c ≠ '\'' ∧ c ≠ '\\') :
    Filter.parse s!"_id eq '{key}'" = .ok (some (.compare "_id" .eq (.str key))) := by
  have hquote : '\'' ∉ key.toList := fun hmem => (hkey _ hmem).1 rfl
  have hquotable : Filter.isQuotable key = true := by
    rw [Filter.isQuotable, bne_iff_ne]
    intro hlast
    exact (hkey _ (List.mem_of_getLast? hlast)).2 rfl
  -- the text is a property, an operator and a quoted word
  have htext : "_id" ++ " eq '" = "_id eq '" := by decide
  have hparse : Filter.parse ("_id" ++ " eq '" ++ key ++ "'") =
      .ok (some (.compare "_id" .eq (.str key))) :=
    Filter.parse_equality (by decide) (by decide) hquote hquotable
  rw [htext] at hparse
  exact hparse

/-- The filter for an identifier is not the empty text. -/
theorem nonEmpty?_identifier (key : String) :
    Query.nonEmpty? (some s!"_id eq '{key}'") = some s!"_id eq '{key}'" := by
  refine Option.filter_eq_some_iff.mpr ⟨rfl, ?_⟩
  rw [bne_iff_ne]
  intro hempty
  have hchars : ("_id eq '" ++ key ++ "'").toList = [] := congrArg String.toList hempty
  simp at hchars

/-- Options with a filter for an identifier ask for the record that has it. -/
theorem ofOptions_identifier {search : Bool} {query : Query}
    (hkey : ∀ c ∈ key.toList, c ≠ '\'' ∧ c ≠ '\\')
    (h : Query.ofOptions search
      { filter := some s!"_id eq '{key}'", select := select, expand := expand } = .ok query) :
    ∃ read, Query.readOption none Query.parseSelect select = .ok read ∧
      query = keyQuery key read := by
  obtain ⟨parsed, hfilter, h⟩ := bind_eq_ok.1 h
  obtain ⟨orderBy, horderBy, h⟩ := bind_eq_ok.1 h
  obtain ⟨read, hread, h⟩ := bind_eq_ok.1 h
  simp only [nonEmpty?_identifier, Query.readOption, parse_identifier hkey] at hfilter
  have horder : [] = orderBy := Except.ok.inj horderBy
  -- no search is asked for, whether searching is switched on or off
  have hsearch : Query.searchTerm search none = none := by
    cases search <;> rfl
  rw [hsearch, ← horder, ← Except.ok.inj hfilter] at h
  exact ⟨read, hread, (Except.ok.inj h).symm⟩

/-- Identifiers are found once: the query for one selects the record that has it. -/
theorem run_keyQuery (hs : w.store.Sound) (hstored : w.store.record? set key = some stored)
    (fields : Option (List String)) :
    (keyQuery key fields).run (w.store.rows set).values = [Query.project fields stored] := by
  -- every record is stored under its identifier, so one is selected
  have hselects : (w.store.rows set).values.filter (Query.selects (keyQuery key fields)) =
      [stored] := by
    refine Assoc.filter_values_eq (hs.rows_nodup set) hstored ?_
    intro id r hr
    obtain ⟨created, updated, hkept⟩ := hs.kept set id r hr
    have hid : Json.member r "_id" = .str id := by
      rw [Json.member, hkept.ident]
      rfl
    simp [keyQuery, Query.selects, Query.matchesSearch, Filter.admits, Filter.holds, hid,
      Filter.compares, Json.scalar?, Scalar.equal, Scalar.sameKey, Scalar.identity]
  rw [Query.run, hselects]
  rfl

/-- The store finds exactly the record with the key. -/
theorem exec_find_key (hs : w.store.Sound) (hd : w.store.declares set = true)
    (hstored : w.store.record? set key = some stored) (fields : Option (List String)) :
    ((inMemory settings).engine.find (.str set) (keyQuery key fields)).exec w =
      (.ok [.obj (Query.project fields stored)], w) := by
  have htable : (Store.find set (keyQuery key fields)).exec w =
      (.ok [Query.project fields stored], w) := by
    rw [Store.find, exec_bind_ok (Store.exec_tableOf hd), run_keyQuery hs hstored fields]
    rfl
  exact exec_bind_ok htable

/-- In its entity set a record is projected, and then related records are embedded in it. -/
theorem replyCollection_key (hs : w.store.Sound) (hd : w.store.declares set = true)
    (hstored : w.store.record? set key = some stored)
    (hkey : ∀ c ∈ key.toList, c ≠ '\'' ∧ c ≠ '\\')
    (hasks : Asks q (some s!"_id eq '{key}'") select expand)
    (h : ((inMemory settings).replyCollection set (paramsOf q)).exec w = (.ok r, w')) :
    ∃ fields rows u, Projects settings select expand fields ∧
      ((inMemory settings).expandOption set [.obj (Query.project fields stored)] expand).exec w =
        (.ok rows, u) ∧
      r.body = ((inMemory settings).collectionBody set [] rows).text := by
  -- each step of the reply is taken apart in turn: options, query, records, expansion
  obtain ⟨o, w₁, ho, h⟩ := exec_bind_eq_ok h
  obtain ⟨hparse, rfl⟩ := exec_ofRejection_eq_ok ho
  obtain rfl := hasks.options hparse
  obtain ⟨query, w₂, hquery, h⟩ := exec_bind_eq_ok h
  obtain ⟨rfl, q₀, names, hoptions, hnames, hfields⟩ := exec_collectionQuery_eq_ok hquery
  obtain ⟨read, hread, rfl⟩ := ofOptions_identifier hkey hoptions
  obtain rfl : query = keyQuery key (Query.includeFields read names) := hfields
  rw [exec_bind_ok (exec_find_key hs hd hstored _)] at h
  obtain ⟨rows, w₂, hrows, h⟩ := exec_bind_eq_ok h
  -- the number of records is not asked for
  have hcount : ((inMemory settings).countMember set
      (keyQuery key (Query.includeFields read names)) false).exec w₂ = (.ok [], w₂) := rfl
  rw [exec_bind_ok hcount] at h
  obtain ⟨hr, rfl⟩ := Prod.mk.inj h
  refine ⟨_, rows, w₂, ⟨read, names, hread, fun _ => hnames, rfl⟩, hrows, ?_⟩
  rw [← Except.ok.inj hr]
  rfl

/-! ## The record by itself -/

/-- A map is projected as a record. -/
theorem projectValue_obj (fields : Option (List String)) (r : Record) :
    Query.projectValue fields (.obj r) = .ok (.obj (Query.project fields r)) := by
  match fields with
  | none => rfl
  | some [] => rfl
  | some (_ :: _) => rfl

/-- By itself related records are embedded in a record, and then it is projected. -/
theorem replyEntity_key (hs : w.store.Sound) (hd : w.store.declares set = true)
    (hstored : w.store.record? set key = some stored) (hasks : Asks q none select expand)
    (h : ((inMemory settings).replyEntity set key (paramsOf q) q).exec w = (.ok r, w'))
    (hstatus : r.status = 200) :
    ∃ fields full u, Projects settings select expand fields ∧
      ((inMemory settings).expandOption set [.obj stored] expand).exec w = (.ok full, u) ∧
      ∃ projected body, Query.projectValue fields (full.headD (.obj stored)) = .ok projected ∧
        (inMemory settings).entityBody set projected = .ok body ∧ r.body = body.text := by
  obtain ⟨o, w₁, ho, h⟩ := exec_bind_eq_ok h
  obtain ⟨hparse, rfl⟩ := exec_ofRejection_eq_ok ho
  obtain rfl := hasks.options hparse
  -- the fields, then the record and its tag
  obtain ⟨fields, w₂, hfields, h⟩ := exec_bind_eq_ok h
  obtain ⟨rfl, hprojects⟩ := exec_entityFields_eq_ok hfields
  obtain ⟨tag, htag⟩ := hs.exists_tag hstored
  rw [exec_bind_ok (exec_engineGet hd), hstored, exec_bind_ok exec_present,
    exec_bind_ok (exec_tag? htag)] at h
  by_cases hknown : isKnown (if settings.entityTags then some tag else none)
    (q.header? "if-none-match") = true
  · -- a record that the client has already is answered with another status
    rw [if_pos hknown] at h
    obtain ⟨hr, -⟩ := Prod.mk.inj h
    rw [← Except.ok.inj hr] at hstatus
    have hother : 304 = 200 := hstatus
    omega
  · rw [if_neg hknown] at h
    obtain ⟨full, w₃, hfull, h⟩ := exec_bind_eq_ok h
    obtain ⟨projected, w₄, hprojected, h⟩ := exec_bind_eq_ok h
    obtain ⟨body, w₅, hbody, h⟩ := exec_bind_eq_ok h
    obtain ⟨hprojected, -⟩ := exec_usable_eq_ok hprojected
    obtain ⟨hbody, -⟩ := exec_usable_eq_ok hbody
    obtain ⟨hr, -⟩ := Prod.mk.inj h
    refine ⟨fields, full, w₃, hprojects, hfull, projected, body, hprojected, hbody, ?_⟩
    rw [← Except.ok.inj hr]
    rfl

/-- The members of a record stand behind its context, if none of them is called like it. -/
theorem entityBody_eq {record : Record} (hmap : Keyed.Distinct record)
    (hcontext : Keyed.get? record contextName = none) :
    (inMemory settings).entityBody set (.obj record) =
      .ok (.obj ((contextName, .str ((inMemory settings).context set ++ "/$entity")) ::
        record)) := by
  -- the context is no property of the record, so it comes in front and nothing is replaced
  have hmerge : Keyed.merge [(.str contextName,
      .str ((inMemory settings).context set ++ "/$entity"))] record =
        [(.str contextName, .str ((inMemory settings).context set ++ "/$entity"))] ++ record := by
    refine Keyed.merge_eq_append hmap ?_
    intro e he
    have hkey := Keyed.get?_eq_none_iff.mp hcontext e.1 (List.mem_map_of_mem he)
    refine Keyed.get?_eq_none ?_
    rintro _ hcontextEntry
    obtain rfl := List.mem_singleton.mp hcontextEntry
    rw [Bool.eq_false_iff, Ne, Scalar.sameKey_iff] at hkey ⊢
    exact Ne.symm hkey
  have hmembers : (Json.obj record).asMembers = .ok record := rfl
  unfold entityBody
  dsimp only
  rw [hmembers, Except.map, hmerge]
  rfl

/-! ## Both ways -/

/-- A request that is answered without an error was routed to an answer. -/
theorem exists_routed (h : (((inMemory settings).handle q).run w).1.status = 200) :
    ∃ w', (routed settings q).exec w = (.ok (((inMemory settings).handle q).run w).1, w') := by
  rcases hroute : (routed settings q).exec w with ⟨f | r, w'⟩
  -- an error response has another status
  · obtain ⟨w'', hrun, -⟩ := run_handle_error hroute
    rw [hrun] at h
    have hge := (f.toErrorBody settings.debug).status_ge
    have hstatus : (f.toErrorBody settings.debug).status = 200 := h
    omega
  · rw [run_handle_ok hroute]
    exact ⟨w', rfl⟩

/-- A request to read is routed to one of the resources. -/
theorem resource_of_get (hm : q.method = "GET")
    (h : (routed settings q).exec w = (.ok r, w')) : q.resource ≠ .unknown ∧
      (∀ set, q.resource = .collection set → w.store.declares set = true ∧
        ((inMemory settings).replyCollection set (paramsOf q)).exec w = (.ok r, w')) ∧
      (∀ set raw, q.resource = .entity set raw → w.store.declares set = true ∧
        ∃ key, EntityKey.parse raw = .ok key ∧
          ((inMemory settings).replyEntity set key (paramsOf q) q).exec w = (.ok r, w')) := by
  rw [routed, route_eq _ (by simp [hm]), actionOf] at h
  -- nothing is answered for a set that is not declared
  have hdeclared {set : String} {f : Unit → Action (World Store) Http.Response}
      (h : ((inMemory settings).requireSet set >>= f).exec w = (.ok r, w')) :
      w.store.declares set = true ∧ (f ()).exec w = (.ok r, w') := by
    cases hd : w.store.declares set with
    | true =>
      rw [exec_bind_ok (exec_requireSet hd)] at h
      exact ⟨rfl, h⟩
    | false =>
      obtain ⟨e, hundeclared⟩ := exec_requireSet_undeclared settings hd
      rw [exec_bind_error hundeclared] at h
      exact absurd (Prod.mk.inj h).1 (by simp)
  -- one case for each kind of path
  refine ⟨?_, ?_, ?_⟩
  · intro hunknown
    rw [hunknown] at h
    exact absurd (Prod.mk.inj h).1 (by simp)
  · intro set hr
    rw [hr] at h
    dsimp only at h
    rw [replySet] at h
    obtain ⟨hd, h⟩ := hdeclared h
    simp only [hm] at h
    exact ⟨hd, h⟩
  · intro set raw hr
    rw [hr] at h
    dsimp only at h
    rw [replyRecord] at h
    obtain ⟨hd, h⟩ := hdeclared h
    obtain ⟨key, w₁, hkey, h⟩ := exec_bind_eq_ok h
    obtain ⟨hparse, rfl⟩ := exec_ofRejection_eq_ok hkey
    simp only [hm] at h
    exact ⟨hd, key, hparse, h⟩

/-- Embedding and projecting leave a record a map, and add no property. -/
theorem map_of_keys_eq {record : Record} (hmap : Keyed.Distinct stored) {p : String}
    (hnone : Keyed.get? stored p = none) (hkeys : Keyed.keys record = Keyed.keys stored)
    (fields : Option (List String)) :
    Keyed.Distinct (Query.project fields record) ∧
      Keyed.get? (Query.project fields record) p = none := by
  have hgone : Keyed.get? record p = none := by
    rw [Keyed.get?_eq_none_iff, hkeys]
    exact Keyed.get?_eq_none_iff.mp hnone
  exact ⟨Query.distinct_project (hmap.of_keys_eq hkeys) fields,
    Query.get?_project_of_none hgone fields⟩

/-- A record is read in the same form by itself and in its entity set. After any run of calls, under
all settings and for all `$select` and `$expand` options: if a request for the entity set with a
filter for the identifier of a record and a request for this record are both answered with 200, then
the one answer holds one record, and the other answer is this record with a context. -/
theorem reads_agree (settings : Settings) {calls : List Store.Call}
    (hcalls : ∀ c ∈ calls, c.GivesMaps) {w : World Store}
    (hw : w.store = (Store.play Store.blank calls).store) {set key : String} {stored : Record}
    (hstored : w.store.record? set key = some stored)
    (hcontext : Keyed.get? stored "@odata.context" = none)
    (hkey : ∀ c ∈ key.toList, c ≠ '\'' ∧ c ≠ '\\') {select expand : Option String}
    {q q' : Http.Request} (hm : q.method = "GET") (hpath : q.path = s!"/{set}")
    (hasks : Asks q (some s!"_id eq '{key}'") select expand)
    (hm' : q'.method = "GET") (hpath' : q'.path = s!"/{set}('{key}')")
    (hasks' : Asks q' none select expand)
    (hok : (((inMemory settings).handle q).run w).1.status = 200)
    (hok' : (((inMemory settings).handle q').run w).1.status = 200) :
    ∃ record : Record, Keyed.get? record "@odata.context" = none ∧
      (((inMemory settings).handle q).run w).1.body =
        (Json.obj [("@odata.context", .str ((inMemory settings).context set)),
          ("value", .arr [.obj record])]).text ∧
      (((inMemory settings).handle q').run w).1.body =
        (Json.obj (("@odata.context", .str ((inMemory settings).context set ++ "/$entity")) ::
          record)).text := by
  have hevolves := Store.evolves_run calls
  have hs : w.store.Sound := by
    rw [hw]
    exact hevolves.sound Store.sound_empty
  have hmap : Keyed.Distinct stored := by
    rw [hw] at hstored
    exact Store.maps_play hcalls set key stored hstored
  obtain ⟨w₁, hroute⟩ := exists_routed hok
  obtain ⟨w₁', hroute'⟩ := exists_routed hok'
  obtain ⟨hnamed, hcollection, -⟩ := resource_of_get hm hroute
  obtain ⟨hnamed', -, hentity⟩ := resource_of_get hm' hroute'
  -- both paths name something, so they name the entity set and the record
  have hresource : q.resource = Route.ofPath s!"/{set}" :=
    resource_eq hpath (Route.toList_setPath set)
  have hresource' : q'.resource = Route.ofPath s!"/{set}('{key}')" :=
    resource_eq hpath' (Route.toList_recordPath set key)
  rw [hresource] at hnamed hcollection
  rw [hresource'] at hnamed' hentity
  obtain ⟨hset, hrecord⟩ := Route.ofPath_pair hnamed hnamed'
  obtain ⟨hd, hanswer⟩ := hcollection set hset
  obtain ⟨-, key', hparse, hanswer'⟩ := hentity set _ hrecord
  have hquote : '\'' ∉ key.toList := fun hmem => (hkey _ hmem).1 rfl
  obtain rfl := EntityKey.parse_quoted hquote hparse
  obtain ⟨fields, rows, u, hprojects, hrows, hbody⟩ :=
    replyCollection_key hs hd hstored hkey hasks hanswer
  obtain ⟨fields', full, u', hprojects', hfull, projected, body, hprojected, hentityBody, hbody'⟩ :=
    replyEntity_key hs hd hstored hasks' hanswer' hok'
  -- the same properties are asked for, so both go on with one projection
  obtain rfl := hprojects.unique hprojects'
  obtain ⟨r, hkeys, rfl, rfl⟩ := expandOption_project hrows hfull
  obtain ⟨hmapped, hnone⟩ := map_of_keys_eq hmap hcontext hkeys fields'
  refine ⟨Query.project fields' r, hnone, hbody, ?_⟩
  have hprojection : projected = .obj (Query.project fields' r) :=
    Except.ok.inj (hprojected.symm.trans (projectValue_obj fields' r))
  rw [hprojection, entityBody_eq hmapped hnone] at hentityBody
  rw [hbody', ← Except.ok.inj hentityBody]
  rfl

/-- An account that refers to its owner. -/
def ownedAccount : List Store.Call :=
  [.register { name := "Accounts", fields := [("owner", ⟨"lookup", .str "Owners", .null, false⟩)] },
    .register { name := "Owners" },
    .create (.str "Owners") (.obj [(.str "_id", .str "7"), (.str "name", .str "Ada")]) {},
    .create (.str "Accounts")
      (.obj [(.str "_id", .str "1"), (.str "no", .int 5), (.str "owner", .str "7")]) {}]

def storedAccount : Record :=
  Store.newRecord [(.str "no", .int 5), (.str "owner", .str "7")] "1"
    (.str "2023-11-14T22:13:20.001Z")

def readAccounts : Http.Request where
  method := "GET"
  path := "/Accounts"
  query := "$filter=_id%20eq%20'1'&$select=no&$expand=owner($select=name)"

def readAccount : Http.Request where
  method := "GET"
  path := "/Accounts('1')"
  query := "$select=no&$expand=owner($select=name)"

/-- The number of the account and its owner are read, although the owner is not selected. -/
theorem reads_agree_owned_account :
    (((inMemory {}).handle readAccounts).run (Store.play Store.blank ownedAccount)).1.status = 200 ∧
      (((inMemory {}).handle readAccount).run (Store.play Store.blank ownedAccount)).1.status =
        200 ∧
      ∃ record : Record, Keyed.get? record "@odata.context" = none ∧
        (((inMemory {}).handle readAccounts).run (Store.play Store.blank ownedAccount)).1.body =
          (Json.obj [("@odata.context", .str ((inMemory {}).context "Accounts")),
            ("value", .arr [.obj record])]).text ∧
        (((inMemory {}).handle readAccount).run (Store.play Store.blank ownedAccount)).1.body =
          (Json.obj (("@odata.context", .str ((inMemory {}).context "Accounts" ++ "/$entity")) ::
            record)).text := by
  have hcalls : ∀ c ∈ ownedAccount, c.GivesMaps := by
    simp [ownedAccount, Store.Call.GivesMaps, Json.IsMap, Keyed.Distinct, Scalar.sameKey,
      Scalar.identity]
  -- what is stored and what both requests ask for; the conditions of the theorem, one by one
  have hstored : (Store.play Store.blank ownedAccount).store.record? "Accounts" "1" =
      some storedAccount := by rfl
  have hasks : Asks readAccounts (some ("_id eq '" ++ "1" ++ "'")) (some "no")
      (some "owner($select=name)") :=
    ⟨by decide +kernel, by decide +kernel, by decide +kernel, by decide +kernel⟩
  have hasks' : Asks readAccount none (some "no") (some "owner($select=name)") :=
    ⟨by decide +kernel, by decide +kernel, by decide +kernel, by decide +kernel⟩
  have hok : (((inMemory {}).handle readAccounts).run
      (Store.play Store.blank ownedAccount)).1.status = 200 := by decide +kernel
  have hok' : (((inMemory {}).handle readAccount).run
      (Store.play Store.blank ownedAccount)).1.status = 200 := by decide +kernel
  have hkey : ∀ c ∈ "1".toList, c ≠ '\'' ∧ c ≠ '\\' := by simp
  exact ⟨hok, hok', reads_agree {} hcalls rfl hstored rfl hkey rfl rfl hasks rfl rfl hasks'
    hok hok'⟩

end Service

end ODataService
