import ODataService.Proofs.Action
import ODataService.Proofs.Expand.Options
import ODataService.Proofs.Expand.Reference
import ODataService.Proofs.Store.Operations
import ODataService.Query.Values

/-!
# Queries for many keys and record by record

`Expand.resolve` looks up the keys of all records with one query for each entry and expands all rows
that it gets together. This comes to the same as expanding each record by itself
(`Expand.expandRecord`).

The heart is one entry (`replacement?_eq`): among the rows that were found for many keys, ordered,
filtered, projected and expanded together, the last one that has a key is the row that the key finds
by itself, expanded and projected. It rests on three facts: rows can be filtered before they are
ordered (`Query.order_filter`), a projection that keeps what is nested can be made before it is
expanded (`commutes_expandNested`), and rows with the same key lose it together or not at all
(`RespectsIds.hasKey_congr`).

Main result: `resolve_eq_expandRecord`.
-/

namespace ODataService.Expand

open ODataService.Action

variable {ω : Type}

/-- A source that answers queries on tables that stay as they are. The states with these tables are
told by `Holds`. -/
def Source.Reads (source : Source ω) (tables : Tables) (Holds : ω → Prop) : Prop :=
  ∀ target q w, Holds w → ∃ w', Holds w' ∧
    (source.find target q).exec w = ((tables target).map fun rows => (q.run rows).map .obj, w')

/-- In all rows the properties that the entry orders by have a place: none of them is NaN. -/
def Entry.Settled (tables : Tables) (e : Entry) : Prop :=
  ∀ q, Query.ofParams true e.options = .ok q → ∀ k ∈ q.orderBy,
    ∀ target rows, tables target = .ok rows → Query.AllSettled k rows

/-! ## Keys -/

/-- Whether a key is among others, in this form or another. -/
def knows (keys : List Scalar) (k : Scalar) : Bool := keys.any (k.sameKey ·)

/-- A key that is added is known. -/
theorem knows_addKey_self (keys : List Scalar) (k : Scalar) : knows (addKey keys k) k = true := by
  unfold addKey
  split
  · next h => exact h
  · simp [knows, Scalar.sameKey_iff]

/-- A key that is known stays known. -/
theorem knows_addKey {keys : List Scalar} {l : Scalar} (h : knows keys l = true) (k : Scalar) :
    knows (addKey keys k) l = true := by
  unfold addKey
  split
  · exact h
  · rw [knows, List.any_append, ← knows, h, Bool.true_or]

/-- Keys that are added one after the other are all known. -/
theorem knows_foldl_addKey {ks keys : List Scalar} {k : Scalar} (h : k ∈ ks ∨ knows keys k = true) :
    knows (ks.foldl addKey keys) k = true := by
  induction ks generalizing keys with
  | nil => simpa using h
  | cons l ks ih =>
    refine ih ?_
    rcases h with h | h
    · rcases List.mem_cons.1 h with rfl | h
      · exact .inr (knows_addKey_self keys k)
      · exact .inl h
    · exact .inr (knows_addKey h l)

/-- The key of a row is among the keys of all rows. -/
theorem knows_keysOf {property : String} {rows : List Record} {r : Record} (hr : r ∈ rows)
    {k : Scalar} (hk : key? (Json.member r property) = some k) :
    knows (keysOf property rows) k = true :=
  knows_foldl_addKey (.inl (List.mem_filterMap.2 ⟨r, hr, hk⟩))

/-- Where no keys are asked for, no record holds one. -/
theorem key?_of_keysOf_eq_nil {property : String} {rows : List Record}
    (h : keysOf property rows = []) {r : Record} (hr : r ∈ rows) :
    key? (Json.member r property) = none := by
  refine Option.eq_none_iff_forall_ne_some.2 fun k hk => ?_
  have hknown := knows_keysOf hr hk
  rw [h] at hknown
  exact absurd hknown (by simp [knows])

/-- A row with a key is among the rows that are asked for. -/
theorem isOneOf_of_hasKey {keys : List Scalar} {k : Scalar} {r : Record}
    (hk : knows keys k = true) (h : hasKey k r = true) :
    Filter.isOneOf (Json.member r Query.idField) keys = true := by
  unfold hasKey at h
  split at h
  · next id hid =>
    obtain ⟨hscalar, -⟩ := Option.filter_eq_some_iff.1 hid
    obtain ⟨l, hl, hkl⟩ := List.any_eq_true.1 hk
    rw [Scalar.sameKey_iff] at h hkl
    simp only [Filter.isOneOf, hscalar]
    exact List.any_eq_true.2 ⟨l, hl, Scalar.sameKey_iff.2 (h.trans hkl)⟩
  · exact absurd h (by simp)

/-! ## The row of a key -/

variable {f : Record → Except Failure Record} {k : Scalar}

/-- Behind a step that respects identifiers a key finds the same record as in front of it, if that
record still has the key, and else none. -/
theorem find?_hasKey (hf : RespectsIds f) {rows done : List Record} (h : rows.mapM f = .ok done) :
    (match rows.find? (hasKey k) with
      | none => .ok none
      | some r => (f r).map fun d => if hasKey k d then some d else none) =
      (.ok (done.find? (hasKey k)) : Except Failure (Option Record)) := by
  rw [mapM_eq_ok] at h
  -- row by row, with the result of each beside it
  induction h with
  | nil => rfl
  | @cons r d rows done hd hrest ih =>
    cases hr : hasKey k r with
    | false =>
      have hgone : ¬hasKey k d = true := fun hkd => by
        rw [hf.hasKey_of_hasKey hd hkd] at hr
        exact absurd hr (by simp)
      rw [List.find?_cons_of_neg (by simp [hr]), List.find?_cons_of_neg hgone, ih]
    | true =>
      rw [List.find?_cons_of_pos hr]
      simp only [hd, Except.map]
      cases hkd : hasKey k d with
      | true => rw [List.find?_cons_of_pos hkd, if_pos rfl]
      | false =>
        -- the other records with this key lose it as well
        have hothers : done.find? (hasKey k) = none := by
          refine List.find?_eq_none.2 fun d' hd' hkd' => ?_
          obtain ⟨r', -, hr'⟩ := exists_of_mapM_eq_ok (mapM_eq_ok.2 hrest) hd'
          rw [hf.hasKey_congr hd hr' hr (hf.hasKey_of_hasKey hr' hkd'), hkd'] at hkd
          exact absurd hkd (by simp)
        rw [List.find?_cons_of_neg (by simp [hkd]), hothers, if_neg (by simp)]

/-- A selection keeps the keys. -/
theorem hasKey_project (fields : Option (List String)) (r : Record) :
    hasKey k (Query.project fields r) = hasKey k r := by
  rw [hasKey, Query.member_project (Query.keeps_idField fields), hasKey]

/-- Of the rows that are found for many keys, the last with one of these keys is the row that the
key finds by itself. -/
theorem find?_relatedRows {keys : List Scalar} (hk : knows keys k = true) (q : Query)
    (fields : Option (List String)) (rows : List Record) :
    (relatedRows q keys fields rows).reverse.find? (hasKey k) =
      (lookUp? q k rows).map (Query.project fields) := by
  have hproject : hasKey k ∘ Query.project fields = hasKey k := funext (hasKey_project fields)
  -- a row with a known key is among those that were asked for
  have hsame (r : Record) : decide ((Filter.isOneOf (Json.member r Query.idField) keys &&
      Filter.admits q.filter r) = true ∧ hasKey k r = true) =
        (hasKey k r && Filter.admits q.filter r) := by
    cases hr : hasKey k r with
    | false => simp
    | true => simp [isOneOf_of_hasKey hk hr]
  rw [relatedRows, ← List.map_reverse, List.find?_map, hproject, ← List.filter_reverse,
    List.find?_filter, lookUp?]
  simp only [hsame]

section

variable {registry : Registry} {tables : Tables} {levels : Nat} {target : Json} {e : Entry}

/-- Among the rows that one query finds for many keys, expanded together, a key finds the row that
replaces it. -/
theorem replacement?_eq {keys : List Scalar} (hk : knows keys k = true) {keep : List String}
    (hkeep : nestedProperties levels e.nested? = .ok keep) {q : Query}
    (hq : Query.ofParams true e.options = .ok q) {rows done : List Record}
    (hrows : tables target = .ok rows)
    (hdone : (relatedRows q keys (Query.includeFields q.fields (Query.idField :: keep)) rows).mapM
      (expandNested (expandRecord registry tables hasKey levels) target e) = .ok done) :
    replacement? tables hasKey levels (expandRecord registry tables hasKey levels) target e k =
      .ok (recordOf? done k) := by
  -- the properties that nested entries need are kept
  have hcommutes : Commutes (Query.includeFields q.fields (Query.idField :: keep))
      (expandNested (expandRecord registry tables hasKey levels) target e) :=
    commutes_expandNested hkeep fun p hp =>
      Query.keeps_includeFields q.fields (List.mem_cons_of_mem Query.idField hp)
  have hfind := @find?_hasKey _ k respectsIds_expandNested _ _ (mapM_reverse hdone)
  rw [find?_relatedRows hk] at hfind
  have hlast : recordOf? done k = done.reverse.find? (hasKey k) := rfl
  rw [hlast, ← hfind, replacement?, hkeep, hq, hrows]
  simp only [Except.mapError, ok_bind]
  cases lookUp? q k rows with
  | none => rfl
  | some row =>
    simp only [Option.map_some, hcommutes row]
    cases expandNested (expandRecord registry tables hasKey levels) target e row with
    | error f => rfl
    | ok row => simp only [Except.map, hasKey_project]

end

/-! ## Resolving -/

/-- An outcome with a result has no failure. -/
theorem exec_rowsOrFail_eq_ok {o : Outcome} {w w' : ω} {vs : List Json}
    (h : (o.rowsOrFail : Action ω (List Json)).exec w = (.ok vs, w')) :
    o = { rows := vs } ∧ w = w' := by
  obtain ⟨rows, _ | f⟩ := o
  · obtain ⟨hvs, hw⟩ := Prod.mk.inj h
    obtain rfl : rows = vs := Except.ok.inj hvs
    exact ⟨rfl, hw⟩
  · exact absurd (Prod.mk.inj h).1 (by simp)

/-- Records are records. -/
theorem exec_requireRecords (rows : List Record) (w : ω) :
    (requireRecords (rows.map .obj)).exec w = (.ok rows, w) := by
  rw [requireRecords, Query.asRecords_map_obj]
  rfl

/-- The resolver does what the expander does to each record, if it succeeds. -/
def ResolvesLike (Holds : ω → Prop) (resolver : Resolver ω) (expander : Expander) (target : Json)
    (text : String) : Prop :=
  ∀ (rows : List Record) (w : ω) (vs : List Json) (w' : ω), Holds w →
    (resolver target (rows.map .obj) text).run w = ({ rows := vs }, w') →
      Holds w' ∧ ∃ rows' : List Record, vs = rows'.map .obj ∧
        rows.mapM (expander target text) = .ok rows'

section

variable {source : Source ω} {tables : Tables} {Holds : ω → Prop} {levels : Nat}
  {deeper : Resolver ω} {expander : Expander} {e : Entry} {w w' : ω}

/-- What is known when the related records were looked up and expanded. -/
theorem exec_related_eq_ok (hsource : source.Reads tables Holds) (hw : Holds w)
    (hdeeper : ∀ target text, e.nested? = some text →
      ResolvesLike Holds deeper expander target text)
    {target : Json} {keys : List Scalar} {done : List Record}
    (h : (related source levels deeper target keys e).exec w = (.ok done, w')) :
    Holds w' ∧ ∃ keep q rows, nestedProperties levels e.nested? = .ok keep ∧
      relatedQuery keys e.options keep = .ok q ∧ tables target = .ok rows ∧
      (q.run rows).mapM (expandNested expander target e) = .ok done := by
  obtain ⟨keep, w₁, hread, h⟩ := exec_bind_eq_ok h
  obtain ⟨hkeep, rfl⟩ := exec_ofRejection_eq_ok hread
  obtain ⟨q, w₂, hread, h⟩ := exec_bind_eq_ok h
  obtain ⟨hq, rfl⟩ := exec_ofRejection_eq_ok hread
  obtain ⟨found, w₃, hfound, h⟩ := exec_bind_eq_ok h
  obtain ⟨w₄, hw₄, hfind⟩ := hsource target q w hw
  rw [hfind] at hfound
  obtain ⟨hanswer, rfl⟩ := Prod.mk.inj hfound
  obtain ⟨rows, hrows, rfl⟩ := map_eq_ok.1 hanswer
  unfold expandNested
  -- what is found is expanded in turn, if there is something nested
  cases hnested : e.nested? with
  | none =>
    simp only [hnested, exec_requireRecords] at h
    obtain ⟨hdone, rfl⟩ := Prod.mk.inj h
    rw [← Except.ok.inj hdone]
    exact ⟨hw₄, keep, q, rows, hnested ▸ hkeep, hq, hrows, mapM_same fun _ _ => rfl⟩
  | some text =>
    simp only [hnested] at h
    obtain ⟨o, w₁, ho, h⟩ := exec_bind_eq_ok h
    obtain ⟨vs, w₂, hvs, h⟩ := exec_bind_eq_ok h
    obtain ⟨rfl, rfl⟩ := exec_rowsOrFail_eq_ok hvs
    obtain ⟨hw₁, rows', rfl, hrows'⟩ := hdeeper target text hnested _ _ _ _ hw₄ (exec_lift_eq_ok ho)
    rw [exec_requireRecords] at h
    obtain ⟨hdone, rfl⟩ := Prod.mk.inj h
    rw [← Except.ok.inj hdone]
    exact ⟨hw₁, keep, q, rows, hnested ▸ hkeep, hq, hrows, hrows'⟩

end

section

variable {source : Source ω} {tables : Tables} {Holds : ω → Prop} {levels : Nat}
  {deeper : Resolver ω} {e : Entry} {type : ObjectType}

/-- What the reference has to say about an entry, once the texts that are nested in it are resolved
like the reference resolves them. -/
structure Resolvable (source : Source ω) (tables : Tables) (Holds : ω → Prop) (levels : Nat)
    (deeper : Resolver ω) (e : Entry) : Prop where
  reads : source.Reads tables Holds
  unpaged : e.Unpaged
  unsearched : Assoc.get? e.options "$search" = none
  settled : e.Settled tables
  nested : ∀ target text, e.nested? = some text →
    ResolvesLike Holds deeper (expandRecord source.registry tables hasKey levels) target text

/-- A relationship is expanded record by record. -/
theorem resolveRelationship_eq_ok (he : Resolvable source tables Holds levels deeper e)
    {f : Field} {rows : List Record} {w w' : ω} {vs : List Json} (hw : Holds w)
    (h : (resolveRelationship source levels deeper f (rows.map .obj) e).exec w = (.ok vs, w')) :
    Holds w' ∧ ∃ rows' : List Record, vs = rows'.map .obj ∧
      rows.mapM (expandProperty tables hasKey levels
        (expandRecord source.registry tables hasKey levels) f.reference e) = .ok rows' := by
  rw [resolveRelationship, exec_bind_ok (exec_requireRecords rows w)] at h
  split at h
  · next hkeys =>
    -- no record holds a key
    obtain ⟨hvs, rfl⟩ := Prod.mk.inj h
    refine ⟨hw, rows, (Except.ok.inj hvs).symm, mapM_same fun r hr => ?_⟩
    rw [expandProperty, key?_of_keysOf_eq_nil hkeys hr]
  · obtain ⟨done, w₁, hrelated, h⟩ := exec_bind_eq_ok h
    obtain ⟨hvs, rfl⟩ := Prod.mk.inj h
    obtain ⟨hw₁, keep, q', trows, hkeep, hq', htrows, hdone⟩ :=
      exec_related_eq_ok he.reads hw he.nested hrelated
    obtain ⟨q, hq, rfl⟩ := relatedQuery_eq_ok.1 hq'
    -- the query is not paged, so it finds all rows with a known key
    rw [run_relatedQuery (isUnpaged_of_options he.unpaged he.unsearched hq) _ _
      fun k hk => he.settled q hq k hk _ trows htrows] at hdone
    refine ⟨hw₁, rows.map (embed e.property done), ?_, mapM_ok fun r hr => ?_⟩
    · rw [← Except.ok.inj hvs, List.map_map]
      rfl
    · rw [expandProperty, embed]
      cases hk : key? (Json.member r e.property) with
      | none => rfl
      | some k =>
        dsimp only
        rw [replacement?_eq (knows_keysOf hr hk) hkeep hq htrows hdone]
        cases recordOf? done k <;> rfl

/-- An entry is expanded record by record. -/
theorem resolveEntry_eq_ok (he : Resolvable source tables Holds levels deeper e)
    {rows : List Record} {w w' : ω} {vs : List Json} (hw : Holds w)
    (h : (resolveEntry source levels deeper type (rows.map .obj) e).exec w = (.ok vs, w')) :
    Holds w' ∧ ∃ rows' : List Record, vs = rows'.map .obj ∧
      rows.mapM (expandEntry tables hasKey levels
        (expandRecord source.registry tables hasKey levels) type · e) = .ok rows' := by
  have hsame (h : (pure (rows.map .obj) : Action ω (List Json)).exec w = (.ok vs, w')) :
      Holds w' ∧ vs = rows.map .obj := by
    obtain ⟨hvs, rfl⟩ := Prod.mk.inj h
    exact ⟨hw, (Except.ok.inj hvs).symm⟩
  -- a property that is no relationship changes no record
  cases hf : Assoc.get? type.fields e.property with
  | none =>
    simp only [resolveEntry, hf] at h
    simp only [expandEntry, hf]
    exact ⟨(hsame h).1, rows, (hsame h).2, mapM_same fun _ _ => rfl⟩
  | some f =>
    cases hrel : f.isRelationship with
    | true =>
      simp only [resolveEntry, hf, hrel, if_true] at h
      simp only [expandEntry, hf, hrel, if_true]
      exact resolveRelationship_eq_ok he hw h
    | false =>
      simp only [resolveEntry, hf, hrel] at h
      simp only [expandEntry, hf, hrel]
      exact ⟨(hsame h).1, rows, (hsame h).2, mapM_same fun _ _ => rfl⟩

/-- The entries are expanded one after the other, up to the first failure. -/
theorem run_resolveEntries_cons (es : List Entry) (vs : List Json) (w : ω) :
    (resolveEntries source levels deeper type (e :: es) vs).run w =
      match (resolveEntry source levels deeper type vs e).exec w with
      | (.ok vs', w') => (resolveEntries source levels deeper type es vs').run w'
      | (.error f, w') => ({ rows := vs, failure := some f }, w') := by
  obtain ⟨result, w', hrun⟩ : ∃ result w',
      (resolveEntry source levels deeper type vs e).exec w = (result, w') := ⟨_, _, rfl⟩
  have hrun' : StateT.run (ExceptT.run (resolveEntry source levels deeper type vs e)) w =
    (result, w') := hrun
  rw [hrun, resolveEntries, StateT.run_bind, hrun']
  cases result <;> rfl

/-- All entries are expanded record by record. -/
theorem resolveEntries_eq_ok {es : List Entry}
    (hes : ∀ e ∈ es, Resolvable source tables Holds levels deeper e)
    {rows : List Record} {w w' : ω} {vs : List Json} (hw : Holds w)
    (h : (resolveEntries source levels deeper type es (rows.map .obj)).run w =
      ({ rows := vs }, w')) :
    Holds w' ∧ ∃ rows' : List Record, vs = rows'.map .obj ∧
      rows.mapM (fun r => es.foldlM (expandEntry tables hasKey levels
        (expandRecord source.registry tables hasKey levels) type) r) = .ok rows' := by
  induction es generalizing rows w with
  | nil =>
    obtain ⟨hvs, rfl⟩ := Prod.mk.inj h
    exact ⟨hw, rows, (congrArg Outcome.rows hvs).symm, mapM_same fun _ _ => rfl⟩
  | cons e es ih =>
    rw [run_resolveEntries_cons] at h
    rcases hentry : (resolveEntry source levels deeper type (rows.map .obj) e).exec w
      with ⟨f | vs₁, w₁⟩
    · rw [hentry] at h
      exact absurd (congrArg Outcome.failure (Prod.mk.inj h).1) (by simp)
    · rw [hentry] at h
      obtain ⟨hw₁, rows₁, rfl, hrows₁⟩ := resolveEntry_eq_ok (hes e List.mem_cons_self) hw hentry
      obtain ⟨hw', rows', hvs, hrows'⟩ :=
        ih (fun e' he' => hes e' (List.mem_cons_of_mem e he')) hw₁ h
      exact ⟨hw', rows', hvs, mapM_bind_ok hrows₁ hrows'⟩

/-- Resolving a text goes by what is read of it, if there is anything to resolve it in. -/
theorem outcome_succ (target : Json) (vs : List Json) (text : String) :
    outcome source (levels + 1) target vs text =
      if vs.isEmpty then pure { rows := vs }
      else
        match readEntries source.registry target text with
        | .error f => pure { rows := vs, failure := some f }
        | .ok none => pure { rows := vs }
        | .ok (some (es, type)) =>
          resolveEntries source levels (outcome source levels) type es vs := by
  rw [outcome, readEntries]
  by_cases hvs : vs.isEmpty = true
  · simp only [hvs, Bool.true_or, if_true]
  by_cases htext : text = ""
  · simp [hvs, htext]
  simp only [hvs, htext, decide_false, Bool.or_self, if_false]
  cases parse text with
  | error f => rfl
  | ok es => rcases source.registry.resolve? target with f | _ | type <;> rfl

/-- Every text is resolved like the reference resolves it, on any number of levels. -/
theorem outcome_resolvesLike (hsource : source.Reads tables Holds) {target : Json} {text : String}
    (hunpaged : Everywhere Entry.Unpaged levels text)
    (hsettled : Everywhere (Entry.Settled tables) levels text) :
    ResolvesLike Holds (outcome source levels) (expandRecord source.registry tables hasKey levels)
      target text := by
  -- by induction on the levels that are left
  induction levels generalizing target text with
  | zero =>
    intro rows w vs w' hw h
    obtain ⟨hvs, rfl⟩ := Prod.mk.inj h
    exact ⟨hw, rows, (congrArg Outcome.rows hvs).symm, mapM_same fun _ _ => rfl⟩
  | succ levels ih =>
    intro rows w vs w' hw h
    have hrest {rows' : List Record} {failure : Option Failure}
        (h : ({ rows := rows'.map .obj, failure }, w) = (({ rows := vs } : Outcome), w')) :
        failure = none ∧ w = w' ∧ vs = rows'.map .obj := by
      obtain ⟨hvs, hw⟩ := Prod.mk.inj h
      exact ⟨congrArg Outcome.failure hvs, hw, (congrArg Outcome.rows hvs).symm⟩
    rw [outcome_succ] at h
    rw [expandRecord_succ]
    split at h
    · next hempty =>
      obtain rfl : rows = [] := by simpa using hempty
      obtain ⟨-, rfl, hvs⟩ := hrest h
      exact ⟨hw, [], hvs, rfl⟩
    · rcases hread : readEntries source.registry target text with f | _ | ⟨es, type⟩
      · rw [hread] at h
        exact absurd (hrest h).1 (by simp)
      · rw [hread] at h
        obtain ⟨-, rfl, hvs⟩ := hrest h
        exact ⟨hw, rows, hvs, mapM_same fun _ _ => rfl⟩
      · rw [hread] at h
        obtain ⟨hparse, -⟩ := readEntries_eq_some hread
        refine resolveEntries_eq_ok (fun e he => ?_) hw h
        obtain ⟨hu, hunested⟩ := hunpaged es hparse e he
        obtain ⟨hs, hsnested⟩ := hsettled es hparse e he
        exact
          { reads := hsource
            unpaged := hu
            unsearched := get?_options_of_unsupported hparse he (by decide)
            settled := hs
            nested := fun _ text htext => ih (hunested text htext) (hsnested text htext) }

end

/-- Where the records of a type come from tables that do not change, resolving a text in records
comes to resolving it in each of them by itself. A row that loses its identifier when it is expanded
does not count as found; if no identifier is resolved in embedded rows, all rows that are found are
embedded. -/
theorem resolve_eq_expandRecord {source : Source ω} {tables : Tables} {Holds : ω → Prop}
    (hsource : source.Reads tables Holds) {levels : Nat} {entitySet : Json} {text : String}
    (hunpaged : Everywhere Entry.Unpaged levels text)
    (hsettled : Everywhere (Entry.Settled tables) levels text)
    {rows : List Record} {w w' : ω} (hw : Holds w) {vs : List Json}
    (h : (resolve source levels entitySet (rows.map .obj) text).exec w = (.ok vs, w')) :
    ∃ rows' : List Record, vs = rows'.map .obj ∧
      rows.mapM (expandRecord source.registry tables hasKey levels entitySet text) = .ok rows' ∧
      (IdsStay source.registry levels text →
        rows.mapM (expandRecord source.registry tables anyRow levels entitySet text) =
          .ok rows') := by
  obtain ⟨o, w₁, ho, h⟩ := exec_bind_eq_ok h
  obtain ⟨rfl, rfl⟩ := exec_rowsOrFail_eq_ok h
  obtain ⟨-, rows', hvs, hrows'⟩ :=
    outcome_resolvesLike hsource hunpaged hsettled rows w vs w₁ hw (exec_lift_eq_ok ho)
  refine ⟨rows', hvs, hrows', fun hids => ?_⟩
  rw [← expandRecord_eq_anyRow hids, hrows']

/-! ## The store in memory -/

/-- The rows of the type that a value names. -/
def rowsOf (s : Store) : Tables := fun target => do
  let name ← Store.nameOf target
  let t ← s.table name
  return t.values

/-- The store in memory answers queries on its tables, which queries leave as they are. -/
theorem engine_reads (s : Store) (g : Registry) :
    Source.Reads ⟨g, Store.engine.find⟩ (rowsOf s) fun w => w.store = s := by
  rintro target q w rfl
  refine ⟨w, rfl, ?_⟩
  cases hname : Store.nameOf target with
  | error f =>
    have hn : (Store.result (Store.nameOf target)).exec w = (.error f, w) := by rw [hname]; rfl
    rw [rowsOf, hname]
    exact exec_bind_error hn
  | ok name =>
    have hn : (Store.result (Store.nameOf target)).exec w = (.ok name, w) := by rw [hname]; rfl
    rw [rowsOf, hname]
    refine (exec_bind_ok hn).trans ?_
    cases hd : w.store.declares name with
    | true =>
      rw [ok_bind, Store.table_eq_ok hd]
      exact exec_bind_ok (exec_bind_ok (Store.exec_tableOf hd))
    | false =>
      rw [ok_bind, Store.table_eq_error hd]
      exact exec_bind_error (exec_bind_error (Store.exec_tableOf_undeclared hd))

/-- The rows of an entity set are stored in one of its tables. -/
theorem mem_tables_of_rowsOf {s : Store} {target : Json} {rows : List Record}
    (h : rowsOf s target = .ok rows) {r : Record} (hr : r ∈ rows) :
    ∃ t ∈ s.tables, r ∈ t.2.values := by
  obtain ⟨name, -, h⟩ := bind_eq_ok.1 h
  obtain ⟨t, ht, h⟩ := bind_eq_ok.1 h
  obtain rfl := Except.ok.inj h
  unfold Store.table at ht
  split at ht
  · obtain rfl := Except.ok.inj ht
    -- a set that is declared and has no table has no rows
    cases hget : Assoc.get? s.tables name with
    | none =>
      rw [hget] at hr
      exact absurd hr (by simp [Assoc.values])
    | some t =>
      rw [hget] at hr
      exact ⟨(name, t), Assoc.mem_of_get? hget, hr⟩
  · exact absurd ht (by simp)

/-- Whether an entry orders a store's records by properties that all have a place can be told from
its options and the tables. -/
theorem settled_rowsOf {s : Store} {e : Entry} {keys : List SortKey}
    (horder : (Query.ofParams true e.options).toOption.map Query.orderBy = some keys)
    (hplaces : ∀ k ∈ keys, ∀ t ∈ s.tables, ∀ r ∈ t.2.values,
      Query.placeOf k r ≠ .number none) : e.Settled (rowsOf s) := by
  intro q hq k hk target rows hrows r hr
  rw [hq] at horder
  obtain rfl : q.orderBy = keys := Option.some.inj horder
  obtain ⟨t, ht, hrt⟩ := mem_tables_of_rowsOf hrows hr
  exact hplaces k hk t ht r hrt

/-- Accounts refer to their owners, and owners to their firms. -/
def accounts : Store where
  types := [
    ("Accounts", ⟨"Accounts", .null, [("owner", ⟨"lookup", .str "Owners", .null, false⟩)]⟩),
    ("Owners", ⟨"Owners", .null, [("firm", ⟨"lookup", .str "Firms", .null, false⟩)]⟩),
    ("Firms", ⟨"Firms", .null, []⟩)]
  tables := [
    ("Owners", [
      ("1", [(.str "_id", .str "1"), (.str "n", .str "A"), (.str "firm", .str "x")]),
      ("2", [(.str "_id", .str "2"), (.str "n", .str "B"), (.str "firm", .str "y")])]),
    ("Firms", [("x", [(.str "_id", .str "x")])])]

def twoAccounts : List Record :=
  [[(.str "no", .int 1), (.str "owner", .str "1")], [(.str "no", .int 2), (.str "owner", .str "2")]]

def ownerText : String := "owner($select=n;$filter=n ne 'B';$orderby=n;$expand=firm)"

def ownerEntry : Entry :=
  ⟨"owner", [("$select", "n"), ("$filter", "n ne 'B'"), ("$orderby", "n"), ("$expand", "firm")]⟩

/-- A condition on the two entries of the text. -/
theorem everywhere_ownerText {P : Entry → Prop} (howner : P ownerEntry)
    (hfirm : P ⟨"firm", []⟩) : Everywhere P 2 ownerText := by
  have hparse : parse ownerText = .ok [ownerEntry] := by decide +kernel
  have hparse' : parse "firm" = .ok [⟨"firm", []⟩] := by decide +kernel
  rw [everywhere_succ hparse]
  intro e he
  obtain rfl := List.mem_singleton.1 he
  refine ⟨howner, fun nested hnested => ?_⟩
  obtain rfl : "firm" = nested := Option.some.inj hnested
  rw [everywhere_succ hparse']
  intro e he
  obtain rfl := List.mem_singleton.1 he
  have hnone : Entry.nested? ⟨"firm", []⟩ = none := rfl
  exact ⟨hfirm, fun nested hnested => absurd (hnone.symm.trans hnested) (by simp)⟩

/-- The keys that are left in the property `owner`. -/
def ownerKeys (vs : List Json) : List (Option Scalar) :=
  vs.map fun
    | .obj r => (Json.member r "owner").scalar?
    | _ => none

/-- The owner of the first account is embedded, and that of the second is filtered out. -/
theorem resolve_eq_expandRecord_accounts :
    ∃ rows', twoAccounts.mapM (expandRecord accounts.registry (rowsOf accounts) anyRow 2
        (.str "Accounts") ownerText) = .ok rows' ∧
      ownerKeys (rows'.map .obj) = [none, some (.str "2")] := by
  have hunpaged : Everywhere Entry.Unpaged 2 ownerText :=
    everywhere_ownerText ⟨by decide, by decide⟩ ⟨by decide, by decide⟩
  have hsettled : Everywhere (Entry.Settled (rowsOf accounts)) 2 ownerText :=
    everywhere_ownerText
      (@settled_rowsOf _ _ [⟨"n", false⟩] (by decide +kernel) (by decide +kernel))
      (@settled_rowsOf _ _ [] (by decide +kernel) (by decide))
  have hids : IdsStay accounts.registry 2 ownerText := by
    refine .of_everywhere (everywhere_ownerText (fun h => ?_) (fun h => ?_)) <;>
      exact absurd h (by decide)
  have hkeys : (((resolve ⟨accounts.registry, Store.engine.find⟩ 2 (.str "Accounts")
      (twoAccounts.map .obj) ownerText).exec { store := accounts }).1.toOption.map ownerKeys) =
        some [none, some (.str "2")] := by decide +kernel
  rcases hrun : (resolve ⟨accounts.registry, Store.engine.find⟩ 2 (.str "Accounts")
    (twoAccounts.map .obj) ownerText).exec { store := accounts } with ⟨f | vs, w'⟩
  · rw [hrun] at hkeys
    exact absurd hkeys (by simp [Except.toOption])
  · rw [hrun] at hkeys
    obtain ⟨rows', rfl, -, hrows'⟩ :=
      resolve_eq_expandRecord (engine_reads accounts accounts.registry) hunpaged hsettled rfl hrun
    exact ⟨rows', hrows' hids, Option.some.inj hkeys⟩

end ODataService.Expand
