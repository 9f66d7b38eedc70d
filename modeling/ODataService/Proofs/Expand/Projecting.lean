import ODataService.Proofs.Expand.PerRecord

/-!
# Embedding and projecting

Records may be projected before or after related records are embedded in them (`resolve_project`).

A projection either passes the property of an entry or drops it. If it passes the property, the same
keys are looked up either way, and embedding and projecting can be made in either order. If it drops
the property, nothing is looked up for the projected records, and what is embedded in the others is
dropped afterwards. Looking up more or less makes no difference later, as long as the tables stay as
they are.
-/

namespace ODataService.Expand

open ODataService.Action

variable {ω : Type} {source : Source ω} {tables : Tables} {Holds : ω → Prop}
  {fields : Option (List String)} {rows done : List Record} {vs vs' : List Json}
  {levels : Nat} {w w' u u' : ω}

/-! ## One record -/

/-- A record is embedded in the place of a key, if at all. -/
theorem embed_cases (p : String) (found : List Record) (r : Record) :
    embed p found r = r ∨
      ∃ v, Keyed.get? r p ≠ none ∧ embed p found r = Keyed.set r p v := by
  unfold embed
  split
  · exact .inl rfl
  · next k hk =>
    split
    · next row _ =>
      refine .inr ⟨.obj row, ?_, rfl⟩
      intro hnone
      -- a property that is not there holds no key
      have hkey : key? (Json.member r p) = none := by
        rw [Json.member, hnone]
        rfl
      exact absurd (hkey.symm.trans hk) (by simp)
    · exact .inl rfl

/-- Embedding adds no property. -/
theorem keys_embed (p : String) (found : List Record) (r : Record) :
    Keyed.keys (embed p found r) = Keyed.keys r := by
  rcases embed_cases p found r with hsame | ⟨v, hp, hset⟩
  · rw [hsame]
  · rw [hset, Keyed.keys_set hp]

/-- Embedding under a property that is selected commutes with the selection. -/
theorem embed_project_of_passes {p : String} (h : Query.Passes fields p) (found : List Record)
    (r : Record) :
    embed p found (Query.project fields r) = Query.project fields (embed p found r) := by
  unfold embed
  rw [h.member r]
  split
  · rfl
  · split
    · next row _ => rw [h.set r (.obj row)]
    · rfl

/-- What is embedded under a property that is not selected is not seen. -/
theorem project_embed_of_drops {p : String} (h : Query.Drops fields p) (found : List Record)
    (r : Record) : Query.project fields (embed p found r) = Query.project fields r := by
  rcases embed_cases p found r with hsame | ⟨v, -, hset⟩
  · rw [hsame]
  · rw [hset, h.set r v]

/-- A property that is selected has the same keys. -/
theorem keysOf_project_of_passes {p : String} (h : Query.Passes fields p) (rows : List Record) :
    keysOf p (rows.map (Query.project fields)) = keysOf p rows := by
  rw [keysOf, keysOf, List.filterMap_map]
  have hkeys : (fun r => key? (Json.member r p)) ∘ Query.project fields =
      fun r => key? (Json.member r p) := by
    funext r
    show key? (Json.member (Query.project fields r) p) = key? (Json.member r p)
    rw [h.member r]
  rw [hkeys]

/-- A property that is not selected has no keys. -/
theorem keysOf_project_of_drops {p : String} (h : Query.Drops fields p) (rows : List Record) :
    keysOf p (rows.map (Query.project fields)) = [] := by
  have hnone : rows.filterMap ((fun r => key? (Json.member r p)) ∘ Query.project fields) = [] := by
    refine List.filterMap_eq_nil_iff.mpr ?_
    intro r _
    show key? (Json.member (Query.project fields r) p) = none
    rw [h.member r]
    rfl
  rw [keysOf, List.filterMap_map, hnone]
  rfl

/-! ## All records -/

/-- The records `done` came of `rows` by embedding: they have the same keys. The values `vs` are
these records, and the values `vs'` are their projections. -/
structure Parallel (fields : Option (List String)) (rows done : List Record)
    (vs vs' : List Json) : Prop where
  full : vs = done.map .obj
  projected : vs' = (done.map (Query.project fields)).map .obj
  keys_eq : done.map Keyed.keys = rows.map Keyed.keys

/-- Rows that stay are parallel to their projections. -/
theorem Parallel.same (fields : Option (List String)) (rows : List Record) :
    Parallel fields rows rows (rows.map .obj) ((rows.map (Query.project fields)).map .obj) :=
  ⟨rfl, rfl, rfl⟩

/-- Embedding keeps the properties that records have. -/
theorem Parallel.of_embed {p : String} {found : List Record}
    (h : vs' = ((rows.map (embed p found)).map (Query.project fields)).map .obj) :
    Parallel fields rows (rows.map (embed p found)) (rows.map fun r => .obj (embed p found r))
      vs' where
  full := by
    rw [List.map_map]
    rfl
  projected := h
  keys_eq := by
    rw [List.map_map]
    refine List.map_congr_left ?_
    intro r _
    exact keys_embed p found r

/-- Embedding on both sides keeps the rows parallel. -/
theorem Parallel.embed_of_passes {p : String} (h : Query.Passes fields p)
    (found rows : List Record) :
    Parallel fields rows (rows.map (embed p found)) (rows.map fun r => .obj (embed p found r))
      ((rows.map (Query.project fields)).map fun r => .obj (embed p found r)) := by
  refine .of_embed ?_
  rw [List.map_map, List.map_map, List.map_map]
  refine List.map_congr_left ?_
  intro r _
  exact congrArg Json.obj (embed_project_of_passes h found r)

/-- Embedding under a property that is not selected keeps the rows parallel. -/
theorem Parallel.embed_of_drops {p : String} (h : Query.Drops fields p) (found rows : List Record) :
    Parallel fields rows (rows.map (embed p found)) (rows.map fun r => .obj (embed p found r))
      ((rows.map (Query.project fields)).map .obj) := by
  refine .of_embed ?_
  rw [List.map_map, List.map_map, List.map_map]
  refine List.map_congr_left ?_
  intro r _
  exact congrArg Json.obj (project_embed_of_drops h found r).symm

/-- Both states have the same tables. -/
def Both (Holds : ω → Prop) (w w' : ω) : Prop := Holds w ∧ Holds w'

/-- A read finds the same in worlds with the same tables. -/
theorem blind_find (hsource : source.Reads tables Holds) (target : Json) (q : Query) :
    Keeps (Blind (Both Holds)) (source.find target q) := by
  intro w w' hboth
  obtain ⟨u, hu, hfind⟩ := hsource target q w hboth.1
  obtain ⟨u', hu', hfind'⟩ := hsource target q w' hboth.2
  show ((source.find target q).exec w).1 = ((source.find target q).exec w').1 ∧
    Both Holds ((source.find target q).exec w).2 ((source.find target q).exec w').2
  rw [hfind, hfind']
  exact ⟨rfl, hu, hu'⟩

/-- For the same keys the same records are found and expanded, whatever was looked up before. -/
theorem related_eq_related (hsource : source.Reads tables Holds) {target : Json}
    {keys : List Scalar} {e : Entry} {found found' : List Record} (hboth : Both Holds w w')
    (h : (related source levels (outcome source levels) target keys e).exec w = (.ok found, u))
    (h' : (related source levels (outcome source levels) target keys e).exec w' =
      (.ok found', u')) : found' = found ∧ Both Holds u u' := by
  have hfind := blind_find hsource
  have hrelated : Keeps (Blind (Both Holds))
      (related source levels (outcome source levels) target keys e) :=
    keeps_related hfind (keeps_outcome hfind levels) target keys e
  obtain ⟨hresult, hworlds⟩ := hrelated.blind hboth
  rw [h, h'] at hresult hworlds
  exact ⟨(Except.ok.inj hresult).symm, hworlds⟩

/-- A relationship is resolved in records by looking up the keys they hold, if they hold any. -/
theorem exec_resolveRelationship {deeper : Resolver ω} {f : Field} {e : Entry}
    (h : (resolveRelationship source levels deeper f (rows.map .obj) e).exec w = (.ok vs, u)) :
    (keysOf e.property rows = [] ∧ vs = rows.map .obj ∧ w = u) ∨
      (keysOf e.property rows ≠ [] ∧ ∃ found,
        (related source levels deeper f.reference (keysOf e.property rows) e).exec w =
          (.ok found, u) ∧
        vs = rows.map fun r => .obj (embed e.property found r)) := by
  rw [resolveRelationship, exec_bind_ok (exec_requireRecords rows w)] at h
  -- without keys nothing is looked up
  split at h
  · next hkeys =>
    obtain ⟨hvs, hw⟩ := Prod.mk.inj h
    exact .inl ⟨hkeys, (Except.ok.inj hvs).symm, hw⟩
  · next hkeys =>
    obtain ⟨found, w₁, hfound, h⟩ := exec_bind_eq_ok h
    obtain ⟨hvs, rfl⟩ := Prod.mk.inj h
    exact .inr ⟨hkeys, found, hfound, (Except.ok.inj hvs).symm⟩

/-- A relationship is expanded in parallel. -/
theorem resolveRelationship_project (hsource : source.Reads tables Holds) {f : Field} {e : Entry}
    (hw : Holds w) (hw' : Holds w')
    (h : (resolveRelationship source levels (outcome source levels) f (rows.map .obj) e).exec w =
      (.ok vs, u))
    (h' : (resolveRelationship source levels (outcome source levels) f
      ((rows.map (Query.project fields)).map .obj) e).exec w' = (.ok vs', u')) :
    Both Holds u u' ∧ ∃ done, Parallel fields rows done vs vs' := by
  have hfull := exec_resolveRelationship h
  have hprojected := exec_resolveRelationship h'
  rcases Query.passes_or_drops fields e.property with hpasses | hdrops
  · rw [keysOf_project_of_passes hpasses] at hprojected
    rcases hfull with ⟨hkeys, rfl, rfl⟩ | ⟨hkeys, found, hfound, rfl⟩
    · obtain ⟨-, rfl, rfl⟩ | ⟨hkeys', -⟩ := hprojected
      · exact ⟨⟨hw, hw'⟩, rows, .same fields rows⟩
      · exact absurd hkeys hkeys'
    · obtain ⟨hkeys', -⟩ | ⟨-, found', hfound', rfl⟩ := hprojected
      · exact absurd hkeys' hkeys
      · -- the same keys are looked up, so the same records are embedded
        obtain ⟨rfl, hworlds⟩ := related_eq_related hsource ⟨hw, hw'⟩ hfound hfound'
        exact ⟨hworlds, _, .embed_of_passes hpasses found' rows⟩
  · rw [keysOf_project_of_drops hdrops] at hprojected
    obtain ⟨-, rfl, rfl⟩ | ⟨hkeys', -⟩ := hprojected
    · rcases hfull with ⟨-, rfl, rfl⟩ | ⟨-, found, hfound, rfl⟩
      · exact ⟨⟨hw, hw'⟩, rows, .same fields rows⟩
      · -- what was found is looked up once more to say that the tables stay
        obtain ⟨-, hworlds⟩ := related_eq_related hsource ⟨hw, hw⟩ hfound hfound
        exact ⟨⟨hworlds.1, hw'⟩, _, .embed_of_drops hdrops found rows⟩
    · exact absurd rfl hkeys'

/-- An entry is expanded in parallel. -/
theorem resolveEntry_project (hsource : source.Reads tables Holds) {type : ObjectType} {e : Entry}
    (hboth : Both Holds w w')
    (h : (resolveEntry source levels (outcome source levels) type (rows.map .obj) e).exec w =
      (.ok vs, u))
    (h' : (resolveEntry source levels (outcome source levels) type
      ((rows.map (Query.project fields)).map .obj) e).exec w' = (.ok vs', u')) :
    Both Holds u u' ∧ ∃ done, Parallel fields rows done vs vs' := by
  have hsame (h : (pure (rows.map .obj) : Action ω (List Json)).exec w = (.ok vs, u))
      (h' : (pure ((rows.map (Query.project fields)).map .obj) : Action ω (List Json)).exec w' =
        (.ok vs', u')) : Both Holds u u' ∧ ∃ done, Parallel fields rows done vs vs' := by
    obtain ⟨hvs, rfl⟩ := Prod.mk.inj h
    obtain ⟨hvs', rfl⟩ := Prod.mk.inj h'
    rw [← Except.ok.inj hvs, ← Except.ok.inj hvs']
    exact ⟨hboth, rows, .same fields rows⟩
  unfold resolveEntry at h h'
  cases hf : Assoc.get? type.fields e.property with
  | none =>
    simp only [hf] at h h'
    exact hsame h h'
  | some f =>
    cases hrel : f.isRelationship with
    | true =>
      simp only [hf, hrel, if_true] at h h'
      exact resolveRelationship_project hsource hboth.1 hboth.2 h h'
    | false =>
      simp only [hf, hrel] at h h'
      exact hsame h h'

/-- Rows that stay parallel do so in a row. -/
theorem Parallel.trans {done' : List Record} {us us' : List Json}
    (h : Parallel fields rows done us us') (h' : Parallel fields done done' vs vs') :
    Parallel fields rows done' vs vs' :=
  ⟨h'.full, h'.projected, h'.keys_eq.trans h.keys_eq⟩

/-- Entry by entry, what was projected stays the projection of what was not. -/
theorem resolveEntries_project (hsource : source.Reads tables Holds) {type : ObjectType}
    {es : List Entry} (hboth : Both Holds w w')
    (h : (resolveEntries source levels (outcome source levels) type es (rows.map .obj)).run w =
      ({ rows := vs }, u))
    (h' : (resolveEntries source levels (outcome source levels) type es
      ((rows.map (Query.project fields)).map .obj)).run w' = ({ rows := vs' }, u')) :
    ∃ done, Parallel fields rows done vs vs' := by
  -- both sides go through the same entries, and neither of them fails
  induction es generalizing rows w w' with
  | nil =>
    obtain ⟨hvs, -⟩ := Prod.mk.inj h
    obtain ⟨hvs', -⟩ := Prod.mk.inj h'
    have hfull : rows.map .obj = vs := congrArg Outcome.rows hvs
    have hprojected : (rows.map (Query.project fields)).map .obj = vs' :=
      congrArg Outcome.rows hvs'
    rw [← hfull, ← hprojected]
    exact ⟨rows, .same fields rows⟩
  | cons e es ih =>
    rw [run_resolveEntries_cons] at h h'
    rcases hentry : (resolveEntry source levels (outcome source levels) type (rows.map .obj) e).exec
      w with ⟨f | vs₁, w₁⟩
    · rw [hentry] at h
      exact absurd (congrArg Outcome.failure (Prod.mk.inj h).1) (by simp)
    rcases hentry' : (resolveEntry source levels (outcome source levels) type
      ((rows.map (Query.project fields)).map .obj) e).exec w' with ⟨f | vs₁', w₁'⟩
    · rw [hentry'] at h'
      exact absurd (congrArg Outcome.failure (Prod.mk.inj h').1) (by simp)
    rw [hentry] at h
    rw [hentry'] at h'
    obtain ⟨hworlds, done, hfirst⟩ := resolveEntry_project hsource hboth hentry hentry'
    -- the entries that are left start from records and their projections again
    obtain rfl := hfirst.full
    obtain rfl := hfirst.projected
    obtain ⟨done', hrest⟩ := ih hworlds h h'
    exact ⟨done', hfirst.trans hrest⟩

/-- Where the records of a type come from tables that do not change, records may be projected before
or after a text is resolved in them, if both succeed. What is embedded takes the place of a key, so
the records have the properties that they had before. -/
theorem resolve_project (hsource : source.Reads tables Holds) {entitySet : Json} {text : String}
    (hboth : Both Holds w w')
    (h : (resolve source levels entitySet (rows.map .obj) text).exec w = (.ok vs, u))
    (h' : (resolve source levels entitySet ((rows.map (Query.project fields)).map .obj) text).exec
      w' = (.ok vs', u')) :
    ∃ done, Parallel fields rows done vs vs' := by
  obtain ⟨o, w₁, ho, h⟩ := exec_bind_eq_ok h
  obtain ⟨rfl, rfl⟩ := exec_rowsOrFail_eq_ok h
  obtain ⟨o', w₁', ho', h'⟩ := exec_bind_eq_ok h'
  obtain ⟨rfl, rfl⟩ := exec_rowsOrFail_eq_ok h'
  have hrun := exec_lift_eq_ok ho
  have hrun' := exec_lift_eq_ok ho'
  have hsame {failure failure' : Option Failure}
      (h : ({ rows := rows.map .obj, failure }, w) = (({ rows := vs } : Outcome), w₁))
      (h' : ({ rows := (rows.map (Query.project fields)).map .obj, failure := failure' }, w') =
        (({ rows := vs' } : Outcome), w₁')) : ∃ done, Parallel fields rows done vs vs' := by
    have hfull : rows.map .obj = vs := congrArg Outcome.rows (Prod.mk.inj h).1
    have hprojected : (rows.map (Query.project fields)).map .obj = vs' :=
      congrArg Outcome.rows (Prod.mk.inj h').1
    rw [← hfull, ← hprojected]
    exact ⟨rows, .same fields rows⟩
  -- both sides stop for the same reason, or expand the same entries
  cases levels with
  | zero => exact hsame hrun hrun'
  | succ levels =>
    rw [outcome_succ] at hrun hrun'
    have hempty : ((rows.map (Query.project fields)).map Json.obj).isEmpty =
        (rows.map Json.obj).isEmpty := by
      cases rows <;> rfl
    rw [hempty] at hrun'
    split at hrun
    · next hnil =>
      rw [if_pos hnil] at hrun'
      exact hsame hrun hrun'
    · next hnil =>
      rw [if_neg hnil] at hrun'
      rcases hread : readEntries source.registry entitySet text with f | _ | ⟨es, type⟩
      · rw [hread] at hrun hrun'
        exact hsame hrun hrun'
      · rw [hread] at hrun hrun'
        exact hsame hrun hrun'
      · rw [hread] at hrun hrun'
        exact resolveEntries_project hsource hboth hrun hrun'

end ODataService.Expand
