import ODataService.Expand.Resolution
import ODataService.Proofs.Bind
import ODataService.Proofs.Query.Projection

/-!
# Embedding related records record by record

What resolving an `$expand` text comes to for one record (`expandRecord`): the key in a relationship
field is looked up by itself in the table of the type that the field refers to, and the row that it
finds is expanded by the nested text, projected, and put in the place of the key.

A row that is expanded in turn may lose its identifier, if that is a key of another record. Whether
it still counts as found is a parameter of the reference, `accepts`.

Two things are proved about the reference. It treats identifiers alike: what becomes of the
identifier of a record depends on the identifier alone (`RespectsIds`). And it does not matter
whether a record is projected before it is expanded or afterwards, as long as the properties to
expand are kept (`Commutes`).
-/

namespace ODataService.Expand

/-- The rows of each type. -/
abbrev Tables := Json → Except Failure (List Record)

/-- How a text is resolved in a record of a type. -/
abbrev Expander := Json → String → Record → Except Failure Record

/-! ## The reference -/

/-- Whether a key is the identifier of a record. -/
def hasKey (k : Scalar) (r : Record) : Bool :=
  match key? (Json.member r Query.idField) with
  | some id => id.sameKey k
  | none => false

/-- Of the rows that have the key and satisfy the filter, the last in the order asked for. -/
def lookUp? (q : Query) (k : Scalar) (rows : List Record) : Option Record :=
  (Query.order q.orderBy rows).reverse.find? fun r => hasKey k r && Filter.admits q.filter r

/-- A row with what is nested in an entry. -/
def expandNested (deeper : Expander) (target : Json) (e : Entry) (row : Record) :
    Except Failure Record :=
  match e.nested? with
  | none => .ok row
  | some text => deeper target text row

/-- The record with a row in the place of the key in a property, if there is a row. -/
def putRow (property : String) (r : Record) : Option Record → Record
  | some row => Keyed.set r property (.obj row)
  | none => r

section

variable (registry : Registry) (tables : Tables) (accepts : Scalar → Record → Bool)

/-- The row that takes the place of a key. -/
def replacement? (levels : Nat) (deeper : Expander) (target : Json) (e : Entry) (k : Scalar) :
    Except Failure (Option Record) := do
  let keep ← (nestedProperties levels e.nested?).mapError .rejected
  let q ← (Query.ofParams true e.options).mapError .rejected
  let rows ← tables target
  match lookUp? q k rows with
  | none => return none
  | some row =>
    let fields := Query.includeFields q.fields (Query.idField :: keep)
    (expandNested deeper target e row).map fun row =>
      if accepts k row then some (Query.project fields row) else none

/-- Resolves a relationship in a record. -/
def expandProperty (levels : Nat) (deeper : Expander) (target : Json) (e : Entry) (r : Record) :
    Except Failure Record :=
  match key? (Json.member r e.property) with
  | none => .ok r
  | some k => (replacement? tables accepts levels deeper target e k).map (putRow e.property r)

/-- Resolves an entry in a record. -/
def expandEntry (levels : Nat) (deeper : Expander) (type : ObjectType) (r : Record) (e : Entry) :
    Except Failure Record :=
  match Assoc.get? type.fields e.property with
  | none => .ok r
  | some f =>
    if f.isRelationship then expandProperty tables accepts levels deeper f.reference e r else .ok r

/-- The entries of a text and the type whose fields they name; none if there is nothing to
resolve. -/
def readEntries (entitySet : Json) (text : String) :
    Except Failure (Option (List Entry × ObjectType)) :=
  if text = "" then .ok none
  else do
    let es ← (parse text).mapError .rejected
    let type? ← (registry.resolve? entitySet).mapError .value
    return type?.map fun type => (es, type)

/-- Resolves an `$expand` text in a record of a type. -/
def expandRecord : (levels : Nat) → Expander
  | 0, _, _, r => .ok r
  | levels + 1, entitySet, text, r => do
    match ← readEntries registry entitySet text with
    | none => return r
    | some (es, type) => es.foldlM (expandEntry tables accepts levels (expandRecord levels) type) r

end

variable {registry : Registry} {tables : Tables} {accepts : Scalar → Record → Bool}
  {levels : Nat} {deeper : Expander} {target : Json} {type : ObjectType} {e : Entry}

/-! ## Entries at all levels -/

/-- All entries of a text and of the texts nested in it, on the levels that are resolved, have a
property. -/
def Everywhere (P : Entry → Prop) : (levels : Nat) → String → Prop
  | 0, _ => True
  | levels + 1, text => ∀ es, parse text = .ok es → ∀ e ∈ es,
      P e ∧ ∀ nested, e.nested? = some nested → Everywhere P levels nested

/-- A condition on all entries is one on those of the text and on those nested in them. -/
theorem everywhere_succ {P : Entry → Prop} {text : String} {es : List Entry}
    (hparse : parse text = .ok es) : Everywhere P (levels + 1) text ↔
      ∀ e ∈ es, P e ∧ ∀ nested, e.nested? = some nested → Everywhere P levels nested := by
  rw [Everywhere, hparse]
  exact ⟨fun h => h es rfl, fun h es' hes' => Except.ok.inj hes' ▸ h⟩

/-- The entries are read from the text, and the type is looked up in the registry. -/
theorem readEntries_eq_some {entitySet : Json} {text : String} {es : List Entry}
    (h : readEntries registry entitySet text = .ok (some (es, type))) :
    parse text = .ok es ∧ registry.resolve? entitySet = .ok (some type) := by
  unfold readEntries at h
  split at h
  · exact absurd (Except.ok.inj h) (by simp)
  · obtain ⟨es', hes, h⟩ := bind_eq_ok.1 h
    obtain ⟨type?, htype, h⟩ := bind_eq_ok.1 h
    obtain ⟨type', rfl, hpair⟩ := Option.map_eq_some_iff.1 (Except.ok.inj h)
    cases hpair
    exact ⟨mapError_eq_ok.1 hes, mapError_eq_ok.1 htype⟩

/-- Resolving a text goes by what is read of it, the same for all records. -/
theorem expandRecord_succ (levels : Nat) (entitySet : Json) (text : String) :
    expandRecord registry tables accepts (levels + 1) entitySet text =
      match readEntries registry entitySet text with
      | .error f => fun _ => .error f
      | .ok none => .ok
      | .ok (some (es, type)) => fun r => es.foldlM
          (expandEntry tables accepts levels (expandRecord registry tables accepts levels) type)
          r := by
  funext r
  rw [expandRecord]
  rcases readEntries registry entitySet text with f | _ | ⟨es, type⟩ <;> rfl

/-! ## Identifiers -/

/-- What a record is found under. -/
def identity? (r : Record) : Option Identity :=
  (key? (Json.member r Query.idField)).map Scalar.identity

/-- A row has a key when it is identified by it. -/
theorem hasKey_iff {k : Scalar} {r : Record} :
    hasKey k r = true ↔ identity? r = some k.identity := by
  unfold hasKey identity?
  cases key? (Json.member r Query.idField) with
  | none => simp
  | some id => simp [Scalar.sameKey_iff]

/-- Which keys a row has depends on its identifier only. -/
theorem hasKey_congr {r r' : Record} (h : identity? r = identity? r') (k : Scalar) :
    hasKey k r = hasKey k r' := by
  rw [Bool.eq_iff_iff, hasKey_iff, hasKey_iff, h]

/-- Keys of one identity belong to the same rows. -/
theorem hasKey_of_identity_eq {k k' : Scalar} (h : k.identity = k'.identity) :
    hasKey k = hasKey k' := by
  funext r
  rw [Bool.eq_iff_iff, hasKey_iff, hasKey_iff, h]

/-- A property that is not the identifier changes no identity. -/
theorem identity?_set_of_ne {p : String} (h : p ≠ Query.idField) (r : Record) (v : Json) :
    identity? (Keyed.set r p v) = identity? r := by
  have hother : Scalar.sameKey p Query.idField = false := by
    rw [Bool.eq_false_iff, Ne, Scalar.sameKey_str_iff]
    exact h
  rw [identity?, identity?, Json.member, Keyed.get?_set_of_not_sameKey r v hother, Json.member]

/-- A record in the place of the identifier leaves a row without identity. -/
theorem identity?_set_obj (r row : Record) :
    identity? (Keyed.set r Query.idField (.obj row)) = none := by
  rw [identity?, Json.member, Keyed.get?_set_of_sameKey r _ (Scalar.sameKey_str_iff.2 rfl)]
  rfl

/-- What becomes of the identifier of a record depends on the identifier alone: it stays, or it is
gone. -/
structure RespectsIds (f : Record → Except Failure Record) : Prop where
  stays_or_goes : ∀ {r d}, f r = .ok d → identity? d = identity? r ∨ identity? d = none
  alike : ∀ {r r' d d'}, f r = .ok d → f r' = .ok d' → identity? r = identity? r' →
    identity? d = identity? d'

/-- A step that respects identifiers gives no record a key. -/
theorem RespectsIds.hasKey_of_hasKey {f : Record → Except Failure Record} (hf : RespectsIds f)
    {r d : Record} (hd : f r = .ok d) {k : Scalar} (h : hasKey k d = true) :
    hasKey k r = true := by
  rw [hasKey_iff] at h ⊢
  rcases hf.stays_or_goes hd with hid | hid
  · rw [← hid, h]
  · rw [hid] at h
    exact absurd h (by simp)

/-- Of records with one key, a step that respects identifiers takes it from all or from none. -/
theorem RespectsIds.hasKey_congr {f : Record → Except Failure Record} (hf : RespectsIds f)
    {r r' d d' : Record} (hd : f r = .ok d) (hd' : f r' = .ok d') {k : Scalar}
    (hr : hasKey k r = true) (hr' : hasKey k r' = true) : hasKey k d = hasKey k d' := by
  rw [hasKey_iff] at hr hr'
  exact Expand.hasKey_congr (hf.alike hd hd' (hr.trans hr'.symm)) k

/-- The identifiers of all records stay. -/
def KeepsIds (f : Record → Except Failure Record) : Prop :=
  ∀ r d, f r = .ok d → identity? d = identity? r

/-- An expansion that keeps identifiers respects them. -/
theorem KeepsIds.respectsIds {f : Record → Except Failure Record} (h : KeepsIds f) :
    RespectsIds f where
  stays_or_goes hd := .inl (h _ _ hd)
  alike hd hd' hids := (h _ _ hd).trans (hids.trans (h _ _ hd').symm)

theorem keepsIds_ok : KeepsIds .ok := fun _ _ hd => congrArg identity? (Except.ok.inj hd).symm

/-- Steps that keep the identifiers do so in a row. -/
theorem KeepsIds.foldlM {f : Record → Entry → Except Failure Record} {es : List Entry}
    (h : ∀ e ∈ es, KeepsIds (f · e)) : KeepsIds fun r => es.foldlM f r := by
  induction es with
  | nil => exact keepsIds_ok
  | cons e es ih =>
    intro r d hd
    simp only [List.foldlM_cons] at hd
    obtain ⟨r', hr', hd⟩ := bind_eq_ok.1 hd
    exact (ih (fun e' he' => h e' (List.mem_cons_of_mem e he')) _ _ hd).trans
      (h e List.mem_cons_self _ _ hr')

/-- Steps that respect the identifiers do so in a row. -/
theorem RespectsIds.foldlM {f : Record → Entry → Except Failure Record} {es : List Entry}
    (h : ∀ e ∈ es, RespectsIds (f · e)) : RespectsIds fun r => es.foldlM f r := by
  induction es with
  | nil => exact keepsIds_ok.respectsIds
  | cons e es ih =>
    have hes := ih fun e' he' => h e' (List.mem_cons_of_mem e he')
    have he := h e List.mem_cons_self
    constructor
    · intro r d hd
      simp only [List.foldlM_cons] at hd
      obtain ⟨r', hr', hd⟩ := bind_eq_ok.1 hd
      -- an identifier that is gone behind the first step does not come back
      rcases hes.stays_or_goes hd with h' | h'
      · rw [h']
        exact he.stays_or_goes hr'
      · exact .inr h'
    · intro r₁ r₂ d₁ d₂ hd₁ hd₂ hids
      simp only [List.foldlM_cons] at hd₁ hd₂
      obtain ⟨r₁', hr₁, hd₁⟩ := bind_eq_ok.1 hd₁
      obtain ⟨r₂', hr₂, hd₂⟩ := bind_eq_ok.1 hd₂
      exact hes.alike hd₁ hd₂ (he.alike hr₁ hr₂ hids)

/-- Replacing a key that is not the identifier keeps the identifiers. -/
theorem keepsIds_expandProperty (h : e.property ≠ Query.idField) :
    KeepsIds (expandProperty tables accepts levels deeper target e) := by
  intro r d hd
  unfold expandProperty at hd
  split at hd
  · exact keepsIds_ok _ _ hd
  · obtain ⟨row?, -, rfl⟩ := map_eq_ok.1 hd
    cases row? with
    | none => rfl
    | some row => exact identity?_set_of_ne h r _

/-- Keys that mean the same are replaced by the same row. -/
theorem replacement?_congr {k k' : Scalar} (h : k.identity = k'.identity) :
    replacement? tables hasKey levels deeper target e k =
      replacement? tables hasKey levels deeper target e k' := by
  unfold replacement? lookUp?
  rw [hasKey_of_identity_eq h]

/-- Records with the same identifier hold no key in its place, or keys that mean the same. -/
theorem keys_of_identity_eq {r r' : Record} (h : identity? r = identity? r') :
    key? (Json.member r Query.idField) = none ∧ key? (Json.member r' Query.idField) = none ∨
      ∃ k k', key? (Json.member r Query.idField) = some k ∧
        key? (Json.member r' Query.idField) = some k' ∧ k.identity = k'.identity := by
  unfold identity? at h
  cases hr : key? (Json.member r Query.idField) with
  | none =>
    rw [hr] at h
    exact .inl ⟨rfl, Option.map_eq_none_iff.1 h.symm⟩
  | some k =>
    rw [hr] at h
    obtain ⟨k', hr', hkk'⟩ := Option.map_eq_some_iff.1 h.symm
    exact .inr ⟨k, k', rfl, hr', hkk'.symm⟩

/-- Replacing any key respects the identifiers. -/
theorem respectsIds_expandProperty :
    RespectsIds (expandProperty tables hasKey levels deeper target e) := by
  -- only in the place of the identifier itself an identity can be lost
  by_cases h : e.property = Query.idField
  · unfold expandProperty
    rw [h]
    constructor
    · intro r d hd
      split at hd
      · exact .inl (keepsIds_ok _ _ hd)
      · obtain ⟨row?, -, rfl⟩ := map_eq_ok.1 hd
        cases row? with
        | none => exact .inl rfl
        | some row => exact .inr (identity?_set_obj r row)
    · intro r r' d d' hd hd' hids
      rcases keys_of_identity_eq hids with ⟨hr, hr'⟩ | ⟨k, k', hr, hr', hkk'⟩ <;>
        rw [hr] at hd <;> rw [hr'] at hd'
      · rw [← Except.ok.inj hd, ← Except.ok.inj hd', hids]
      · -- both keys are replaced by the same row, or both stay
        obtain ⟨row?, hrow, rfl⟩ := map_eq_ok.1 hd
        obtain ⟨row?', hrow', rfl⟩ := map_eq_ok.1 hd'
        rw [replacement?_congr hkk', hrow', Except.ok.injEq] at hrow
        subst hrow
        cases row?' with
        | none => exact hids
        | some row => exact (identity?_set_obj r row).trans (identity?_set_obj r' row).symm
  · exact (keepsIds_expandProperty h).respectsIds

/-- An entry of the text respects the identifiers. -/
theorem respectsIds_expandEntry :
    RespectsIds (expandEntry tables hasKey levels deeper type · e) := by
  unfold expandEntry
  -- a property that is no relationship is left alone
  split
  · exact keepsIds_ok.respectsIds
  · split
    · exact respectsIds_expandProperty
    · exact keepsIds_ok.respectsIds

/-- The expansion of a record respects the identifiers. -/
theorem respectsIds_expandRecord (levels : Nat) (entitySet : Json) (text : String) :
    RespectsIds (expandRecord registry tables hasKey levels entitySet text) := by
  cases levels with
  | zero => exact keepsIds_ok.respectsIds
  | succ levels =>
    rw [expandRecord_succ]
    split
    · exact ⟨fun h => absurd h (by simp), fun h => absurd h (by simp)⟩
    · exact keepsIds_ok.respectsIds
    · exact .foldlM fun e _ => respectsIds_expandEntry

/-- The expansion of a related row respects the identifiers. -/
theorem respectsIds_expandNested :
    RespectsIds (expandNested (expandRecord registry tables hasKey levels) target e) := by
  unfold expandNested
  split
  · exact keepsIds_ok.respectsIds
  · exact respectsIds_expandRecord levels target _

/-- The entry resolves no identifier: it names another property, or no type has a relationship
there. -/
def Entry.SparesIds (registry : Registry) (e : Entry) : Prop :=
  e.property = Query.idField → ∀ name type f, registry.resolve? name = .ok (some type) →
    Assoc.get? type.fields Query.idField = some f → f.isRelationship = false

/-- Where no entry replaces an identifier the expansion keeps all of them. -/
theorem keepsIds_expandRecord {entitySet : Json} {text : String}
    (h : Everywhere (Entry.SparesIds registry) levels text) :
    KeepsIds (expandRecord registry tables accepts levels entitySet text) := by
  cases levels with
  | zero => exact keepsIds_ok
  | succ levels =>
    rw [expandRecord_succ]
    split
    · exact fun _ _ hd => absurd hd (by simp)
    · exact keepsIds_ok
    · next es type hread =>
      obtain ⟨hparse, htype⟩ := readEntries_eq_some hread
      refine .foldlM fun e he => ?_
      have hspares := (h es hparse e he).1
      unfold expandEntry
      split
      · exact keepsIds_ok
      · next f hf =>
        split
        · next hrel =>
          -- the identifier is no relationship here, so this is another property
          refine keepsIds_expandProperty fun hid => ?_
          rw [hid] at hf
          rw [hspares hid _ type f htype hf] at hrel
          exact absurd hrel (by simp)
        · exact keepsIds_ok

/-! ## Rows that are found again -/

/-- No identifier is resolved in the rows that are embedded. -/
def IdsStay (registry : Registry) : (levels : Nat) → String → Prop
  | 0, _ => True
  | levels + 1, text => ∀ es, parse text = .ok es → ∀ e ∈ es,
      ∀ nested, e.nested? = some nested → Everywhere (Entry.SparesIds registry) levels nested

/-- Where no entry replaces an identifier the nested expansions keep them. -/
theorem IdsStay.of_everywhere {text : String}
    (h : Everywhere (Entry.SparesIds registry) levels text) : IdsStay registry levels text := by
  cases levels with
  | zero => trivial
  | succ levels => exact fun es hparse e he => (h es hparse e he).2

/-- Every row, once it is found. -/
def anyRow : Scalar → Record → Bool := fun _ _ => true

/-- A row that keeps its identifier when it is expanded counts as found. -/
theorem replacement?_eq_anyRow {deeper' : Expander} {k : Scalar}
    (hsame : expandNested deeper target e = expandNested deeper' target e)
    (hkeeps : KeepsIds (expandNested deeper target e)) :
    replacement? tables hasKey levels deeper target e k =
      replacement? tables anyRow levels deeper' target e k := by
  unfold replacement?
  refine bind_congr fun keep => bind_congr fun q => bind_congr fun rows => ?_
  rw [← hsame]
  cases hfound : lookUp? q k rows with
  | none => rfl
  | some row =>
    have hrow : hasKey k row = true := by
      have := List.find?_some hfound
      simp only [Bool.and_eq_true] at this
      exact this.1
    dsimp only
    cases hdone : expandNested deeper target e row with
    | error f => rfl
    | ok done =>
      -- the row was found by its key, and it has that key still
      have hstill : hasKey k done = true := by rw [hasKey_congr (hkeeps row done hdone), hrow]
      simp only [Except.map, hstill, anyRow]

/-- Where no identifier is resolved in embedded rows, all rows that are found are embedded. -/
theorem expandRecord_eq_anyRow {entitySet : Json} {text : String}
    (h : IdsStay registry levels text) :
    expandRecord registry tables hasKey levels entitySet text =
      expandRecord registry tables anyRow levels entitySet text := by
  -- by induction on the levels; what is nested may rely on the identifiers of its rows
  induction levels generalizing entitySet text with
  | zero => rfl
  | succ levels ih =>
    rw [expandRecord_succ, expandRecord_succ]
    split
    · rfl
    · rfl
    · next es type hread =>
      funext r
      refine foldlM_congr (fun r e he => ?_) r
      have hspares := h es (readEntries_eq_some hread).1 e he
      have hsame (target : Json) :
          expandNested (expandRecord registry tables hasKey levels) target e =
            expandNested (expandRecord registry tables anyRow levels) target e := by
        unfold expandNested
        split
        · rfl
        · next text htext => exact ih (.of_everywhere (hspares text htext))
      have hkeeps (target : Json) :
          KeepsIds (expandNested (expandRecord registry tables hasKey levels) target e) := by
        unfold expandNested
        split
        · exact keepsIds_ok
        · next text htext => exact keepsIds_expandRecord (hspares text htext)
      simp only [expandEntry, expandProperty, replacement?_eq_anyRow (hsame _) (hkeeps _)]

/-! ## Projections -/

/-- It does not matter whether a record is projected before the step or afterwards. -/
def Commutes (fields : Option (List String)) (f : Record → Except Failure Record) : Prop :=
  ∀ r, f (Query.project fields r) = (f r).map (Query.project fields)

variable {fields : Option (List String)}

theorem commutes_ok : Commutes fields .ok := fun _ => rfl

/-- Steps that commute with a selection do so in a row. -/
theorem Commutes.foldlM {f : Record → Entry → Except Failure Record} {es : List Entry}
    (h : ∀ e ∈ es, Commutes fields (f · e)) : Commutes fields fun r => es.foldlM f r := by
  induction es with
  | nil => exact commutes_ok
  | cons e es ih =>
    intro r
    have hes := ih fun e' he' => h e' (List.mem_cons_of_mem e he')
    simp only [List.foldlM_cons, h e List.mem_cons_self r]
    cases f r e with
    | error f => rfl
    | ok r' => exact hes r'

/-- Replacing a property that is kept commutes with the selection. -/
theorem commutes_expandProperty (h : Query.Keeps fields e.property) :
    Commutes fields (expandProperty tables accepts levels deeper target e) := by
  intro r
  unfold expandProperty
  -- the key is read from a property that the selection keeps
  rw [Query.member_project h]
  split
  · rfl
  · next k _ =>
    rcases replacement? tables accepts levels deeper target e k with f | _ | row
    · rfl
    · rfl
    · exact congrArg Except.ok (Query.project_set h r _).symm

/-- An entry whose property is kept commutes with the selection. -/
theorem commutes_expandEntry (h : Query.Keeps fields e.property) :
    Commutes fields (expandEntry tables accepts levels deeper type · e) := by
  unfold expandEntry
  split
  · exact commutes_ok
  · split
    · exact commutes_expandProperty h
    · exact commutes_ok

/-- A projection that keeps the properties that are nested in an entry can be made before them. -/
theorem commutes_expandNested {keep : List String}
    (hkeep : nestedProperties levels e.nested? = .ok keep)
    (hfields : ∀ p ∈ keep, Query.Keeps fields p) :
    Commutes fields (expandNested (expandRecord registry tables accepts levels) target e) := by
  unfold expandNested
  split
  · exact commutes_ok
  · next text htext =>
    -- without levels nothing is expanded; else the properties to keep are those of the entries
    cases levels with
    | zero => exact commutes_ok
    | succ levels =>
      rw [expandRecord_succ]
      split
      · exact fun _ => rfl
      · exact commutes_ok
      · next es type hread =>
        rw [htext, nestedProperties, (readEntries_eq_some hread).1] at hkeep
        obtain rfl := Except.ok.inj hkeep
        exact .foldlM fun e he => commutes_expandEntry (hfields _ (List.mem_map_of_mem he))

end ODataService.Expand
