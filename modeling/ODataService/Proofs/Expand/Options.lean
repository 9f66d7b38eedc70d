import ODataService.Expand.Resolution
import ODataService.Proofs.Assoc
import ODataService.Proofs.Bind
import ODataService.Proofs.Query.Order

/-!
# The query for related records

What `Expand.relatedQuery` asks for under the options of an entry that was read. Without `$top` and
`$skip` it asks for the rows with one of the keys that satisfy the filter, in the order of all rows
(`relatedRows`, `run_relatedQuery`).
-/

namespace ODataService

namespace Filter

/-- A filter and perhaps another admit what both admit. -/
theorem admits_all_pair (f : Filter) (g : Option Filter) (r : Record) :
    admits (all [some f, g]) r = (holds f r && admits g r) := by
  cases g with
  | none => simp [all, admits]
  | some g => simp [all, admits, holds, allHold]

end Filter

namespace Expand

/-! ## Options that were read -/

/-- An option that is read has a supported name. -/
theorem mem_supportedOptions {property part : String} {pair : String × String}
    (h : parseOption property part = .ok pair) : pair.1 ∈ supportedOptions := by
  -- a part without `=` is refused, and so is a name that is not supported
  unfold parseOption at h
  split at h
  · dsimp only at h
    split at h
    · next hname =>
      obtain rfl := Except.ok.inj h
      simpa using hname
    · exact absurd h (by simp)
  · exact absurd h (by simp)

/-- The options that are read have no value under another name. -/
theorem get?_parseOptions {raw property name : String} {options : Assoc String}
    (h : parseOptions raw property = .ok options) (hname : name ∉ supportedOptions) :
    Assoc.get? options name = none := by
  obtain ⟨parts, -, h⟩ := bind_eq_ok.1 h
  obtain ⟨pairs, hpairs, h⟩ := bind_eq_ok.1 h
  obtain rfl := Except.ok.inj h
  -- a value would come from a part, whose name is supported
  refine Assoc.get?_ofPairs_of_notMem fun hmem => hname ?_
  obtain ⟨pair, hpair, rfl⟩ := List.mem_map.1 hmem
  obtain ⟨part, -, hpart⟩ := exists_of_mapM_eq_ok hpairs hpair
  exact mem_supportedOptions hpart

/-- The options of an entry are supported ones. -/
theorem get?_options_of_unsupported {raw name : String} {es : List Entry} (h : parse raw = .ok es)
    {e : Entry} (he : e ∈ es) (hname : name ∉ supportedOptions) :
    Assoc.get? e.options name = none := by
  obtain ⟨parts, -, h⟩ := bind_eq_ok.1 (mapError_eq_ok.1 h)
  obtain ⟨part, -, hpart⟩ := exists_of_mapM_eq_ok h he
  -- a bare property has no options, the others are those read from the parentheses
  unfold parseEntry at hpart
  split at hpart
  · obtain rfl := Except.ok.inj hpart
    rfl
  · unfold parseWithOptions at hpart
    split at hpart
    · obtain ⟨options, hoptions, hpart⟩ := bind_eq_ok.1 hpart
      dsimp only at hpart
      split at hpart
      · exact absurd hpart (by simp [throw, throwThe, MonadExceptOf.throw, bind, Except.bind])
      · obtain rfl := Except.ok.inj hpart
        exact get?_parseOptions hoptions hname
    · exact absurd hpart (by simp)

/-- The entry asks for no page of the related records. -/
def Entry.Unpaged (e : Entry) : Prop :=
  Assoc.get? e.options "$top" = none ∧ Assoc.get? e.options "$skip" = none

/-! ## The query -/

/-- The query asks for all records that satisfy its filter. -/
def IsUnpaged (q : Query) : Prop := q.limit = none ∧ q.offset = none ∧ q.search = none

/-- The options of an entry without pages give a query without pages. -/
theorem isUnpaged_of_options {e : Entry} (he : e.Unpaged)
    (hsearch : Assoc.get? e.options "$search" = none) {q : Query}
    (h : Query.ofParams true e.options = .ok q) : IsUnpaged q := by
  obtain ⟨o, ho, h⟩ := bind_eq_ok.1 h
  obtain ⟨filter, -, h⟩ := bind_eq_ok.1 h
  obtain ⟨orderBy, -, h⟩ := bind_eq_ok.1 h
  obtain ⟨fields, -, h⟩ := bind_eq_ok.1 h
  obtain rfl := Except.ok.inj h
  unfold SystemOptions.parse at ho
  split at ho
  · exact absurd ho (by simp)
  · obtain rfl := Except.ok.inj ho
    -- no page size, no offset and no search term
    refine ⟨?_, ?_, ?_⟩
    · simp [SystemOptions.pageSize?, he.1]
    · simp [SystemOptions.pageSize?, he.2]
    · simp [Query.searchTerm, Query.nonEmpty?, hsearch]

/-- The query for the related records: that of the options, its filter narrowed to the keys and its
fields widened. -/
theorem relatedQuery_eq_ok {keys : List Scalar} {options : Assoc String} {keep : List String}
    {q' : Query} : relatedQuery keys options keep = .ok q' ↔
      ∃ q, Query.ofParams true options = .ok q ∧
        q' = { q with
          filter := Filter.all [some (.oneOf Query.idField keys), q.filter]
          fields := Query.includeFields q.fields (Query.idField :: keep) } := by
  rw [relatedQuery, bind_eq_ok]
  exact exists_congr fun q => and_congr_right fun _ =>
    ⟨fun h => (Except.ok.inj h).symm, fun h => congrArg Except.ok h.symm⟩

/-- Without a page, the answer consists of all rows that satisfy the filter, in the order of all
rows. -/
theorem run_unpaged {q : Query} (hq : IsUnpaged q) {rows : List Record}
    (hrows : ∀ k ∈ q.orderBy, Query.AllSettled k rows) :
    q.run rows = ((Query.order q.orderBy rows).filter (Filter.admits q.filter)).map
      (Query.project q.fields) := by
  obtain ⟨hlimit, hoffset, hsearch⟩ := hq
  have hselects : q.selects = Filter.admits q.filter := by
    funext r
    simp [Query.selects, hsearch, Query.matchesSearch]
  simp [Query.run, hselects, Query.page, hlimit, hoffset, Query.order_filter hrows]

/-- The rows that have one of the keys and satisfy the filter, ordered and projected. -/
def relatedRows (q : Query) (keys : List Scalar) (fields : Option (List String))
    (rows : List Record) : List Record :=
  ((Query.order q.orderBy rows).filter fun r =>
    Filter.isOneOf (Json.member r Query.idField) keys && Filter.admits q.filter r).map
      (Query.project fields)

/-- What is found for the keys, without a page. -/
theorem run_relatedQuery {q : Query} (hq : IsUnpaged q) (keys : List Scalar)
    (fields : Option (List String)) {rows : List Record}
    (hrows : ∀ k ∈ q.orderBy, Query.AllSettled k rows) :
    Query.run { q with
        filter := Filter.all [some (.oneOf Query.idField keys), q.filter]
        fields := fields } rows = relatedRows q keys fields rows := by
  -- the joined filter admits what is one of the keys and passes the filter of the options
  have hadmits : Filter.admits (Filter.all [some (.oneOf Query.idField keys), q.filter]) =
      fun r => Filter.isOneOf (Json.member r Query.idField) keys && Filter.admits q.filter r :=
    funext fun r => Filter.admits_all_pair _ _ r
  rw [relatedRows, ← hadmits]
  exact @run_unpaged { q with
    filter := Filter.all [some (.oneOf Query.idField keys), q.filter], fields := fields } hq _ hrows

end Expand

end ODataService
