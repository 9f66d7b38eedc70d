import Mathlib.Data.List.Basic
import Mathlib.Data.Option.Basic
import ODataService.Proofs.Filter.Wire
import ODataService.Proofs.Keyed
import ODataService.Query.Values

/-!
# The wire form of a query

A remote record store is sent the wire form of a query and nothing else, so the wire form has to
tell which records are asked for. It leaves out an empty list of keys, an empty projection and an
empty search term, and it writes `contains` and `substringof` alike; each of these asks for nothing
that its absence, or the other function, does not ask for. `Query.normal` is the query without them:
the wire form tells it (`toWire_eq_iff`), and it has the same answers (`answer_normal`).
-/

namespace ODataService

/-- The two directions are written differently. -/
theorem SortKey.direction_inj {k l : SortKey} :
    k.direction = l.direction ↔ k.descending = l.descending := by
  obtain ⟨_, _ | _⟩ := k <;> obtain ⟨_, _ | _⟩ := l <;> simp [direction]

namespace Query

/-! ## The members of the wire form -/

/-- A sort key is read from its text. -/
theorem wireKey_inj {k l : SortKey} (h : wireKey k = wireKey l) : k = l := by
  simp only [wireKey, Json.obj.injEq, List.cons.injEq, Prod.mk.injEq, Json.str.injEq, true_and,
    and_true, SortKey.direction_inj] at h
  obtain ⟨_, _⟩ := k
  obtain ⟨_, _⟩ := l
  simpa using h

theorem wireNat_inj {m n : Nat} (h : wireNat m = wireNat n) : m = n :=
  Int.ofNat_inj.1 (Json.int.inj h)

theorem presentList_getD {α : Type} (xs : List α) : (presentList xs).getD [] = xs := by
  cases xs <;> rfl

/-- Not sending empty lists twice is not sending them once. -/
theorem bind_presentList {α : Type} (o : Option (List α)) :
    (o.bind presentList).bind presentList = o.bind presentList := by
  match o with
  | none | some [] | some (_ :: _) => rfl

section members

variable {α : Type} {name key : String} {encode : α → Json} (o : Option α)

/-- A member that is sent is found under its name. -/
theorem get?_wireMember : Keyed.get? (wireMember name encode o) (.str name) = o.map encode := by
  cases o with
  | none => rfl
  | some v =>
    rw [wireMember, Keyed.get?, if_pos (Scalar.sameKey_str_right_iff.2 rfl), Option.map_some]

/-- A member is found under no other name. -/
theorem get?_wireMember_of_ne (h : name ≠ key) :
    Keyed.get? (wireMember name encode o) (.str key) = none := by
  refine Keyed.get?_eq_none fun e he => ?_
  obtain ⟨v, -, rfl⟩ : ∃ v, o = some v ∧ e = (.str name, encode v) := by
    cases o <;> simp_all [wireMember]
  rw [Bool.eq_false_iff, Ne, Scalar.sameKey_str_right_iff, Scalar.str.injEq]
  exact h

end members

/-! ## One query for each wire form -/

/-- The query without what its wire form leaves out. -/
def normal (q : Query) : Query :=
  { q with
    filter := q.filter.map Filter.normal
    fields := q.fields.bind presentList
    search := q.search.filter (· != "") }

/-- Queries of one normal form are sent alike. -/
theorem toWire_normal (q : Query) : q.normal.toWire = q.toWire := by
  -- the normal form changes the filter and the search, and neither is sent otherwise
  have hfilter : wireMember "where" Filter.toWhere (q.filter.map Filter.normal) =
      wireMember "where" Filter.toWhere q.filter := by
    cases hq : q.filter with
    | none => rfl
    | some f => rw [Option.map_some, wireMember, wireMember, f.toWhere_normal]
  have hsearch : (q.search.filter (· != "")).filter (· != "") = q.search.filter (· != "") := by
    rw [Option.filter_filter]
    simp only [Bool.and_self]
  rw [toWire, toWire, normal, hfilter, bind_presentList, hsearch]

/-- Each member that asks for something stands under a name of its own, where it can be read. -/
theorem normal_eq_of_toWire_eq {q q' : Query} (h : q.toWire = q'.toWire) :
    q.normal = q'.normal := by
  -- queries that are sent alike have the same members, name by name
  have hget : ∀ key, Keyed.get? _ (.str key) = Keyed.get? _ (.str key) :=
    fun key => congrArg (Keyed.get? · (.str key)) (Json.obj.inj h)
  -- the members one by one
  have hwhere := hget "where"
  have horder := hget "orderBy"
  have hlimit := hget "limit"
  have hoffset := hget "offset"
  have hfields := hget "fields"
  have hsearch := hget "search"
  simp only [Keyed.get?_append, get?_wireMember, get?_wireMember_of_ne, ne_eq, not_false_eq_true,
    Option.or_none, Option.none_or, String.reduceEq]
    at hwhere horder hlimit hoffset hfields hsearch
  -- each member tells the part of the query it is made from, filters up to their normal form
  have hfilter : q.filter.map Filter.normal = q'.filter.map Filter.normal := by
    cases hq : q.filter <;> cases hq' : q'.filter <;>
      simp_all [Filter.toWhere_eq_iff]
  have hkeys : Function.Injective fun ks => Json.arr (List.map wireKey ks) :=
    fun _ _ hks => List.map_injective_iff.2 (fun _ _ => wireKey_inj) (Json.arr.inj hks)
  have hnames : Function.Injective fun fs => Json.arr (List.map Json.str fs) :=
    fun _ _ hfs => List.map_injective_iff.2 (fun _ _ => Json.str.inj) (Json.arr.inj hfs)
  have hfields' := Option.map_injective hnames hfields
  have hsearch' := Option.map_injective (fun _ _ => Json.str.inj) hsearch
  have hlimit' := Option.map_injective (fun _ _ => wireNat_inj) hlimit
  have hoffset' := Option.map_injective (fun _ _ => wireNat_inj) hoffset
  have horder' := congrArg (Option.getD · []) (Option.map_injective hkeys horder)
  rw [presentList_getD, presentList_getD] at horder'
  rw [normal, normal, hfilter, horder', hlimit', hoffset', hfields', hsearch']

/-- Two queries have the same wire form when they are the same up to what it leaves out. -/
theorem toWire_eq_iff {q q' : Query} : q.toWire = q'.toWire ↔ q.normal = q'.normal := by
  constructor
  · exact normal_eq_of_toWire_eq
  · intro h
    rw [← toWire_normal q, h, toWire_normal q']

/-! ## The same answers -/

/-- A filter admits the same records in normal form. -/
theorem admits_normal (f : Option Filter) (r : Record) :
    Filter.admits (f.map Filter.normal) r = Filter.admits f r := by
  cases f with
  | none => rfl
  | some f => exact f.holds_normal r

/-- An empty search term finds all records, as does none. -/
theorem matchesSearch_filter (term : Option String) (r : Record) :
    matchesSearch (term.filter (· != "")) r = matchesSearch term r := by
  match term with
  | none => rfl
  | some s =>
    -- the empty term matches everything, as no term does
    by_cases hs : s = ""
    · rw [hs]
      rfl
    · rw [Option.filter_some_pos (by simpa using hs)]

/-- An empty selection shows whole records, as does none. -/
theorem project_normal (fields : Option (List String)) (r : Record) :
    project (fields.bind presentList) r = project fields r := by
  match fields with
  | none | some [] | some (_ :: _) => rfl

/-- A query without what its wire form leaves out has the same answer. -/
theorem run_normal (q : Query) (rows : List Record) : q.normal.run rows = q.run rows := by
  -- selection and projection are the two places where the parts are used
  have hselects : selects q.normal = selects q := by
    funext r
    rw [selects, selects, normal, admits_normal, matchesSearch_filter]
  have hproject : project q.normal.fields = project q.fields := funext (project_normal q.fields)
  rw [run, run, hselects, hproject]
  rfl

/-- An empty selection takes whole rows, as does none. -/
theorem rowOf_normal (fields : Option (List String)) (v : Json) :
    rowOf (fields.bind presentList) v = rowOf fields v := by
  match fields with
  | none | some [] | some (_ :: _) => rfl

theorem readsProperties_normal (q : Query) : q.normal.readsProperties = q.readsProperties := by
  simp [readsProperties, normal]

/-- The same holds of the answer on values, and of what is wrong with them. -/
theorem answer_normal (q : Query) (vs : List Json) : q.normal.answer vs = q.answer vs := by
  have hrow : rowOf q.normal.fields = rowOf q.fields := funext (rowOf_normal q.fields)
  rw [answer, answer, readsProperties_normal, hrow]
  simp only [run_normal]
  rfl

/-- **A wire form has one meaning.** Queries that a remote record store cannot tell apart have the
same answer on all records, and on all values. The wire form of a filter tells the filter, but for
`contains` and `substringof`, whatever its fields are called. -/
theorem same_answers_of_toWire_eq {q q' : Query} (h : q.toWire = q'.toWire) :
    (∀ rows, q.run rows = q'.run rows) ∧ (∀ vs, q.answer vs = q'.answer vs) ∧
      ∀ f g : Filter, f.toWhere = g.toWhere ↔ f.normal = g.normal := by
  have hnormal := toWire_eq_iff.1 h
  refine ⟨fun rows => ?_, fun vs => ?_, fun f g => Filter.toWhere_eq_iff⟩
  · rw [← run_normal q, hnormal, run_normal q']
  · rw [← answer_normal q, hnormal, answer_normal q']

/-- Fields called like connectives, an empty projection, an empty search term and the two names of
one text function. -/
theorem same_answers_of_neutral_members :
    let asked : Query :=
      { filter := some (.logical .and
          [.not (.text .substringof "$not" "a"), .compare "$and" .eq (.int 1)])
        fields := some []
        search := some "" }
    let plain : Query :=
      { filter := some (.logical .and
          [.not (.text .contains "$not" "a"), .compare "$and" .eq (.int 1)]) }
    asked.toWire = plain.toWire ∧ (∀ rows, asked.run rows = plain.run rows) ∧
      (∀ vs, asked.answer vs = plain.answer vs) ∧
      ∀ f g : Filter, f.toWhere = g.toWhere ↔ f.normal = g.normal := by
  intro asked plain
  have hwire : asked.toWire = plain.toWire := rfl
  exact ⟨hwire, same_answers_of_toWire_eq hwire⟩

end Query

end ODataService
