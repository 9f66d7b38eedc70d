import Mathlib.Data.List.Permutation
import ODataService.Proofs.Query.Order

/-!
# What a query answers

The answer to a query, said without a way to sort (`Query.Answers`). The records that the query
selects are arranged by all keys at once: of two records the one that the first key to tell them
apart puts in front comes first, and records that no key tells apart stay as they stood
(`Query.Arranged`). Of the arranged records the page is taken, and each of its records is projected.

`Query.order` sorts by one key after the other, the least significant first. What carries the proof
is that a sort keeps whatever held between records that it does not tell apart
(`pairwise_mergeSort_of_pairwise`): each sort adds its key in front of those that are done.

Main results: `Query.run_eq_iff_answers`, and `Query.pages_run`, by which pages that are asked for
one by one make up the whole answer.
-/

namespace ODataService

section

variable {α : Type} {le : α → α → Bool} {R : α → α → Prop}

/-- A stable sort keeps what holds between elements in this order, unless it tells them apart. -/
theorem pairwise_mergeSort_of_pairwise
    (htrans : ∀ a b c, le a b = true → le b c = true → le a c = true)
    (htotal : ∀ a b, (le a b || le b a) = true) {l : List α} (h : l.Pairwise R) :
    (l.mergeSort le).Pairwise fun a b => le b a = true → R a b := by
  induction l with
  | nil => simp
  | cons a l ih =>
    obtain ⟨hfirst, hrest⟩ := List.pairwise_cons.1 h
    -- the sorted list is the sorted rest with the new element at one place
    obtain ⟨l₁, l₂, hcons, hl, hl₁⟩ := List.mergeSort_cons htrans htotal a l
    have hsorted := ih hrest
    rw [hl, List.pairwise_append] at hsorted
    obtain ⟨hfront, hbehind, hacross⟩ := hsorted
    have hmem : ∀ b ∈ l₂, b ∈ l := fun b hb =>
      List.mem_mergeSort.1 (hl ▸ List.mem_append_right l₁ hb)
    rw [hcons, List.pairwise_append, List.pairwise_cons]
    refine ⟨hfront, ⟨fun b hb _ => hfirst b (hmem b hb), hbehind⟩, fun b hb c hc => ?_⟩
    rcases List.mem_cons.1 hc with rfl | hc
    · -- what the sort puts in front of the new element is told apart from it
      intro hle
      exact absurd hle (by simpa using hl₁ b hb)
    -- the others keep their order
    · exact hacross b hb c hc

end

/-- The groups of values in the order in which they are sorted. -/
def Json.group : Json → Nat
  | .null => 0
  | .bool _ | .int _ | .real _ => 1
  | .str _ => 2
  | .arr _ | .obj _ => 3

namespace Query

/-! ## The order of values -/

/-- `Below v w`: the value `v` is sorted strictly in front of `w`. -/
inductive Below : Json → Json → Prop where
  | groups {v w : Json} (h : v.group < w.group) : Below v w
  /-- Booleans are the numbers 0 and 1. -/
  | numbers {a b : Scalar} {x y : Magnitude} (ha : a.magnitude? = some x)
      (hb : b.magnitude? = some y) (h : x.less y = true) : Below a.toJson b.toJson
  | texts {s t : String} (h : s < t) : Below (.str s) (.str t)
  | others {v w : Json} (hv : v.group = 3) (hw : w.group = 3) (h : v.display < w.display) :
      Below v w

theorem rank_sortPlace (v : Json) : (sortPlace v).rank = v.group := by
  cases v <;> rfl

/-- A number is sorted at its magnitude. -/
theorem sortPlace_of_magnitude? {a : Scalar} {x : Magnitude} (h : a.magnitude? = some x) :
    sortPlace a.toJson = .number (some x) := by
  cases a with
  | null => simp [Scalar.magnitude?] at h
  | str s => simp [Scalar.magnitude?] at h
  | bool b => exact congrArg SortPlace.number h
  | int n => exact congrArg SortPlace.number h
  | real y => exact congrArg SortPlace.number h

/-- What is sorted at a magnitude is a number. -/
theorem exists_scalar_of_sortPlace {v : Json} {x : Magnitude}
    (h : sortPlace v = .number (some x)) : ∃ a : Scalar, a.toJson = v ∧ a.magnitude? = some x := by
  cases v with
  | bool b => exact ⟨.bool b, rfl, SortPlace.number.inj h⟩
  | int n => exact ⟨.int n, rfl, SortPlace.number.inj h⟩
  | real y => exact ⟨.real y, rfl, SortPlace.number.inj h⟩
  | _ => simp [sortPlace] at h

/-- What is sorted as a text is a text. -/
theorem eq_str_of_sortPlace {v : Json} {s : String} (h : sortPlace v = .text s) : v = .str s := by
  cases v with
  | str t => exact congrArg Json.str (SortPlace.text.inj h)
  | _ => simp [sortPlace] at h

/-- Everything else is sorted by how it is shown. -/
theorem sortPlace_eq_other_iff {v : Json} {s : String} :
    sortPlace v = .other s ↔ v.group = 3 ∧ v.display = s := by
  cases v <;> simp [sortPlace, Json.group]

/-- Values are sorted by their places. -/
theorem before_iff_below {v w : Json} :
    (sortPlace v).before (sortPlace w) = true ↔ Below v w := by
  -- the reasons why a value is below another one are the cases of the comparison
  constructor
  · intro h
    unfold SortPlace.before at h
    split at h
    · next x y hv hw =>
      -- two numbers
      obtain ⟨a, rfl, ha⟩ := exists_scalar_of_sortPlace hv
      obtain ⟨b, rfl, hb⟩ := exists_scalar_of_sortPlace hw
      exact .numbers ha hb h
    · next s t hv hw =>
      -- two texts
      obtain rfl := eq_str_of_sortPlace hv
      obtain rfl := eq_str_of_sortPlace hw
      exact .texts (of_decide_eq_true h)
    · next s t hv hw =>
      -- two other values, compared as they are displayed
      obtain ⟨hgv, rfl⟩ := sortPlace_eq_other_iff.1 hv
      obtain ⟨hgw, rfl⟩ := sortPlace_eq_other_iff.1 hw
      exact .others hgv hgw (of_decide_eq_true h)
    · rw [decide_eq_true_iff, rank_sortPlace, rank_sortPlace] at h
      exact .groups h
  · intro h
    cases h with
    | groups h => exact SortPlace.before_of_rank_lt (by rwa [rank_sortPlace, rank_sortPlace])
    | numbers ha hb h =>
      rw [sortPlace_of_magnitude? ha, sortPlace_of_magnitude? hb]
      exact h
    | texts h => exact decide_eq_true h
    | others hv hw h =>
      rw [sortPlace_eq_other_iff.2 ⟨hv, rfl⟩, sortPlace_eq_other_iff.2 ⟨hw, rfl⟩]
      exact decide_eq_true h

/-- Of two values one is below. -/
theorem Below.asymm {v w : Json} (h : Below v w) : ¬Below w v := by
  rw [← before_iff_below] at *
  rw [SortPlace.before_asymm h]
  simp

/-- NaN is the only value without a place among the others. -/
theorem isSettled_sortPlace {v : Json} (h : v ≠ .real .nan) : (sortPlace v).IsSettled := by
  cases v with
  | real x =>
    -- of the real numbers only NaN has no place
    cases x with
    | nan => exact absurd rfl h
    | infinity negative => cases negative <;> simp [sortPlace, Scalar.magnitude?,
        Magnitude.ofBinary64?, SortPlace.IsSettled]
    | finite => simp [sortPlace, Scalar.magnitude?, Magnitude.ofBinary64?, SortPlace.IsSettled]
  | _ => simp [sortPlace, Scalar.magnitude?, SortPlace.IsSettled]

/-! ## The order of records -/

/-- A sort key puts a record strictly in front of another. -/
def Puts (k : SortKey) (r s : Record) : Prop :=
  if k.descending then Below (Json.member s k.field) (Json.member r k.field)
  else Below (Json.member r k.field) (Json.member s k.field)

/-- Sort keys put a record strictly in front of another: the first of them that tells the two apart
does. -/
def InFront : List SortKey → Record → Record → Prop
  | [], _, _ => False
  | k :: ks, r, s => Puts k r s ∨ ¬Puts k s r ∧ InFront ks r s

/-- A key puts one of two records in front. -/
theorem Puts.asymm {k : SortKey} {r s : Record} (h : Puts k r s) : ¬Puts k s r := by
  unfold Puts at *
  split at h
  · next hd =>
    rw [if_pos hd]
    exact h.asymm
  · next hd =>
    rw [if_neg hd]
    exact h.asymm

/-- The keys put one of two records in front. -/
theorem InFront.asymm {keys : List SortKey} {r s : Record} (h : InFront keys r s) :
    ¬InFront keys s r := by
  induction keys with
  | nil => exact h.elim
  | cons k ks ih =>
    -- by the first key that tells them apart
    rintro (hputs | ⟨hnot, hback⟩)
    · rcases h with h | ⟨hnot, -⟩
      · exact h.asymm hputs
      · exact hnot hputs
    · rcases h with h | ⟨-, h⟩
      · exact hnot h
      · exact ih h hback

/-- Where all records have a place, the order of a key is what it does not put the other way
round. -/
theorem inSettledOrder_iff {k : SortKey} {r s : Record} (hr : (placeOf k r).IsSettled)
    (hs : (placeOf k s).IsSettled) : inSettledOrder k r s = true ↔ ¬Puts k s r := by
  simp only [inSettledOrder, SortPlace.settled_eq hr, SortPlace.settled_eq hs]
  simp only [Puts, ← before_iff_below, placeOf]
  split <;> simp

/-! ## Arrangements -/

/-- A record with the place where it stood comes before another one: sort keys put it in front, or
they do not tell the two apart and it stood in front. -/
def Precedes (keys : List SortKey) (a b : Record × Nat) : Prop :=
  InFront keys a.1 b.1 ∨ ¬InFront keys b.1 a.1 ∧ a.2 < b.2

/-- `Arranged keys rows arranged`: the same records, in the order of all keys at once. -/
def Arranged (keys : List SortKey) (rows arranged : List Record) : Prop :=
  ∃ placed : List (Record × Nat), placed.Perm rows.zipIdx ∧ placed.Pairwise (Precedes keys) ∧
    placed.map Prod.fst = arranged

/-- Of two records with their places one precedes. -/
theorem Precedes.asymm {keys : List SortKey} {a b : Record × Nat} (h : Precedes keys a b) :
    ¬Precedes keys b a := by
  rintro (hback | ⟨hnot, hlt⟩)
  · rcases h with h | ⟨hnot, -⟩
    · exact h.asymm hback
    · exact hnot hback
  · rcases h with h | ⟨-, hlt'⟩
    · exact hnot h
    · omega

/-- There is one arrangement. -/
theorem Arranged.unique {keys : List SortKey} {rows arranged arranged' : List Record}
    (h : Arranged keys rows arranged) (h' : Arranged keys rows arranged') :
    arranged = arranged' := by
  obtain ⟨placed, hperm, hpairwise, rfl⟩ := h
  obtain ⟨placed', hperm', hpairwise', rfl⟩ := h'
  rw [List.Perm.eq_of_pairwise (fun a b _ _ hab hba => absurd hba hab.asymm) hpairwise hpairwise'
    (hperm.trans hperm'.symm)]

/-- Without keys the records precede each other by their places. -/
theorem pairwise_zipIdx (rows : List Record) : rows.zipIdx.Pairwise (Precedes []) := by
  have hplaces : (rows.zipIdx.map Prod.snd).Pairwise (· < ·) := by
    rw [List.zipIdx_map_snd]
    exact List.pairwise_lt_range'
  exact (List.pairwise_map.1 hplaces).imp fun hlt => .inr ⟨id, hlt⟩

/-- Sorting by one key after the other arranges records by all of them. -/
theorem arranged_order {keys : List SortKey} {rows : List Record}
    (h : ∀ k ∈ keys, AllSettled k rows) : Arranged keys rows (order keys rows) := by
  -- by induction on the keys: the last sort is by the first of them
  induction keys with
  | nil => exact ⟨rows.zipIdx, .refl _, pairwise_zipIdx rows, List.zipIdx_map_fst 0 rows⟩
  | cons k ks ih =>
    have hks : ∀ k' ∈ ks, AllSettled k' rows := fun k' hk' => h k' (List.mem_cons_of_mem k hk')
    have hk : AllSettled k rows := h k List.mem_cons_self
    -- the other keys have arranged the records already
    obtain ⟨placed, hperm, hpairwise, hplaced⟩ := ih hks
    -- the places go along with the records through the last sort
    let le (a b : Record × Nat) : Bool := inSettledOrder k a.1 b.1
    have htrans : ∀ a b c, le a b = true → le b c = true → le a c = true :=
      fun a b c => inSettledOrder_trans k a.1 b.1 c.1
    have htotal : ∀ a b, (le a b || le b a) = true := fun a b => inSettledOrder_total k a.1 b.1
    have hsettled : ∀ a ∈ placed.mergeSort le, (placeOf k a.1).IsSettled := by
      intro a ha
      have hmem : a ∈ rows.zipIdx := hperm.mem_iff.1 (List.mem_mergeSort.1 ha)
      exact hk _ (List.fst_mem_of_mem_zipIdx hmem)
    refine ⟨placed.mergeSort le, (List.mergeSort_perm placed le).trans hperm, ?_, ?_⟩
    · have hsorted := List.pairwise_mergeSort htrans htotal placed
      have hkept := pairwise_mergeSort_of_pairwise htrans htotal hpairwise
      refine (hsorted.and hkept).imp_of_mem fun {a b} ha hb hab => ?_
      have hnot : ¬Puts k b.1 a.1 := (inSettledOrder_iff (hsettled a ha) (hsettled b hb)).1 hab.1
      by_cases hputs : Puts k a.1 b.1
      · exact .inl (.inl hputs)
      · -- the new key does not tell the records apart, and the others have arranged them
        rcases hab.2 ((inSettledOrder_iff (hsettled b hb) (hsettled a ha)).2 hputs) with
          hfront | ⟨hback, hlt⟩
        · exact .inl (.inr ⟨hnot, hfront⟩)
        · exact .inr ⟨fun hfront => hfront.elim hnot fun hrest => hback hrest.2, hlt⟩
    · have hsettled' : AllSettled k (order ks rows) := fun r hr => hk r ((mem_order hks).1 hr)
      rw [order_cons, orderByKey_eq hsettled', ← hplaced]
      exact List.map_mergeSort fun a _ b _ => rfl

/-! ## Answers -/

/-- `Answers q rows out`: the records that the query selects are arranged, and the answer consists
of those from the offset on, up to the limit, projected. A query that names no properties asks for
whole records. -/
def Answers (q : Query) (rows out : List Record) : Prop :=
  ∃ arranged, Arranged q.orderBy (rows.filter q.selects) arranged ∧
    ∀ i, out[i]? = if q.limit.all (i < ·) then
      (arranged[q.offset.getD 0 + i]?).map (project q.fields) else none

/-- A query has one answer. -/
theorem Answers.unique {q : Query} {rows out out' : List Record} (h : Answers q rows out)
    (h' : Answers q rows out') : out = out' := by
  obtain ⟨arranged, harranged, hout⟩ := h
  obtain ⟨arranged', harranged', hout'⟩ := h'
  obtain rfl := harranged.unique harranged'
  exact List.ext_getElem? fun i => (hout i).trans (hout' i).symm

/-- A page is the rows from the offset on, up to the limit. -/
theorem getElem?_page {α : Type} (offset limit : Option Nat) (rows : List α) (i : Nat) :
    (page offset limit rows)[i]? =
      if limit.all (i < ·) then rows[offset.getD 0 + i]? else none := by
  cases limit with
  | none => simp [page]
  | some n => simp [page, List.getElem?_take]

/-- What a query gives is its answer. -/
theorem answers_run {q : Query} {rows : List Record}
    (h : ∀ k ∈ q.orderBy, AllSettled k (rows.filter q.selects)) : Answers q rows (q.run rows) := by
  refine ⟨_, arranged_order h, fun i => ?_⟩
  rw [run, List.getElem?_map, getElem?_page]
  split <;> rfl

/-- If no record that the query selects has NaN in a property that it orders by, the answer to the
query is the one that `Answers` describes. The projection has no part in which records are answered
and in what order. -/
theorem run_eq_iff_answers {q : Query} {rows out : List Record}
    (h : ∀ k ∈ q.orderBy, ∀ r ∈ rows.filter q.selects, Json.member r k.field ≠ .real .nan) :
    (q.run rows = out ↔ Answers q rows out) ∧
      q.run rows = (({ q with fields := none } : Query).run rows).map (project q.fields) := by
  have hanswers : Answers q rows (q.run rows) :=
    answers_run fun k hk r hr => isSettled_sortPlace (h k hk r hr)
  -- an answer is given, and no other one is
  refine ⟨⟨fun hout => hout ▸ hanswers, fun hout => hanswers.unique hout⟩, ?_⟩
  have hwhole : project none = id := rfl
  rw [run, run, hwhole, List.map_id]
  rfl

/-- A record with a rank and a name. -/
def item (id : String) (rank : Json) (name : String) : Record :=
  [(.str "_id", .str id), (.str "rank", rank), (.str "name", .str name)]

/-- Records with ranks of all kinds. The first, the third and the last are of one rank. -/
def items : List Record :=
  [item "1" (.real (.infinity false)) "b", item "2" .null "a",
    item "3" (.real (.infinity false)) "c", item "4" (.str "x") "a", item "5" (.arr []) "c",
    item "6" (.real (.infinity false)) "c"]

/-- All records by falling rank and, where that is the same, by rising name. -/
def byRank : Query := { orderBy := [⟨"rank", true⟩, ⟨"name", false⟩], fields := some ["name"] }

/-- By falling rank lists come before texts and texts before numbers, and items of one rank and name
stay as they stood. -/
theorem run_eq_iff_answers_items :
    let q : Query := { byRank with offset := some 1, limit := some 4 }
    (∀ k ∈ q.orderBy, ∀ r ∈ items.filter q.selects, Json.member r k.field ≠ .real .nan) ∧
      ∃ out, Answers q items out ∧ out.map (fun r => (Json.member r "_id").scalar?) =
        [some (.str "4"), some (.str "1"), some (.str "3"), some (.str "6")] := by
  intro q
  -- every record has a place among the others
  have hplaces : ∀ k ∈ q.orderBy, ∀ r ∈ items.filter q.selects, placeOf k r ≠ .number none := by
    decide +kernel
  have hnan : ∀ k ∈ q.orderBy, ∀ r ∈ items.filter q.selects,
      Json.member r k.field ≠ .real .nan := by
    intro k hk r hr hnan
    exact hplaces k hk r hr (by rw [placeOf, hnan]; rfl)
  exact ⟨hnan, q.run items, (run_eq_iff_answers hnan).1.1 rfl, by cbv⟩

/-! ## Pages -/

/-- A page of the answer to a query that asks for none is the answer to the query with that page. -/
theorem run_page {q : Query} (hoffset : q.offset = none) (hlimit : q.limit = none)
    (rows : List Record) (offset limit : Nat) :
    ({ q with offset := some offset, limit := some limit } : Query).run rows =
      ((q.run rows).drop offset).take limit := by
  simp only [run, page, hoffset, hlimit, ← List.map_drop, ← List.map_take]
  rfl

/-- Consecutive stretches of one length make up the front of a list. -/
theorem flatMap_stretches {α : Type} (xs : List α) (length count : Nat) :
    (List.range count).flatMap (fun i => (xs.drop (i * length)).take length) =
      xs.take (count * length) := by
  induction count with
  | zero => simp
  | succ count ih =>
    rw [List.range_succ, List.flatMap_append, ih, List.flatMap_singleton, Nat.succ_mul,
      List.take_add]

/-- Pages of one length, asked for one by one until they reach the end, make up the whole answer. -/
theorem pages_run {q : Query} (hoffset : q.offset = none) (hlimit : q.limit = none)
    {rows : List Record} {length count : Nat} (h : (q.run rows).length ≤ count * length) :
    (List.range count).flatMap (fun i =>
      ({ q with offset := some (i * length), limit := some length } : Query).run rows) =
        q.run rows := by
  simp only [run_page hoffset hlimit, flatMap_stretches]
  exact List.take_of_length_le h

/-- Two pages of four make up the six items, although three of them are of one rank. -/
theorem pages_run_items :
    byRank.offset = none ∧ byRank.limit = none ∧ (byRank.run items).length ≤ 2 * 4 ∧
      (List.range 2).flatMap (fun i =>
        ({ byRank with offset := some (i * 4), limit := some 4 } : Query).run items) =
          byRank.run items := by
  have hlength : (byRank.run items).length ≤ 2 * 4 := by
    rw [show (byRank.run items).length = 6 by cbv]
    decide
  exact ⟨rfl, rfl, hlength, pages_run rfl rfl hlength⟩

end Query

end ODataService
