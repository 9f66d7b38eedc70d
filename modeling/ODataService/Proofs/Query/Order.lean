import ODataService.Query.Answer

/-!
# Ordering and filtering

Records are sorted stably, so that it does not matter whether they are filtered before they are
ordered or afterwards (`Query.order_filter`), as long as all of them have a place: NaN has none
among the numbers.
-/

namespace ODataService

/-! ## Stable sorting -/

section

variable {α : Type} {le : α → α → Bool}

/-- Where a list falls into elements that are not kept and elements that are. -/
theorem takeWhile_of_border {p : α → Bool} {front behind : List α}
    (hfront : ∀ b ∈ front, p b = true) (hbehind : ∀ b ∈ behind, p b = false) :
    (front ++ behind).takeWhile p = front := by
  rw [List.takeWhile_append_of_pos hfront]
  -- the run ends where the other part begins, or with the list
  cases behind with
  | nil => simp
  | cons b bs =>
    have hb := hbehind b List.mem_cons_self
    rw [List.takeWhile_cons_of_neg (by simp [hb]), List.append_nil]

variable (htrans : ∀ a b c, le a b = true → le b c = true → le a c = true)
  (htotal : ∀ a b, (le a b || le b a) = true)
include htrans htotal

/-- The first element of a list is sorted in front of the elements that it may stand in front of. -/
theorem mergeSort_cons_eq {a : α} {l front behind : List α} (h : l.mergeSort le = front ++ behind)
    (hfront : ∀ b ∈ front, le a b = false) (hbehind : ∀ b ∈ behind, le a b = true) :
    (a :: l).mergeSort le = front ++ a :: behind := by
  obtain ⟨l₁, l₂, hcons, hl, hl₁⟩ := List.mergeSort_cons htrans htotal a l
  have hl₂ : ∀ b ∈ l₂, le a b = true := by
    have hsorted := List.pairwise_mergeSort htrans htotal (a :: l)
    rw [hcons, List.pairwise_append] at hsorted
    exact (List.pairwise_cons.1 hsorted.2.1).1
  -- both ways to cut the sorted list cut it at the same border
  have hcut : l₁ ++ l₂ = front ++ behind := hl.symm.trans h
  have hsame : l₁ = front := by
    rw [← takeWhile_of_border (p := fun b => !le a b) hl₁ (by simpa using hl₂), hcut]
    exact takeWhile_of_border (by simpa using hfront) (by simpa using hbehind)
  subst hsame
  rw [hcons, List.append_cancel_left hcut]

/-- It does not matter whether a list is filtered before it is sorted or afterwards. -/
theorem mergeSort_filter (p : α → Bool) (l : List α) :
    (l.filter p).mergeSort le = (l.mergeSort le).filter p := by
  induction l with
  | nil => simp
  | cons a l ih =>
    -- the sort puts the first element in front of the first one that it does not follow
    obtain ⟨l₁, l₂, hcons, hl, hl₁⟩ := List.mergeSort_cons htrans htotal a l
    have hl₂ : ∀ b ∈ l₂, le a b = true := by
      have hsorted := List.pairwise_mergeSort htrans htotal (a :: l)
      rw [hcons, List.pairwise_append] at hsorted
      exact (List.pairwise_cons.1 hsorted.2.1).1
    rw [hl, List.filter_append] at ih
    rw [hcons, List.filter_append]
    by_cases hp : p a = true
    · rw [List.filter_cons_of_pos hp, List.filter_cons_of_pos hp]
      refine mergeSort_cons_eq htrans htotal ih (fun b hb => ?_) fun b hb => ?_
      · simpa using hl₁ b (List.mem_filter.1 hb).1
      · exact hl₂ b (List.mem_filter.1 hb).1
    · rw [List.filter_cons_of_neg hp, List.filter_cons_of_neg hp, ih]

end

/-! ## Places -/

/-- Of three numbers the one between tells the outer ones apart. -/
theorem Magnitude.less_or_less {x z : Magnitude} (h : x.less z = true) (y : Magnitude) :
    x.less y = true ∨ y.less z = true := by
  cases x <;> cases y <;> cases z <;> simp_all [Magnitude.less] <;> omega

/-- Of two numbers one is less. -/
theorem Magnitude.less_asymm {x y : Magnitude} (h : x.less y = true) : y.less x = false := by
  cases x <;> cases y <;> simp_all [Magnitude.less]
  omega

/-- Of three texts the one between tells the outer ones apart. -/
theorem text_lt_or_lt {s u : String} (h : s < u) (t : String) : s < t ∨ t < u := by
  by_cases hst : s < t
  · exact .inl hst
  · by_cases htu : t < u
    · exact .inr htu
    · have hus : u ≤ s := String.le_trans (String.not_lt.1 htu) (String.not_lt.1 hst)
      exact absurd h (String.not_lt.2 hus)

namespace Query

namespace SortPlace

/-- The place is no number without a place among the others. -/
def IsSettled (p : SortPlace) : Prop := p ≠ .number none

/-- Values of an earlier group come before. -/
theorem before_of_rank_lt {a b : SortPlace} (h : a.rank < b.rank) : a.before b = true := by
  unfold before
  split
  · simp [rank] at h
  · simp [rank] at h
  · simp [rank] at h
  · exact decide_eq_true h

/-- What comes before is of no later group. -/
theorem rank_le_of_before {a b : SortPlace} (h : a.before b = true) : a.rank ≤ b.rank := by
  unfold before at h
  split at h
  · exact Nat.le_refl _
  · exact Nat.le_refl _
  · exact Nat.le_refl _
  · exact Nat.le_of_lt (of_decide_eq_true h)

/-- Of two places one comes before. -/
theorem before_asymm {a b : SortPlace} (h : a.before b = true) : b.before a = false := by
  refine Bool.eq_false_iff.2 fun hba => ?_
  have hrank : a.rank = b.rank := Nat.le_antisymm (rank_le_of_before h) (rank_le_of_before hba)
  -- both are of one group, so that only four of the sixteen cases are left
  cases a <;> cases b <;> simp only [rank] at hrank <;> try omega
  case null => simp [before] at h
  case number x y =>
    cases x <;> cases y <;> simp_all [before, rank, Magnitude.less_asymm]
  case text s t =>
    simp only [before, decide_eq_true_eq] at h hba
    exact String.lt_asymm h hba
  case other s t =>
    simp only [before, decide_eq_true_eq] at h hba
    exact String.lt_asymm h hba

/-- Of two places, one in front of the other, every third one is behind the first or in front of the
second. -/
theorem before_or_before {a b c : SortPlace} (h : a.before c = true) (ha : a.IsSettled)
    (hb : b.IsSettled) (hc : c.IsSettled) : a.before b = true ∨ b.before c = true := by
  have hac := rank_le_of_before h
  by_cases hab : a.rank < b.rank
  · exact .inl (before_of_rank_lt hab)
  by_cases hbc : b.rank < c.rank
  · exact .inr (before_of_rank_lt hbc)
  -- all three are of one group
  have hrank : a.rank = b.rank ∧ b.rank = c.rank := by omega
  cases a <;> cases b <;> cases c <;> simp only [rank] at hrank <;> try omega
  case null => simp [before] at h
  case number x y z =>
    cases x <;> cases y <;> cases z <;> simp_all [IsSettled, before]
    exact Magnitude.less_or_less h _
  case text s t u =>
    simp only [before, decide_eq_true_eq] at h ⊢
    exact text_lt_or_lt h t
  case other s t u =>
    simp only [before, decide_eq_true_eq] at h ⊢
    exact text_lt_or_lt h t

/-- The place itself, or that of null for a number without a place. -/
def settled : SortPlace → SortPlace
  | number none => null
  | p => p

/-- A settled place is settled. -/
theorem isSettled_settled (p : SortPlace) : p.settled.IsSettled := by
  unfold settled
  split
  · simp [IsSettled]
  · next h => exact h

/-- A place that is settled stays. -/
theorem settled_eq {p : SortPlace} (h : p.IsSettled) : p.settled = p := by
  unfold settled
  split
  · exact absurd rfl h
  · rfl

end SortPlace

/-- All records have a place under a sort key: none of them has NaN there. -/
def AllSettled (k : SortKey) (rows : List Record) : Prop :=
  ∀ r ∈ rows, (placeOf k r).IsSettled

/-- `Query.inOrder`, with NaN in the place of null. -/
def inSettledOrder (k : SortKey) (r s : Record) : Bool :=
  let a := (placeOf k r).settled
  let b := (placeOf k s).settled
  if k.descending then !a.before b else !b.before a

/-- Any two records are in order, one way or the other. -/
theorem inSettledOrder_total (k : SortKey) (r s : Record) :
    (inSettledOrder k r s || inSettledOrder k s r) = true := by
  have hnot (a b : SortPlace) : (!a.before b || !b.before a) = true := by
    cases hab : a.before b with
    | false => rfl
    | true => rw [SortPlace.before_asymm hab]; rfl
  unfold inSettledOrder
  dsimp only
  split
  · exact hnot _ _
  · exact hnot _ _

/-- The order of records is transitive. -/
theorem inSettledOrder_trans (k : SortKey) (r s t : Record) (hrs : inSettledOrder k r s = true)
    (hst : inSettledOrder k s t = true) : inSettledOrder k r t = true := by
  -- what is not before may be chained, since a place between tells two places apart
  have hnot {p q u : Record} (hpq : (placeOf k p).settled.before (placeOf k q).settled = false)
      (hqu : (placeOf k q).settled.before (placeOf k u).settled = false) :
      (placeOf k p).settled.before (placeOf k u).settled = false := by
    refine Bool.eq_false_iff.2 fun hpu => ?_
    rcases SortPlace.before_or_before hpu (SortPlace.isSettled_settled _)
      (SortPlace.isSettled_settled (placeOf k q)) (SortPlace.isSettled_settled _) with h | h
    · rw [hpq] at h
      simp at h
    · rw [hqu] at h
      simp at h
  unfold inSettledOrder at *
  dsimp only at *
  split at hrs
  · next hd =>
    rw [if_pos hd, Bool.not_eq_true'] at *
    exact hnot hrs hst
  · next hd =>
    rw [if_neg hd, Bool.not_eq_true'] at *
    exact hnot hst hrs

/-- Records that all have a place are sorted stably. -/
theorem orderByKey_eq {k : SortKey} {rows : List Record} (h : AllSettled k rows) :
    orderByKey k rows = rows.mergeSort (inSettledOrder k) := by
  -- without gaps the rows are sorted as they are
  have hgaps : rows.any (placeOf k · == .number none) = false := by
    simpa [AllSettled, SortPlace.IsSettled] using h
  have hsame : ∀ r ∈ rows, ∀ s ∈ rows, inOrder k r s = inSettledOrder k (id r) (id s) := by
    intro r hr s hs
    simp only [inOrder, inSettledOrder, id, SortPlace.settled_eq (h r hr),
      SortPlace.settled_eq (h s hs)]
  have hsort := List.map_mergeSort hsame
  rw [List.map_id, List.map_id] at hsort
  rw [orderByKey, hgaps, ← hsort]
  rfl

/-- Ordering keeps the records. -/
theorem mem_orderByKey {k : SortKey} {rows : List Record} (h : AllSettled k rows) {r : Record} :
    r ∈ orderByKey k rows ↔ r ∈ rows := by
  rw [orderByKey_eq h]
  exact (List.mergeSort_perm _ _).mem_iff

/-- Ordering and filtering may be done in either order. -/
theorem orderByKey_filter {k : SortKey} {rows : List Record} (h : AllSettled k rows)
    (p : Record → Bool) : orderByKey k (rows.filter p) = (orderByKey k rows).filter p := by
  have hfilter : AllSettled k (rows.filter p) := fun r hr => h r (List.mem_filter.1 hr).1
  rw [orderByKey_eq h, orderByKey_eq hfilter,
    mergeSort_filter (inSettledOrder_trans k) (inSettledOrder_total k)]

theorem order_cons (k : SortKey) (keys : List SortKey) (rows : List Record) :
    order (k :: keys) rows = orderByKey k (order keys rows) := rfl

/-- Ordering by all keys keeps the records. -/
theorem mem_order {keys : List SortKey} {rows : List Record}
    (h : ∀ k ∈ keys, AllSettled k rows) {r : Record} : r ∈ order keys rows ↔ r ∈ rows := by
  induction keys generalizing r with
  | nil => rfl
  | cons k keys ih =>
    have hkeys : ∀ k' ∈ keys, AllSettled k' rows := fun k' hk' => h k' (List.mem_cons_of_mem k hk')
    have hk : AllSettled k (order keys rows) :=
      fun r hr => h k List.mem_cons_self r ((ih hkeys).1 hr)
    rw [order_cons, mem_orderByKey hk, ih hkeys]

/-- It does not matter whether records are filtered before they are ordered or afterwards. -/
theorem order_filter {keys : List SortKey} {rows : List Record}
    (h : ∀ k ∈ keys, AllSettled k rows) (p : Record → Bool) :
    order keys (rows.filter p) = (order keys rows).filter p := by
  induction keys with
  | nil => rfl
  | cons k keys ih =>
    have hkeys : ∀ k' ∈ keys, AllSettled k' rows := fun k' hk' => h k' (List.mem_cons_of_mem k hk')
    have hk : AllSettled k (order keys rows) :=
      fun r hr => h k List.mem_cons_self r ((mem_order hkeys).1 hr)
    rw [order_cons, order_cons, ih hkeys, orderByKey_filter hk]

end Query

end ODataService
