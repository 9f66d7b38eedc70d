import Mathlib.Algebra.BigOperators.Group.Multiset.Basic
import Mathlib.Data.List.Perm.Basic
import Mathlib.Tactic.Abel
import ODataService.Sorting.Runs

/-!
# Sorting keeps the elements

Sorting by runs may be asked to sort by an order that is not total. What comes out is then in no
order in particular, but the elements are still those of the list, each as often as before
(`byRuns_perm`). The argument looks at the elements without their order: cutting a list into runs,
inserting into a run and every step of a merge leave the multiset of all elements as it is.
-/

namespace ODataService.Sorting

variable {α : Type}

/-- A list holds what its front and its rest hold. -/
theorem coe_take_add_coe_drop (xs : List α) (n : Nat) :
    ((xs.take n : List α) : Multiset α) + (xs.drop n : List α) = (xs : Multiset α) := by
  rw [Multiset.coe_add, List.take_append_drop]

/-! ## Merging -/

namespace Merging

/-- The elements of two runs while they are merged. -/
def contents (m : Merging α) : Multiset α := m.merged + m.short + m.long

theorem coe_close (m : Merging α) : (m.close : Multiset α) = m.contents := by
  rw [close, ← Multiset.coe_add, ← Multiset.coe_add, Multiset.coe_reverse, contents]

/-- Closing a merge with the rests the other way round keeps its elements. -/
theorem coe_closeCrossed (m : Merging α) : (m.closeCrossed : Multiset α) = m.contents := by
  rw [closeCrossed, ← Multiset.coe_add, ← Multiset.coe_add, Multiset.coe_reverse, contents]
  abel

end Merging

/-- A merge, finished or not, has the elements `s`. -/
def Holds {β : Type} (contents : β → Multiset α) (s : Multiset α) : Except (List α) β → Prop
  | .error done => (done : Multiset α) = s
  | .ok b => contents b = s

/-- What a step holds the next one holds, unless the merge is already done. -/
theorem Holds.bind {β γ : Type} {contents : β → Multiset α} {contents' : γ → Multiset α}
    {s : Multiset α} {x : Except (List α) β} {f : β → Except (List α) γ}
    (hx : Holds contents s x) (hf : ∀ b, contents b = s → Holds contents' s (f b)) :
    Holds contents' s (x >>= f) := by
  cases x with
  | error done => exact hx
  | ok b => exact hf b hx

/-- Taking from the long run moves its elements to those that are merged. -/
theorem holds_takeLong (n : Nat) (m : Merging α) :
    Holds Merging.contents m.contents (m.takeLong n) := by
  have hnext : Merging.contents ⟨(m.long.take n).reverse ++ m.merged, m.short, m.long.drop n⟩ =
      m.contents := by
    rw [Merging.contents, Merging.contents, ← coe_take_add_coe_drop m.long n, ← Multiset.coe_add,
      Multiset.coe_reverse]
    abel
  unfold Merging.takeLong
  dsimp only
  -- an empty long run ends the merge
  split
  · exact (Merging.coe_close _).trans hnext
  · exact hnext

/-- Taking from the short run moves its elements to those that are merged. -/
theorem holds_takeShort (n : Nat) (m : Merging α) :
    Holds Merging.contents m.contents (m.takeShort n) := by
  have hnext : Merging.contents ⟨(m.short.take n).reverse ++ m.merged, m.short.drop n, m.long⟩ =
      m.contents := by
    rw [Merging.contents, Merging.contents, ← coe_take_add_coe_drop m.short n, ← Multiset.coe_add,
      Multiset.coe_reverse]
    abel
  unfold Merging.takeShort
  dsimp only
  split
  · exact hnext
  -- the merge ends when nothing is left, or one element that is known to come last
  · split
    · exact (Merging.coe_close _).trans hnext
    · exact (Merging.coe_closeCrossed _).trans hnext
    · exact hnext

section

variable (before : α → α → Bool)

/-- A stretch of each run and the element behind it keep the elements. -/
theorem holds_takeStretches (e : End) (m : Merging α) :
    Holds (fun nm : Nat × Merging α => nm.2.contents) m.contents (takeStretches before e m) := by
  have hlong : ∀ (n : Nat) (m' : Merging α), m'.contents = m.contents →
      Holds Merging.contents m.contents (m'.takeLong n) :=
    fun n m' h => h ▸ holds_takeLong n m'
  have hshort : ∀ (n : Nat) (m' : Merging α), m'.contents = m.contents →
      Holds Merging.contents m.contents (m'.takeShort n) :=
    fun n m' h => h ▸ holds_takeShort n m'
  -- from either end four moves follow each other, and each of them keeps them
  cases e with
  | front =>
    exact (hshort _ m rfl).bind fun m₁ h₁ => (hlong 1 m₁ h₁).bind fun m₂ h₂ =>
      (hlong _ m₂ h₂).bind fun m₃ h₃ => (hshort 1 m₃ h₃).bind fun _ h => h
  | back =>
    exact (hlong _ m rfl).bind fun m₁ h₁ => (hshort 1 m₁ h₁).bind fun m₂ h₂ =>
      (hshort _ m₂ h₂).bind fun m₃ h₃ => (hlong 1 m₃ h₃).bind fun _ h => h

/-- A merge returns what it holds, however far its fuel goes. -/
theorem coe_mergeOn (e : End) (fuel patience : Nat) (pace : Pace) (m : Merging α) :
    ((mergeOn before e fuel patience pace m).1 : Multiset α) = m.contents := by
  -- every round is one move or a stretch of moves, and with no fuel left the merge is closed
  induction fuel generalizing patience pace m with
  | zero => exact m.coe_close
  | succ fuel ih =>
    cases pace with
    | single i j =>
      rw [mergeOn]
      split
      · next x xs y ys hx hy =>
        have hnext : Holds Merging.contents m.contents
            (if longIsNext before e x y then (0, j + 1, m.takeLong 1)
              else (i + 1, 0, m.takeShort 1)).2.2 := by
          split
          · exact holds_takeLong 1 m
          · exact holds_takeShort 1 m
        -- how often a run has won in a row is of no importance to the elements
        revert hnext
        generalize (if longIsNext before e x y then (0, j + 1, m.takeLong 1)
          else (i + 1, 0, m.takeShort 1)) = step
        obtain ⟨i, j, done | m'⟩ := step
        · exact id
        · intro hnext
          dsimp only
          split
          · exact (ih _ _ _).trans hnext
          · exact (ih _ _ _).trans hnext
      · exact m.coe_close
    | stretches =>
      have hnext := holds_takeStretches before e m
      rw [mergeOn]
      split
      · next done h =>
        rw [h] at hnext
        exact hnext
      · next n m' h =>
        rw [h] at hnext
        split
        · exact (ih _ _ _).trans hnext
        · exact (ih _ _ _).trans hnext

/-- A merge from one end returns the elements of both runs. -/
theorem coe_mergeFrom (e : End) (patience : Nat) (short long : List α) :
    ((mergeFrom before e patience short long).1 : Multiset α) = short + long := by
  unfold mergeFrom
  extract_lets start
  have hcontents : Merging.contents ⟨[], short, long⟩ = (short + long : Multiset α) := by
    rw [Merging.contents, Multiset.coe_nil, zero_add]
  have hstart : Holds Merging.contents (short + long : Multiset α) start := by
    rw [← hcontents]
    refine (holds_takeLong 1 _).bind fun m hm => ?_
    split
    · exact m.coe_closeCrossed.trans hm
    · exact hm
  clear_value start
  cases start with
  | error done => exact hstart
  | ok m => exact (coe_mergeOn before e _ _ _ m).trans hstart

/-- The runs that overlap are merged from the side of the shorter one. -/
theorem coe_mergeOverlap (patience : Nat) (left right : List α) :
    ((mergeOverlap before patience left right).1 : Multiset α) = left + right := by
  unfold mergeOverlap
  split
  · exact coe_mergeFrom before .front patience left right
  · dsimp only
    rw [Multiset.coe_reverse, coe_mergeFrom, Multiset.coe_reverse, Multiset.coe_reverse, add_comm]

/-- Two runs are merged with all their elements. -/
theorem coe_mergeRuns (patience : Nat) (left right : List α) :
    ((mergeRuns before patience left right).1 : Multiset α) = left + right := by
  unfold mergeRuns
  extract_lets start stop inner
  split
  · exact (Multiset.coe_add left right).symm
  -- what is in place already is set aside in front and behind
  · dsimp only
    rw [← Multiset.coe_add, ← Multiset.coe_add, coe_mergeOverlap,
      ← coe_take_add_coe_drop left start, ← coe_take_add_coe_drop right stop]
    abel

/-! ## Cutting -/

/-- A place that is searched for lies within the bounds. -/
theorem bisect_le (inFront : Nat → Bool) {low high : Nat} (h : low ≤ high) :
    bisect inFront low high ≤ high := by
  fun_induction bisect inFront low high with
  | case1 low high hlt middle hin ih => exact ih (by omega)
  | case2 low high hlt middle hin ih => exact (ih (by omega)).trans (by omega)
  | case3 low high hge => exact h

/-- An element is inserted into a run. -/
theorem coe_insert (run : List α) (x : α) :
    (insert before run x : Multiset α) = run + {x} := by
  rw [insert, Multiset.coe_eq_coe.2 (List.perm_insertIdx x run (bisect_le _ (Nat.zero_le _))),
    ← Multiset.cons_coe, ← Multiset.singleton_add, add_comm]

/-- All elements are inserted into a run, one after the other. -/
theorem coe_foldl_insert (run xs : List α) :
    ((xs.foldl (insert before) run : List α) : Multiset α) = run + xs := by
  induction xs generalizing run with
  | nil => exact (add_zero _).symm
  | cons x xs ih =>
    rw [List.foldl_cons, ih, coe_insert, ← Multiset.cons_coe, ← Multiset.singleton_add, add_assoc]

/-- A run that is cut off and what is behind it hold all elements. -/
theorem coe_cutRun (least : Nat) (xs : List α) :
    ((cutRun before least xs).1 : Multiset α) + (cutRun before least xs).2 = xs := by
  unfold cutRun
  split
  · next x y rest =>
    extract_lets reversed n run behind
    -- a descending run is reversed, which moves its elements only
    have hrun : (run : Multiset α) = ((x :: y :: rest).take n : List α) := by
      show ((if reversed then _ else _ : List α) : Multiset α) = _
      split
      · exact Multiset.coe_reverse _
      · rfl
    dsimp only
    rw [coe_foldl_insert, add_assoc, coe_take_add_coe_drop, hrun, coe_take_add_coe_drop]
  · exact add_zero _

/-- Something is always cut off. -/
theorem length_cutRun_lt (least : Nat) (x : α) (xs : List α) :
    (cutRun before least (x :: xs)).2.length ≤ xs.length := by
  cases xs with
  | nil => exact Nat.le_refl 0
  | cons y rest =>
    rw [cutRun]
    simp only [List.length_drop, List.length_cons]
    omega

/-! ## Piling up -/

/-- The elements of several runs. -/
def elementsOf (runs : List (Run α)) : Multiset α :=
  (runs.map fun run => (run.elements : Multiset α)).sum

theorem elementsOf_cons (run : Run α) (runs : List (Run α)) :
    elementsOf (run :: runs) = run.elements + elementsOf runs := List.sum_cons

/-- Merged runs hold what both of them held. -/
theorem elements_merge (patience : Nat) (left right : Run α) :
    ((Run.merge before patience left right).1.elements : Multiset α) =
      left.elements + right.elements :=
  coe_mergeRuns before patience left.elements right.elements

/-- Merging the runs on top of the pile keeps the elements. -/
theorem elementsOf_settle (power fuel patience : Nat) (runs : List (Run α)) :
    elementsOf (settle before power fuel patience runs).runs = elementsOf runs := by
  induction fuel generalizing patience runs with
  | zero => cases runs <;> rfl
  | succ fuel ih =>
    -- only two runs on top can be merged
    match runs with
    | [] => rfl
    | [top] => rfl
    | top :: below :: runs =>
      rw [settle]
      split
      · dsimp only
        rw [ih, elementsOf_cons, elementsOf_cons, elementsOf_cons, elements_merge]
        abel
      · rfl

/-- A pushed run adds its elements. -/
theorem elementsOf_push (size : Nat) (p : Pile α) (run : Run α) :
    elementsOf (p.push before size run).runs = elementsOf p.runs + run.elements := by
  unfold Pile.push
  extract_lets settled
  have hsettled : elementsOf settled.runs = elementsOf p.runs := by
    dsimp only [settled]
    split
    · rfl
    · exact elementsOf_settle before _ _ _ _
  rw [elementsOf_cons, hsettled, add_comm]

/-- Piling up the runs of a list adds its elements. -/
theorem elementsOf_pile (size least fuel start : Nat) (xs : List α) (p : Pile α)
    (hfuel : xs.length ≤ fuel) :
    elementsOf (pile before size least fuel start xs p).runs = elementsOf p.runs + xs := by
  -- every round cuts off a run, so that the length is fuel enough
  induction fuel generalizing start xs p with
  | zero =>
    obtain rfl := List.length_eq_zero_iff.1 (Nat.le_zero.1 hfuel)
    exact (add_zero _).symm
  | succ fuel ih =>
    cases xs with
    | nil => exact (add_zero _).symm
    | cons x xs =>
      have hrest := length_cutRun_lt before least x xs
      rw [List.length_cons] at hfuel
      rw [pile]
      dsimp only
      rw [ih _ _ _ (by omega), elementsOf_push, add_assoc, coe_cutRun]

theorem elementsOf_reverse (runs : List (Run α)) : elementsOf runs.reverse = elementsOf runs := by
  rw [elementsOf, List.map_reverse, List.sum_reverse, elementsOf]

/-- The elements of runs in a row are those of all runs. -/
theorem coe_flatten (runs : List (Run α)) :
    ((runs.map Run.elements).flatten : Multiset α) = elementsOf runs := by
  induction runs with
  | nil => rfl
  | cons run runs ih =>
    rw [List.map_cons, List.flatten_cons, ← Multiset.coe_add, ih, elementsOf_cons]

/-- The last two runs of a pile are merged into one. -/
theorem elements_merge_pair (patience : Nat) (top second : Run α) :
    ((Run.merge before patience second top).1.elements : Multiset α) =
      elementsOf [top, second] := by
  rw [elements_merge, elementsOf_cons, elementsOf_cons, elementsOf, List.map_nil, List.sum_nil]
  abel

/-- Merging the runs that are left keeps the elements. -/
theorem coe_collapse (fuel patience : Nat) (runs : List (Run α)) :
    (collapse before fuel patience runs : Multiset α) = elementsOf runs := by
  -- where no runs are merged they are put in a row
  have hlast : ∀ runs : List (Run α),
      ((runs.reverse.map Run.elements).flatten : Multiset α) = elementsOf runs :=
    fun runs => (coe_flatten runs.reverse).trans (elementsOf_reverse runs)
  induction fuel generalizing patience runs with
  | zero =>
    match runs with
    | [] | [_] | _ :: _ :: _ :: _ => exact hlast _
    | [top, second] => exact elements_merge_pair before patience top second
  | succ fuel ih =>
    match runs with
    | [] | [_] => exact hlast _
    | [top, second] => exact elements_merge_pair before patience top second
    | top :: second :: third :: runs =>
      -- the smaller of the outer runs is merged with the one in the middle
      rw [collapse]
      split
      · dsimp only
        rw [ih]
        simp only [elementsOf_cons, elements_merge]
        abel
      · dsimp only
        rw [ih]
        simp only [elementsOf_cons, elements_merge]
        abel

/-- What comes out of sorting by runs is what went in, in another order. -/
theorem byRuns_perm (xs : List α) : (byRuns before xs).Perm xs := by
  rw [← Multiset.coe_eq_coe, byRuns]
  rw [coe_collapse, elementsOf_pile before _ _ _ _ _ _ (Nat.le_refl _)]
  exact zero_add _

end

end ODataService.Sorting
