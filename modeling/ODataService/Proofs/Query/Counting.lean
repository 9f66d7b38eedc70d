import ODataService.Proofs.Sorting.Contents
import ODataService.Query.Answer

/-!
# How many records a query answers with

Ordering and projecting change neither which records are answered with nor how many, whatever they
hold; NaN makes no exception (`Query.order_perm`). So the number depends on what a query selects and
on its page (`Query.length_run`), and without a page it is the number that is counted
(`Query.length_run_forCount`).
-/

namespace ODataService.Query

/-- Ordering by a key keeps all records, also where some have no place among the others. -/
theorem orderByKey_perm (k : SortKey) (rows : List Record) : (orderByKey k rows).Perm rows := by
  unfold orderByKey
  -- with gaps the rows are ordered run by run, backwards for a descending key
  split
  · unfold orderWithGaps
    split
    · have hruns := Sorting.byRuns_perm
        (fun r s => (placeOf k r).before (placeOf k s)) rows.reverse
      exact (List.reverse_perm _).trans (hruns.trans (List.reverse_perm rows))
    · exact Sorting.byRuns_perm _ _
  · exact List.mergeSort_perm _ _

/-- Ordering leaves the rows the same. -/
theorem order_perm (keys : List SortKey) (rows : List Record) : (order keys rows).Perm rows := by
  induction keys with
  | nil => exact .refl rows
  | cons k keys ih => exact (orderByKey_perm k (order keys rows)).trans ih

/-- The length of a page of `n` rows. -/
def pageLength (offset limit : Option Nat) (n : Nat) : Nat :=
  match limit with
  | some limit => min limit (n - offset.getD 0)
  | none => n - offset.getD 0

/-- The length of a page depends on the number of rows alone. -/
theorem length_page {α : Type} (offset limit : Option Nat) (rows : List α) :
    (page offset limit rows).length = pageLength offset limit rows.length := by
  cases limit with
  | none => exact List.length_drop
  | some n => rw [page, List.length_take, List.length_drop, pageLength]

/-- The number of records that a query selects. -/
def selected (q : Query) (rows : List Record) : Nat := (rows.filter (selects q)).length

/-- A query gives a page of the rows it selects. -/
theorem length_run (q : Query) (rows : List Record) :
    (q.run rows).length = pageLength q.offset q.limit (q.selected rows) := by
  rw [run, List.length_map, length_page, (order_perm _ _).length_eq, selected]

/-- What is counted is what a query selects. -/
theorem length_run_forCount (q : Query) (rows : List Record) :
    (q.forCount.run rows).length = q.selected rows := length_run q.forCount rows

end ODataService.Query
