import ODataService.Sorting.Merge

/-!
# Sorting by runs

`Sorting.byRuns` cuts a list into runs, which are in order already or were in reverse order, makes
short ones longer by insertion, and merges neighbours. The order need not be total: a list in which
some elements have no place among the others comes out in one certain way.

The order of the merges follows from the powers of the borders between runs: the power of a border
is the number of halvings of the whole list after which the middles of its two runs are apart.
-/

namespace ODataService.Sorting

variable {α : Type}

/-- The number of elements from which on a list is cut into several runs. -/
def splitLength : Nat := 64

/-- The least length of a run that is not the last of a list of the length `size`: the length halved
until it is below the split length, and one more if an odd length was halved. -/
def leastRun (size : Nat) (odd : Bool) : Nat :=
  if splitLength ≤ size then leastRun (size / 2) (odd || size % 2 == 1)
  else if odd then size + 1
  else size
termination_by size
decreasing_by simp only [splitLength] at *; omega

/-- How many elements in a row stand to their predecessors as asked; `last` is the first of them. -/
def countWhile (related : α → α → Bool) (last : α) : List α → Nat
  | [] => 0
  | x :: xs => if related x last then countWhile related x xs + 1 else 0

/-- The least number of halvings of a list of the length `size` after which the positions `a / 2`
and `b / 2` are apart. The fuel bounds the halvings. -/
def halvings (size : Nat) : (fuel a b : Nat) → Nat
  | 0, _, _ => 0
  | fuel + 1, a, b =>
    if size ≤ a then halvings size fuel (2 * (a - size)) (2 * (b - size)) + 1
    else if size ≤ b then 1
    else halvings size fuel (2 * a) (2 * b) + 1

/-- The power of the border between a run of the length `n` that starts at `start` and a run of the
length `m` behind it. -/
def borderPower (size start n m : Nat) : Nat :=
  halvings size (size + 2) (2 * start + n) (2 * start + 2 * n + m)

/-- A run that waits to be merged: where it starts, its elements in order, and the power of the
border behind it. -/
structure Run (α : Type) where
  start : Nat
  elements : List α
  power : Nat := 0

/-- The runs found so far, the last one first, and the patience of the next merge. -/
structure Pile (α : Type) where
  runs : List (Run α) := []
  patience : Nat := payingLength

section

variable (before : α → α → Bool)

/-- Inserts an element behind those of a run that it does not precede. -/
def insert (run : List α) (x : α) : List α :=
  run.insertIdx (bisect (fun i => run[i]?.any (staysLeft before x)) 0 run.length) x

/-- The run that a list starts with, in order, and the rest of the list. A run is longest possible,
in order or in strictly reverse order, and is made up to the length `least` by insertion. -/
def cutRun (least : Nat) (xs : List α) : List α × List α :=
  match xs with
  | x :: y :: rest =>
    let reversed := before y x
    let n := countWhile (fun y x => before y x == reversed) y rest + 2
    let run := if reversed then (xs.take n).reverse else xs.take n
    let rest := xs.drop n
    ((rest.take (least - n)).foldl (insert before) run, rest.drop (least - n))
  | xs => (xs, [])

/-- Merges two runs of a pile, of which the left one is the lower. -/
def Run.merge (patience : Nat) (left right : Run α) : Run α × Nat :=
  let (elements, patience) := mergeRuns before patience left.elements right.elements
  (⟨left.start, elements, left.power⟩, patience)

/-- Merges the runs at the top of a pile whose border below has a greater power than the border
above; the border above gets its power. The fuel bounds the merges. -/
def settle (power : Nat) : (fuel patience : Nat) → List (Run α) → Pile α
  | fuel + 1, patience, top :: below :: runs =>
    if power < below.power then
      let (merged, patience) := Run.merge before patience below top
      settle power fuel patience (merged :: runs)
    else ⟨{ top with power := power } :: below :: runs, patience⟩
  | _, patience, top :: runs => ⟨{ top with power := power } :: runs, patience⟩
  | _, patience, [] => ⟨[], patience⟩

def Pile.push (size : Nat) (pile : Pile α) (run : Run α) : Pile α :=
  let settled :=
    match pile.runs with
    | [] => pile
    | top :: _ =>
      let power := borderPower size top.start top.elements.length run.elements.length
      settle before power pile.runs.length pile.patience pile.runs
  { settled with runs := run :: settled.runs }

/-- Puts the runs of a list, of which the first `start` elements are done, on a pile. The fuel
bounds the runs. -/
def pile (size least : Nat) : (fuel start : Nat) → List α → Pile α → Pile α
  | fuel + 1, start, x :: xs, p =>
    let (run, rest) := cutRun before least (x :: xs)
    pile size least fuel (start + run.length) rest (p.push before size { start, elements := run })
  | _, _, _, p => p

/-- Merges all runs of a pile, those at the top first unless the third from the top is shorter than
the top. The fuel bounds the merges. -/
def collapse : (fuel patience : Nat) → List (Run α) → List α
  | fuel + 1, patience, top :: second :: third :: runs =>
    if third.elements.length < top.elements.length then
      let (merged, patience) := Run.merge before patience third second
      collapse fuel patience (top :: merged :: runs)
    else
      let (merged, patience) := Run.merge before patience second top
      collapse fuel patience (merged :: third :: runs)
  | _, patience, [top, second] => (Run.merge before patience second top).1.elements
  | _, _, runs => (runs.reverse.map Run.elements).flatten

def byRuns (xs : List α) : List α :=
  let p := pile before xs.length (leastRun xs.length false) xs.length 0 xs {}
  collapse before p.runs.length p.patience p.runs

end

end ODataService.Sorting
