import ODataService.Sorting.Search

/-!
# Merging adjacent runs

Two runs that follow each other are merged from the end at which the shorter one lies. Elements are
compared one by one until one run has won often enough in a row; from then on whole stretches are
searched for, as long as that pays. How often is enough is the patience, which every merge leaves
changed to the next one.

Where the order is total all ways of merging agree. The one here is fixed also for orders in which
some elements have no place.
-/

namespace ODataService.Sorting

variable {α : Type}

/-- The end from which two runs are merged: from the front the shorter run is the left one, from
the back it is the right one. -/
inductive End where
  | front
  | back
deriving DecidableEq, Repr

/-- Two runs while they are merged, as seen from the end: what is merged already, last one first,
and what is left of the shorter and of the longer run. -/
structure Merging (α : Type) where
  merged : List α := []
  short : List α
  long : List α

namespace Merging

/-- What is merged already with the rest of the shorter run behind it. -/
def close (m : Merging α) : List α := m.merged.reverse ++ m.short ++ m.long

/-- What is merged already with the rest of the longer run behind it, and then the shorter. -/
def closeCrossed (m : Merging α) : List α := m.merged.reverse ++ m.long ++ m.short

/-- Takes `n` elements of the longer run. The merge is finished when the run is used up. -/
def takeLong (n : Nat) (m : Merging α) : Except (List α) (Merging α) :=
  let next : Merging α :=
    ⟨(m.long.take n).reverse ++ m.merged, m.short, m.long.drop n⟩
  if n ≠ 0 && next.long.isEmpty then .error next.close else .ok next

/-- Takes `n` elements of the shorter run. The merge is finished when one element of it is left,
because that one is the last of all. -/
def takeShort (n : Nat) (m : Merging α) : Except (List α) (Merging α) :=
  let next : Merging α :=
    ⟨(m.short.take n).reverse ++ m.merged, m.short.drop n, m.long⟩
  if n = 0 then .ok next
  else
    match next.short with
    | [] => .error next.close
    | [_] => .error next.closeCrossed
    | _ => .ok next

end Merging

section

variable (before : α → α → Bool)

/-- Whether an element of the left run stays in front of an element of the right run. -/
def staysLeft (right left : α) : Bool := !before right left

/-- Whether an element of the right run comes in front of an element of the left run. -/
def passesLeft (left right : α) : Bool := before right left

/-- Whether the next element comes from the longer run. -/
def longIsNext (e : End) (short long : α) : Bool :=
  match e with
  | .front => before long short
  | .back => before short long

/-- How many elements at the end of a run are on the far side of a border. -/
def stretch (e : End) (inFront : α → Bool) (xs : List α) : Nat :=
  let n := xs.length
  match e with
  | .front => gallop (fun i => xs[i]?.any inFront) n 0
  | .back => n - gallop (fun i => xs[n - 1 - i]?.any inFront) n (n - 1)

/-- How many elements of the shorter run come before the next one of the longer run. -/
def shortStretch (e : End) (m : Merging α) : Nat :=
  match e, m.long with
  | _, [] => 0
  | .front, y :: _ => stretch e (staysLeft before y) m.short
  | .back, y :: _ => stretch e (passesLeft before y) m.short

/-- How many elements of the longer run come before the next one of the shorter run. -/
def longStretch (e : End) (m : Merging α) : Nat :=
  match e, m.short with
  | _, [] => 0
  | .front, x :: _ => stretch e (passesLeft before x) m.long
  | .back, x :: _ => stretch e (staysLeft before x) m.long

/-- Takes a stretch of each run and the element behind it, of the left run first; gives the length
of the longer stretch. -/
def takeStretches (e : End) (m : Merging α) : Except (List α) (Nat × Merging α) :=
  match e with
  | .front => do
    let i := shortStretch before e m
    let m ← m.takeShort i
    let m ← m.takeLong 1
    let j := longStretch before e m
    let m ← m.takeLong j
    let m ← m.takeShort 1
    return (max i j, m)
  | .back => do
    let i := longStretch before e m
    let m ← m.takeLong i
    let m ← m.takeShort 1
    let j := shortStretch before e m
    let m ← m.takeShort j
    let m ← m.takeLong 1
    return (max i j, m)

/-- The patience at the start, and the least length of a stretch that pays. -/
def payingLength : Nat := 7

/-- How a merge goes on: one by one after a number of wins in a row, of the shorter and of the
longer run, or by stretches. -/
inductive Pace where
  | single (shortWins longWins : Nat)
  | stretches
deriving DecidableEq, Repr

/-- Merges what is left of two runs; gives the patience as well. The fuel bounds the steps, each of
which takes an element at least. -/
def mergeOn (e : End) : (fuel patience : Nat) → Pace → Merging α → List α × Nat
  | 0, patience, _, m => (m.close, patience)
  | fuel + 1, patience, .single i j, m =>
    match m.short, m.long with
    | x :: _, y :: _ =>
      let (i, j, next) :=
        if longIsNext before e x y then (0, j + 1, m.takeLong 1) else (i + 1, 0, m.takeShort 1)
      match next with
      | .error done => (done, patience)
      | .ok m =>
        if patience ≤ max i j then mergeOn e fuel (patience + 1) .stretches m
        else mergeOn e fuel patience (.single i j) m
    | _, _ => (m.close, patience)
  | fuel + 1, patience, .stretches, m =>
    let patience := if 1 < patience then patience - 1 else patience
    match takeStretches before e m with
    | .error done => (done, patience)
    | .ok (n, m) =>
      if payingLength ≤ n then mergeOn e fuel patience .stretches m
      else mergeOn e fuel (patience + 1) (.single 0 0) m

/-- Merges two runs from an end; the first element comes from the longer one. -/
def mergeFrom (e : End) (patience : Nat) (short long : List α) : List α × Nat :=
  let start : Except (List α) (Merging α) := do
    let m ← Merging.takeLong 1 ⟨[], short, long⟩
    if m.short.length = 1 then throw m.closeCrossed else return m
  match start with
  | .error done => (done, patience)
  | .ok m => mergeOn before e (short.length + long.length) patience (.single 0 0) m

/-- Merges two runs of which the first element of the right one belongs in front of the left one,
and the last element of the left one behind the right one. -/
def mergeOverlap (patience : Nat) (left right : List α) : List α × Nat :=
  if left.length ≤ right.length then mergeFrom before .front patience left right
  else
    let (merged, patience) := mergeFrom before .back patience right.reverse left.reverse
    (merged.reverse, patience)

/-- Merges two adjacent runs. What stands in place already at both ends is left alone. -/
def mergeRuns (patience : Nat) (left right : List α) : List α × Nat :=
  let start :=
    match right.head? with
    | none => left.length
    | some y => gallop (fun i => left[i]?.any (staysLeft before y)) left.length 0
  let stop :=
    match left.getLast? with
    | none => 0
    | some x =>
      gallop (fun i => right[i]?.any (passesLeft before x)) right.length (right.length - 1)
  let inner := left.drop start
  if inner.isEmpty || stop = 0 then (left ++ right, patience)
  else
    let (merged, patience) := mergeOverlap before patience inner (right.take stop)
    (left.take start ++ merged ++ right.drop stop, patience)

end

end ODataService.Sorting
