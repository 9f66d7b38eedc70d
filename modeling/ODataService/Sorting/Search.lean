/-!
# Searching for a border

A border splits a list into a front part, whose positions satisfy a condition, and the rest. Where
the condition does not change only once, there are several borders, and which one is found depends
on the positions that are looked at. Those are fixed here.

`bisect` halves a range of positions. `gallop` starts from a position of the list and doubles its
steps until it has passed a border, and then halves the last step.
-/

namespace ODataService.Sorting

/-- A border among the positions from `low` to `high`, found by halving. -/
def bisect (inFront : Nat → Bool) (low high : Nat) : Nat :=
  if low < high then
    let middle := low + (high - low) / 2
    if inFront middle then bisect inFront (middle + 1) high else bisect inFront low middle
  else low
termination_by high - low

/-- Doubles the distance `next` as long as it is below `limit` and `goesOn` holds there: the last
distance at which it held and the first at which it need not hold. The fuel bounds the steps. -/
def stride (goesOn : Nat → Bool) (limit : Nat) : (fuel last next : Nat) → Nat × Nat
  | 0, last, next => (last, min next limit)
  | fuel + 1, last, next =>
    if next < limit && goesOn next then stride goesOn limit fuel next (2 * next + 1)
    else (last, min next limit)

/-- A border of a list of the length `size`, looked for from the position `start` on. -/
def gallop (inFront : Nat → Bool) (size start : Nat) : Nat :=
  if inFront start then
    let (last, next) := stride (fun d => inFront (start + d)) (size - start) size 0 1
    bisect inFront (start + last + 1) (start + next)
  else
    let (last, next) := stride (fun d => !inFront (start - d)) (start + 1) size 0 1
    bisect inFront (start + 1 - next) (start - last)

end ODataService.Sorting
