/-!
# Sets of characters given by a standard

A property of the Unicode character database is a union of code point intervals. `CharSet` keeps
the ends of those intervals in increasing order: the first code point inside, the first one
outside again, and so on. A character has the property exactly when an odd number of those ends
are at or below it, so one binary search answers the question.
-/

namespace ODataService.Text

/-- The ends of the intervals of a set of code points, in increasing order: inside, outside,
inside, and so on. -/
structure CharSet where
  ends : Array Nat

namespace CharSet

/-- How many of the sorted `ends` are at most `n`, known to lie between `lo` and `hi`. -/
def countUpTo (ends : Array Nat) (n lo hi : Nat) : Nat :=
  if lo < hi then
    let mid := (lo + hi) / 2
    if ends.getD mid 0 ≤ n then countUpTo ends n (mid + 1) hi else countUpTo ends n lo mid
  else lo
termination_by hi - lo

/-- A code point is inside when it has passed an odd number of ends. -/
def contains (s : CharSet) (c : Char) : Bool :=
  countUpTo s.ends c.toNat 0 s.ends.size % 2 == 1

end CharSet

end ODataService.Text
