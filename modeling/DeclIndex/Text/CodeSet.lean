/-!
# Sets of code points

A property of code points is kept as an inversion list: the code points, in increasing order, at which
membership changes.
-/

namespace DeclIndex.Text

/-- A set of code points, by the points where membership changes. Nothing below the first point belongs. -/
structure CodeSet where
  changes : List Nat

/-- Whether a code point belongs: an odd number of changes lie at or below it. -/
def CodeSet.contains (set : CodeSet) (code : Nat) : Bool :=
  (set.changes.takeWhile (· ≤ code)).length % 2 == 1

end DeclIndex.Text
