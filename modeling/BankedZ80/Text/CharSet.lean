/-!
# Sets of characters as sorted bounds

A set of code points is written as the ascending list of the points where membership changes: the
first bound opens a range, the second closes it, and so on. `CharSet.contains` counts the bounds
passed, so a point belongs to the set when that count is odd.
-/

namespace BankedZ80

/-- A set of code points, as the ascending list of its range bounds. -/
structure CharSet where
  bounds : List Nat

/-- A point is in the set when it has passed an odd number of bounds. -/
def CharSet.contains (s : CharSet) (c : Char) : Bool :=
  s.bounds.countP (· ≤ c.toNat) % 2 == 1

end BankedZ80
