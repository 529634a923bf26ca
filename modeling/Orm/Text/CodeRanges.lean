/-!
# Sets of characters

A set of characters is kept as ascending, disjoint ranges of code points. `CodeRanges.contains`
tests membership and stops at the first range that lies beyond the character.
-/

namespace Orm.Text

/-- Ascending, disjoint ranges of code points, both ends included. -/
abbrev CodeRanges := List (Nat × Nat)

/-- Whether the code point `point` lies in one of the ranges. -/
def CodeRanges.containsPoint : CodeRanges → Nat → Bool
  | [], _ => false
  | (low, high) :: rest, point =>
      if point < low then false
      else if point ≤ high then true
      else CodeRanges.containsPoint rest point

/-- Whether the character `c` lies in one of the ranges. -/
def CodeRanges.contains (ranges : CodeRanges) (c : Char) : Bool :=
  ranges.containsPoint c.toNat

end Orm.Text
