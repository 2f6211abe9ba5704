/-!
# Character ranges

A character property is a list of ranges of code points, each with both ends included.
-/

namespace SqlShape.Text

/-- The character lies in one of the ranges. -/
def inRanges (ranges : List (Nat × Nat)) (c : Char) : Bool :=
  ranges.any fun (first, last) => decide (first ≤ c.toNat) && decide (c.toNat ≤ last)

end SqlShape.Text
