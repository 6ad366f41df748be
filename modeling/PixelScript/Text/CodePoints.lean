/-!
# Ranges of code points

A property of characters given by a standard is kept as a list of ranges of code points.
-/

namespace PixelScript.Text

/-- Some of the ranges, whose ends belong to them, has the character in it. -/
def inRanges (ranges : List (Nat × Nat)) (c : Char) : Bool :=
  ranges.any fun (lo, hi) => decide (lo ≤ c.toNat) && decide (c.toNat ≤ hi)

end PixelScript.Text
