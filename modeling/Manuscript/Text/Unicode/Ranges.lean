/-!
# Tables of code point ranges

A property of characters is a list of closed ranges of code points.
-/

namespace Manuscript.Text.Unicode

/-- Whether a code point lies in one of the ranges, both ends included. -/
def inRanges (ranges : List (Nat × Nat)) (n : Nat) : Bool :=
  ranges.any fun r => r.1 ≤ n && n ≤ r.2

end Manuscript.Text.Unicode
