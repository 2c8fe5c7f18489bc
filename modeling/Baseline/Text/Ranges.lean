/-!
# Ranges of code points
-/

namespace Baseline.Text

/-- Whether a code point is in one of the ranges. -/
def inRanges (ranges : List (Nat × Nat)) (n : Nat) : Bool :=
  ranges.any fun r => r.1 ≤ n && n ≤ r.2

end Baseline.Text
