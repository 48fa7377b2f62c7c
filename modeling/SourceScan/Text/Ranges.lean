/-! # Ranges of code points

Character classes are given as inclusive ranges of code points.
-/

namespace SourceScan

/-- Whether a code point lies in one of the inclusive ranges. -/
def inRanges (ranges : List (Nat × Nat)) (n : Nat) : Bool :=
  ranges.any fun range => range.1 ≤ n && n ≤ range.2

end SourceScan
