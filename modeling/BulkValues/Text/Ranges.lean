/-
# Sets of characters as ranges of code points

A character class of a standard is data: a list of closed ranges, looked up one way.
-/

namespace BulkValues.Text

/-- Whether a code point lies in one of the closed ranges. -/
def inRanges (ranges : List (Nat × Nat)) (n : Nat) : Bool :=
  ranges.any fun r => r.1 ≤ n && n ≤ r.2

end BulkValues.Text
