/-!
# Tables of code point ranges

A character class is a list of closed ranges of code points, in order and apart.
-/

namespace CardFilter.Text

/-- Whether the character lies in one of the ranges. -/
def inRanges (ranges : List (Nat × Nat)) (c : Char) : Bool :=
  ranges.any fun range ↦ range.1 ≤ c.toNat && c.toNat ≤ range.2

end CardFilter.Text
