/-!
# Ranges of code points

A class of characters is given by a table of closed ranges of code points.

## Main definitions

* `CodeRange` — a closed range
* `Text.inRanges` — whether a character lies in one of the ranges of a table
-/

namespace BoundTree

namespace Text

/-- A closed range of code points, given by its first and its last one. -/
abbrev CodeRange := Nat × Nat

/-- Whether a code point lies in a range. -/
def CodeRange.contains (range : CodeRange) (code : Nat) : Bool :=
  decide (range.1 ≤ code) && decide (code ≤ range.2)

/-- Whether a character lies in one of the ranges of a table. -/
def inRanges (ranges : List CodeRange) (c : Char) : Bool :=
  ranges.any fun range => range.contains c.toNat

end Text

end BoundTree
