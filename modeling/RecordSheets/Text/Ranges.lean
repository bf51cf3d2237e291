/-!
# Ranges of characters

Sets of characters given as ranges of code points.
-/

namespace RecordSheets.Text

/-- Tells whether the code point of a character lies in one of some ranges. -/
def inRanges (ranges : List (Nat × Nat)) (c : Char) : Bool :=
  ranges.any fun r => r.1 ≤ c.toNat && c.toNat ≤ r.2

end RecordSheets.Text
