/-!
# Ranges of code points

Sets of characters given as closed ranges of code points, ascending and apart.
-/

namespace LiteralLang.Text

/-- The code point of the character lies in one of the closed ranges. -/
def inRanges (ranges : List (Nat × Nat)) (c : Char) : Bool :=
  ranges.any fun (first, last) => decide (first ≤ c.toNat) && decide (c.toNat ≤ last)

end LiteralLang.Text
