import LiteralLang.Binary64

/-!
# Rounding to the nearest binary64 number

`nearestMagnitude` takes a ratio to the magnitude of the nearest binary64 number, ties to the even
neighbour, as the standard for floating-point arithmetic asks.  The ratio is scaled so that one unit
is the gap between neighbouring numbers of its size, rounded to an integer once, and the two parts
are added into one magnitude.  A significand that rounds up to the next power of two carries into
the exponent by that addition, and everything from the overflow threshold on stops at infinity.
-/

namespace LiteralLang.Binary64

/-- The exponent of the least positive number. -/
def leastExponent : Int := -1074

/-- The exponent of the last place of the numbers of a ratio's size: fifty-two below the leading
one, but never below that of the least positive number. -/
def placeExponent (r : Ratio) : Int := max (r.log2 - 52) leastExponent

/-- The magnitude of the binary64 number nearest to a ratio, ties to even. -/
def nearestMagnitude (r : Ratio) : Nat :=
  if r.numerator = 0 then 0 else
    let place := placeExponent r
    min infinityMagnitude
      ((place - leastExponent).toNat * exponentWeight + (r.scale 2 (-place)).roundHalfEven)

theorem nearestMagnitude_le (r : Ratio) : nearestMagnitude r ≤ infinityMagnitude := by
  unfold nearestMagnitude
  split
  · exact Nat.zero_le _
  · exact Nat.min_le_left _ _

/-- The non-negative binary64 number nearest to a ratio, ties to even. -/
def ofRatio (r : Ratio) : Binary64 where
  negative := false
  magnitude := nearestMagnitude r
  magnitude_lt := Nat.lt_of_le_of_lt (nearestMagnitude_le r) (by decide)

end LiteralLang.Binary64
