/-!
# Ratios

Non-negative quotients of naturals, kept as they are and not in lowest terms.  They are the exact
values in between a decimal spelling and a floating-point number; the operations here scale them by
powers and round them to integers.
-/

namespace LiteralLang

structure Ratio where
  numerator : Nat
  denominator : Nat
  deriving DecidableEq, Repr

namespace Ratio

/-- The ratio times a power of a base; a negative power goes into the denominator. -/
def scale (r : Ratio) (base : Nat) (power : Int) : Ratio where
  numerator := r.numerator * Nat.pow base power.toNat
  denominator := r.denominator * Nat.pow base (-power).toNat

/-- The ratio is less than one. -/
def isBelowOne (r : Ratio) : Bool := decide (r.numerator < r.denominator)

def floor (r : Ratio) : Nat := r.numerator / r.denominator

def compareToMiddle (r : Ratio) : Ordering :=
  compare (2 * (r.numerator % r.denominator)) r.denominator

/-- The nearest integer, a tie going to the even one. -/
def roundHalfEven (r : Ratio) : Nat :=
  match r.compareToMiddle with
  | .lt => r.floor
  | .gt => r.floor + 1
  | .eq => r.floor + r.floor % 2

/-- The integer part of the binary logarithm of a positive ratio.  The lengths of the numerator and
the denominator in bits give it or one more. -/
def log2 (r : Ratio) : Int :=
  let estimate : Int := r.numerator.log2 - r.denominator.log2
  if (r.scale 2 (-estimate)).isBelowOne then estimate - 1 else estimate

end Ratio

end LiteralLang
