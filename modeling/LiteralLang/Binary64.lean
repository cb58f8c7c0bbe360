import LiteralLang.Ratio

/-!
# Binary64 numbers

The numbers of the language are the 64-bit binary floating-point numbers, kept as a sign and a
magnitude.  The magnitude is the encoding without its sign bit: its upper eleven bits are the
exponent field and its lower fifty-two bits the fraction.  Magnitudes order the non-negative
numbers as the numbers themselves are ordered, with infinity and then the NaNs on top, so the
classification below is a comparison of naturals.
-/

namespace LiteralLang

/-- A 64-bit binary floating-point number: a sign and the remaining 63 bits of its encoding. -/
structure Binary64 where
  negative : Bool
  magnitude : Nat
  magnitude_lt : magnitude < 0x8000000000000000
  deriving DecidableEq

namespace Binary64

/-! ### Encoding -/

/-- What the sign bit adds to an encoding. -/
def signWeight : Nat := 0x8000000000000000

/-- What the lowest bit of the exponent field adds to an encoding. -/
def exponentWeight : Nat := 0x0010000000000000

/-- The number whose 64-bit encoding is `bits`; higher bits are dropped. -/
def ofBits (bits : Nat) : Binary64 where
  negative := bits / signWeight % 2 == 1
  magnitude := bits % signWeight
  magnitude_lt := Nat.mod_lt _ (by decide)

/-- The 64-bit encoding, as a natural number. -/
def toBits (x : Binary64) : Nat := (if x.negative then signWeight else 0) + x.magnitude

/-- The magnitude of infinity: all exponent bits set and no fraction. -/
def infinityMagnitude : Nat := 0x7FF0000000000000

def zero : Binary64 := ⟨false, 0, by decide⟩

def infinity : Binary64 := ⟨false, infinityMagnitude, by decide⟩

/-! ### Classification -/

def isNaN (x : Binary64) : Bool := decide (infinityMagnitude < x.magnitude)

def isFinite (x : Binary64) : Bool := decide (x.magnitude < infinityMagnitude)

def isZero (x : Binary64) : Bool := x.magnitude == 0

/-- Equality of numbers as numbers: the two zeros are equal, and a NaN equals nothing. -/
def equal (x y : Binary64) : Bool :=
  !x.isNaN && !y.isNaN && (decide (x = y) || (x.isZero && y.isZero))

/-! ### Exact value -/

def exponentField (x : Binary64) : Nat := x.magnitude / exponentWeight

/-- The integer `m` of the absolute value `m * 2 ^ e` of a finite number. -/
def significand (x : Binary64) : Nat :=
  if x.exponentField = 0 then x.magnitude else x.magnitude % exponentWeight + exponentWeight

/-- The exponent `e` of the absolute value `m * 2 ^ e` of a finite number. -/
def exponent (x : Binary64) : Int := (max x.exponentField 1 : Nat) - 1075

/-- The absolute value of a finite number. -/
def ratio (x : Binary64) : Ratio := (Ratio.mk x.significand 1).scale 2 x.exponent

/-- The integer that a finite number denotes, if it denotes one. -/
def integer? (x : Binary64) : Option Int :=
  if x.isFinite && x.ratio.numerator % x.ratio.denominator == 0 then
    some (if x.negative then -(x.ratio.floor : Int) else x.ratio.floor)
  else none

end Binary64

end LiteralLang
