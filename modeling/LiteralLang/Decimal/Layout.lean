import LiteralLang.Decimal.Shortest

/-!
# Number text

The layouts of the shortest decimal of a number.  Plain text never has an exponent and is what the
language reads; data text switches to an exponent away from the size of everyday numbers and always
shows a point or an exponent, so that it cannot be taken for an integer.
-/

namespace LiteralLang

namespace Decimal

def digits (d : Decimal) : List Char := Nat.toDigits 10 d.coefficient

/-- Digits with the point after the first `point` of them; zeros fill up before the first digit. -/
def withPoint (digits : List Char) (point : Int) : List Char :=
  if 0 < point then digits.take point.toNat ++ '.' :: digits.drop point.toNat
  else '0' :: '.' :: (List.replicate (-point).toNat '0' ++ digits)

/-- Positional text: digits, and a point only in front of a fraction. -/
def plain (d : Decimal) : List Char :=
  if 0 ≤ d.exponent then d.digits ++ List.replicate d.exponent.toNat '0'
  else withPoint d.digits (d.digits.length + d.exponent)

/-- Text with the point after the first digit and a power of ten behind `e`. -/
def scientific (digits : List Char) (power : Int) : List Char :=
  let mantissa :=
    match digits with
    | first :: second :: more => first :: '.' :: second :: more
    | few => few
  let sign := if power < 0 then ['-'] else []
  mantissa ++ 'e' :: (sign ++ Nat.toDigits 10 power.natAbs)

/-- Text of a number in data: positional with a point for a leading digit between `10 ^ (-5)` and
`10 ^ 15`, with an exponent otherwise. -/
def data (d : Decimal) : List Char :=
  let point : Int := d.digits.length + d.exponent
  if point ≤ -5 ∨ 16 < point then scientific d.digits (point - 1)
  else if 0 ≤ d.exponent then d.digits ++ List.replicate d.exponent.toNat '0' ++ ['.', '0']
  else withPoint d.digits point

end Decimal

/-- The words for the numbers that have no digits. -/
structure SpecialWords where
  notANumber : String
  infinity : String

namespace Binary64

/-- Sign and digits of a number in plain text, with a rule's words for NaN and infinity.  A NaN has
no sign and a negative zero has one. -/
def plainText (words : SpecialWords) (x : Binary64) : String :=
  if x.isNaN then words.notANumber
  else
    let size := if x.isFinite then String.ofList (x.shortest .upward).plain else words.infinity
    if x.negative then "-" ++ size else size

def codeText (x : Binary64) : String := x.plainText ⟨"NaN", "Infinity"⟩

def displayText (x : Binary64) : String := x.plainText ⟨"NaN", "inf"⟩

/-- Sign and digits of a finite number in data. -/
def dataText (x : Binary64) : String :=
  let size := String.ofList (x.shortest .toEven).data
  if x.negative then "-" ++ size else size

end Binary64

end LiteralLang
