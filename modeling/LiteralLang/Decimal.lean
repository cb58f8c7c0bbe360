import LiteralLang.Binary64.Rounding

/-!
# Decimals

A `Decimal` is a natural coefficient times a power of ten.  It is what a number in source text
spells, before it is rounded, and what the number printers lay out.  `Decimal.ofText?` reads the
spelling and `Decimal.nearest` rounds it to a binary64 number.
-/

namespace LiteralLang

/-- The non-negative rational `coefficient * 10 ^ exponent`. -/
structure Decimal where
  coefficient : Nat
  exponent : Int
  deriving DecidableEq, Repr

namespace Decimal

/-! ### Reading a spelling -/

/-- The number that decimal digits spell. -/
def digitsValue (digits : List Char) : Nat := Nat.ofDigitChars 10 digits 0

/-- The number that a text spells if it is nothing but digits. -/
def digits? (text : List Char) : Option Nat :=
  if text ≠ [] ∧ text.all Char.isDigit then some (digitsValue text) else none

/-- The exponent part of a spelling: nothing, or `e`, an optional sign and digits. -/
def exponentPart? : List Char → Option Int
  | [] => some 0
  | 'e' :: '+' :: digits => (digits? digits).map Int.ofNat
  | 'e' :: '-' :: digits => (digits? digits).map fun size => -Int.ofNat size
  | 'e' :: digits => (digits? digits).map Int.ofNat
  | _ => none

/-- The decimal that a text spells: digits with at most one point among them and at least one digit
around it, then an optional exponent marked by a small `e`. -/
def ofText? (text : List Char) : Option Decimal :=
  let whole := text.takeWhile Char.isDigit
  let (fraction, rest) :=
    match text.dropWhile Char.isDigit with
    | '.' :: tail => (tail.takeWhile Char.isDigit, tail.dropWhile Char.isDigit)
    | other => ([], other)
  if whole.isEmpty && fraction.isEmpty then none
  else
    (exponentPart? rest).map fun exponent =>
      ⟨digitsValue (whole ++ fraction), exponent - fraction.length⟩

/-! ### Rounding -/

/-- The decimal as a ratio. -/
def ratio (d : Decimal) : Ratio := (Ratio.mk d.coefficient 1).scale 10 d.exponent

/-- The binary64 number nearest to a decimal, ties to even.  A positive decimal of at least
`10 ^ 309` is beyond the overflow threshold and one below `10 ^ (-324)` is less than half the least
positive number, so powers of ten are computed only in between. -/
def nearest (d : Decimal) : Binary64 :=
  if d.coefficient = 0 then .zero
  else if 309 ≤ d.exponent then .infinity
  else if d.exponent + d.coefficient.log2 + 1 ≤ -324 then .zero
  else .ofRatio d.ratio

end Decimal

end LiteralLang
