import LiteralLang.JsonText.Reader

/-!
# Numbers in JSON text

A number without fraction and exponent is an integer if 64 bits hold it.  Every other number is
read as a floating-point number in two roundings: the leading digits that fit 64 bits are rounded
first, and the power of ten scales the result.  Numbers that are passed over need only be well
formed.
-/

namespace LiteralLang

namespace Binary64

/-- The product of the absolute values of finite numbers, rounded once. -/
def timesSize (x y : Binary64) : Binary64 :=
  ofRatio ⟨x.ratio.numerator * y.ratio.numerator, x.ratio.denominator * y.ratio.denominator⟩

/-- The quotient of the absolute values of finite numbers, rounded once; the divisor is not
zero. -/
def overSize (x y : Binary64) : Binary64 :=
  ofRatio ⟨x.ratio.numerator * y.ratio.denominator, x.ratio.denominator * y.ratio.numerator⟩

def powerOfTen (power : Nat) : Binary64 := Decimal.nearest ⟨1, power⟩

end Binary64

namespace JsonText

inductive Numeral where
  | integer (value : Int)
  | fraction (value : Binary64)

/-- The greatest power of ten that a scale step uses. -/
def greatestPower : Nat := 308

/-- A size divided by a power of ten, in steps that a floating-point number can hold.  A 64-bit
integer is zero after two full steps. -/
def dividedByTen : Nat → Binary64 → Nat → Binary64
  | 0, _, _ => .zero
  | steps + 1, size, power =>
      if power ≤ greatestPower then size.overSize (.powerOfTen power)
      else dividedByTen steps (size.overSize (.powerOfTen greatestPower)) (power - greatestPower)

/-- A 64-bit integer scaled by a power of ten, or `none` beyond the finite numbers. -/
def scaled? (significand : Nat) (power : Int) : Option Binary64 :=
  let size := Binary64.ofRatio ⟨significand, 1⟩
  if power < 0 then some (dividedByTen 4 size power.natAbs)
  else if significand = 0 then some size
  else if greatestPower < power.toNat then none
  else (some (size.timesSize (.powerOfTen power.toNat))).filter Binary64.isFinite

/-- Digits appended to a number while 64 bits hold it, and how many were. -/
def appendDigits (significand : Nat) : List Char → Nat × Nat
  | [] => (significand, 0)
  | digit :: more =>
      let longer := significand * 10 + (digit.toNat - '0'.toNat)
      if 0x10000000000000000 ≤ longer then (significand, 0)
      else
        let (result, count) := appendDigits longer more
        (result, count + 1)

/-- How many digits it takes until the number they spell no longer fits 31 bits. -/
def exponentOverflow? (value : Nat) : List Char → Option Nat
  | [] => none
  | digit :: more =>
      let longer := value * 10 + (digit.toNat - '0'.toNat)
      if 0x80000000 ≤ longer then some 1 else (exponentOverflow? longer more).map (· + 1)

namespace Reader

/-- The floating-point number of a sign, a significand and a power of ten. -/
def fraction (negative : Bool) (significand : Nat) (power : Int) : Reader Numeral := do
  match scaled? significand power with
  | none => complain .numberOutOfRange
  | some size => return .fraction (if negative then { size with negative := true } else size)

/-- The digits of an exponent and whether it is negative, behind the exponent mark. -/
def exponentSign : Reader Bool := do
  match ← peek? with
  | some '+' => do
      advance 1
      return false
  | some '-' => do
      advance 1
      return true
  | _ => return false

/-- The number that ends with an exponent, behind the exponent mark. -/
def withExponent (negative : Bool) (significand : Nat) (power : Int) : Reader Numeral := do
  let downward ← exponentSign
  match ← peek? with
  | none => complain .valueCutShort
  | some first =>
      if !first.isDigit then
        advance 1
        complain .invalidNumber
      else
        let before ← get
        let digits ← span Char.isDigit
        match exponentOverflow? 0 digits with
        | some count =>
            if significand = 0 ∨ downward then fraction negative 0 0
            else
              set before
              advance count
              complain .numberOutOfRange
        | none =>
            let size := Decimal.digitsValue digits
            fraction negative significand (if downward then power - size else power + size)

/-- A number behind its sign. -/
def numeral (negative : Bool) : Reader Numeral := do
  match ← peek? with
  | none => complain .valueCutShort
  | some first =>
      if !first.isDigit then
        advance 1
        complain .invalidNumber
      else if first == '0' then advance 1
      else pure ()
      let whole ← if first == '0' then pure ['0'] else span Char.isDigit
      if first == '0' && (← peek?).any Char.isDigit then complainAhead .invalidNumber
      let (significand, kept) := appendDigits 0 whole
      let power : Int := (whole.length - kept : Nat)
      match ← peek? with
      | some '.' => do
          advance 1
          let digits ← span Char.isDigit
          if digits.isEmpty then
            match ← peek? with
            | some _ => complainAhead .invalidNumber
            | none => complainAhead .valueCutShort
          let (significand, kept) := appendDigits significand digits
          let power := power - kept
          match ← peek? with
          | some 'e' | some 'E' => do
              advance 1
              withExponent negative significand power
          | _ => fraction negative significand power
      | some 'e' | some 'E' => do
          advance 1
          withExponent negative significand power
      | _ =>
          if power ≠ 0 then fraction negative significand power
          else if !negative then return .integer significand
          else if significand = 0 ∨ 0x8000000000000000 < significand then
            fraction true significand 0
          else return .integer (-significand)

/-- Passes over the digits behind an exponent mark. -/
def skipExponent : Reader Unit := do
  discard exponentSign
  match ← next? with
  | some c => if c.isDigit then discard (span Char.isDigit) else complain .invalidNumber
  | none => complain .invalidNumber

/-- Passes over a number, behind its sign. -/
def skipNumeral : Reader Unit := do
  match ← next? with
  | none => complain .invalidNumber
  | some first =>
      if first == '0' then
        if (← peek?).any Char.isDigit then complainAhead .invalidNumber
      else if first.isDigit then discard (span Char.isDigit)
      else complain .invalidNumber
  if (← peek?) == some '.' then
    advance 1
    if (← span Char.isDigit).isEmpty then complainAhead .invalidNumber
  match ← peek? with
  | some 'e' | some 'E' => do
      advance 1
      skipExponent
  | _ => return

end Reader

end JsonText

end LiteralLang
