import LiteralLang.Decimal

/-!
# Shortest decimals

The decimal with the fewest digits that reads back to a given binary64 number, and of those the
one nearest to it.  The search goes through the grids of one, two, … seventeen digits and tries the
two neighbours of the number on each grid.  If no grid answers, the exact value does, so what is
returned always reads back.
-/

namespace LiteralLang

/-- Which of two equally near decimals is taken. -/
inductive TieRule where
  | upward
  | toEven
  deriving DecidableEq, Repr

namespace Decimal

/-- The decimal without the trailing zeros of its coefficient, at most `count` of them. -/
def dropZeros : Nat → Decimal → Decimal
  | 0, d => d
  | count + 1, d =>
      if d.coefficient % 10 = 0 then dropZeros count ⟨d.coefficient / 10, d.exponent + 1⟩ else d

/-- The least `k` with the positive ratio below `10 ^ k`.  The binary logarithm gives an estimate
that is at most two too small. -/
def scaleOf (r : Ratio) : Int :=
  let estimate := r.log2 * 30103 / 100000
  if (r.scale 10 (-estimate)).isBelowOne then estimate
  else if (r.scale 10 (-(estimate + 1))).isBelowOne then estimate + 1
  else estimate + 2

/-- The better of the decimals `n * 10 ^ grid` and `(n + 1) * 10 ^ grid` on both sides of a ratio,
where `scaled` is the ratio over `10 ^ grid`. -/
def better (tie : TieRule) (scaled : Ratio) (lower upper : Decimal) : Decimal :=
  match scaled.compareToMiddle, tie with
  | .lt, _ => lower
  | .gt, _ => upper
  | .eq, .upward => upper
  | .eq, .toEven => if lower.coefficient % 2 = 0 then lower else upper

end Decimal

namespace Binary64

/-- The exact absolute value of a finite number as a decimal. -/
def exactDecimal (x : Binary64) : Decimal where
  coefficient := x.significand * Nat.pow 2 x.exponent.toNat * Nat.pow 5 (-x.exponent).toNat
  exponent := min x.exponent 0

/-- The decimal rounds to the absolute value of the number. -/
def readsBack (x : Binary64) (d : Decimal) : Bool := d.nearest.magnitude == x.magnitude

/-- The better neighbour of a number on the grid of the multiples of `10 ^ grid`, of those that
read back. -/
def onGrid? (tie : TieRule) (x : Binary64) (grid : Int) : Option Decimal :=
  let scaled := x.ratio.scale 10 (-grid)
  let lower : Decimal := ⟨scaled.floor, grid⟩
  let upper : Decimal := ⟨scaled.floor + 1, grid⟩
  match x.readsBack lower, x.readsBack upper with
  | true, true => some (Decimal.better tie scaled lower upper)
  | true, false => some lower
  | false, true => some upper
  | false, false => none

/-- The shortest decimal that reads back to the absolute value of a finite number; of several the
nearest, and of two equally near ones that of the rule. -/
def shortest (tie : TieRule) (x : Binary64) : Decimal :=
  if x.isZero then ⟨0, 0⟩ else
    let scale := Decimal.scaleOf x.ratio
    let found := (List.range 17).findSome? fun (fewer : Nat) => x.onGrid? tie (scale - fewer - 1)
    (found.getD x.exactDecimal).dropZeros 17

end Binary64

end LiteralLang
