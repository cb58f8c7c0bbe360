import LiteralLang.Decimal
import LiteralLang.Proofs.Binary64.Rounding

/-!
# Rounding decimals

`Decimal.nearest` computes no power of ten for very large and very small decimals.  These shortcuts
do not show: the result is always that of rounding the exact ratio, so decimals of the same value
round to the same number.
-/

namespace LiteralLang

theorem Binary64.ofRatio_eq {r : Ratio} {x : Binary64} (positive : x.negative = false)
    (same : Binary64.nearestMagnitude r = x.magnitude) : Binary64.ofRatio r = x := by
  obtain ⟨negative, magnitude, bound⟩ := x
  simp only at positive same
  subst positive same
  rfl

namespace Decimal

/-- The rational that a decimal stands for. -/
def toRat (d : Decimal) : ℚ := d.coefficient * 10 ^ d.exponent

theorem ratio_denominator_ne_zero (d : Decimal) : d.ratio.denominator ≠ 0 :=
  Ratio.scale_denominator_ne_zero (by decide) _ one_ne_zero

theorem toRat_ratio (d : Decimal) : d.ratio.toRat = d.toRat := by
  rw [ratio, Ratio.toRat_scale (by decide), Ratio.toRat, toRat]
  norm_num

theorem ratio_numerator_ne_zero {d : Decimal} (positive : d.coefficient ≠ 0) :
    d.ratio.numerator ≠ 0 :=
  Nat.mul_ne_zero positive (pow_ne_zero _ (by decide))

theorem le_toRat_of_le_exponent {d : Decimal} (positive : d.coefficient ≠ 0)
    (large : 309 ≤ d.exponent) : (2 : ℚ) ^ (1024 : ℤ) ≤ d.toRat := by
  have one : (1 : ℚ) ≤ d.coefficient := by exact_mod_cast Nat.one_le_iff_ne_zero.mpr positive
  have powers : 2 ^ 1024 ≤ 10 ^ 309 := by decide +kernel
  calc (2 : ℚ) ^ (1024 : ℤ) ≤ 10 ^ (309 : ℤ) := by
        rw [zpow_ofNat, zpow_ofNat]
        exact_mod_cast powers
    _ ≤ 10 ^ d.exponent := zpow_le_zpow_right₀ (by norm_num) large
    _ ≤ d.toRat := le_mul_of_one_le_left (zpow_nonneg (by norm_num) _) one

theorem toRat_lt_of_exponent_le {d : Decimal}
    (small : d.exponent + d.coefficient.log2 + 1 ≤ -324) : d.toRat < (2 : ℚ) ^ (-1075 : ℤ) := by
  have powers : 2 ^ 1075 < 10 ^ 324 := by decide +kernel
  have ten : (0 : ℚ) < 10 ^ d.exponent := zpow_pos (by norm_num) _
  have digits : (d.coefficient : ℚ) < 10 ^ ((d.coefficient.log2 + 1 : ℕ) : ℤ) := by
    rw [zpow_natCast]
    have : (d.coefficient : ℚ) < 2 ^ (d.coefficient.log2 + 1) := by
      exact_mod_cast Nat.lt_log2_self (n := d.coefficient)
    exact this.trans_le (pow_le_pow_left₀ (by norm_num) (by norm_num) _)
  calc d.toRat < 10 ^ ((d.coefficient.log2 + 1 : ℕ) : ℤ) * 10 ^ d.exponent :=
        mul_lt_mul_of_pos_right digits ten
    _ = 10 ^ (((d.coefficient.log2 + 1 : ℕ) : ℤ) + d.exponent) :=
        (zpow_add₀ (by norm_num) _ _).symm
    _ ≤ 10 ^ (-324 : ℤ) := zpow_le_zpow_right₀ (by norm_num) (by push_cast; omega)
    _ < 2 ^ (-1075 : ℤ) := by
        rw [zpow_neg, zpow_neg, zpow_ofNat, zpow_ofNat]
        exact inv_strictAnti₀ (by positivity) (by exact_mod_cast powers)

/-- Rounding a decimal is rounding its ratio, whichever shortcut is taken. -/
theorem nearest_eq_ofRatio (d : Decimal) : d.nearest = .ofRatio d.ratio := by
  have hd := ratio_denominator_ne_zero d
  unfold nearest
  split
  case isTrue zero =>
    refine (Binary64.ofRatio_eq rfl ?_).symm
    have numerator : d.ratio.numerator = 0 := by
      simp [ratio, Ratio.scale, zero]
    rw [Binary64.nearestMagnitude, if_pos numerator]
    rfl
  case isFalse positive =>
    split
    case isTrue large =>
      refine (Binary64.ofRatio_eq rfl ?_).symm
      refine Binary64.nearestMagnitude_of_le (ratio_numerator_ne_zero positive) hd ?_
      rw [toRat_ratio]
      exact le_toRat_of_le_exponent positive large
    case isFalse =>
      split
      case isTrue small =>
        refine (Binary64.ofRatio_eq rfl ?_).symm
        refine Binary64.nearestMagnitude_eq_zero hd ?_
        rw [toRat_ratio]
        exact toRat_lt_of_exponent_le small
      case isFalse => rfl

theorem nearest_negative (d : Decimal) : d.nearest.negative = false := by
  rw [nearest_eq_ofRatio]
  rfl

/-- Decimals of the same value round to the same number. -/
theorem nearest_congr {d e : Decimal} (same : d.toRat = e.toRat) : d.nearest = e.nearest := by
  rw [nearest_eq_ofRatio, nearest_eq_ofRatio]
  refine Binary64.ofRatio_eq rfl ?_
  refine Binary64.nearestMagnitude_congr (ratio_denominator_ne_zero d)
    (ratio_denominator_ne_zero e) ?_
  rw [toRat_ratio, toRat_ratio, same]

end Decimal

end LiteralLang
