import LiteralLang.Decimal.Shortest
import LiteralLang.Proofs.Decimal.Nearest

/-!
# Shortest decimals read back

Whichever grid the search stops at, and whichever of two neighbours it takes there, the shortest
decimal of a finite number rounds to that number.
-/

namespace LiteralLang

namespace Decimal

/-- Zeros at the end of the coefficient do not change the value. -/
theorem toRat_dropZeros (count : ℕ) (d : Decimal) : (d.dropZeros count).toRat = d.toRat := by
  induction count generalizing d with
  | zero => rfl
  | succ count ih =>
    unfold dropZeros
    split
    case isTrue divisible =>
      rw [ih, toRat, toRat]
      have whole : d.coefficient = d.coefficient / 10 * 10 := by omega
      conv_rhs => rw [whole]
      rw [zpow_add₀ (by norm_num), zpow_one]
      push_cast
      ring
    case isFalse => rfl

end Decimal

namespace Binary64

variable {tie : TieRule} {x : Binary64} {d : Decimal}

theorem readsBack_iff : x.readsBack d = true ↔ d.nearest.magnitude = x.magnitude := by
  rw [readsBack, beq_iff_eq]

theorem readsBack_congr {e : Decimal} (same : d.toRat = e.toRat) :
    x.readsBack d = x.readsBack e := by
  rw [readsBack, readsBack, Decimal.nearest_congr same]

theorem readsBack_of_onGrid? {grid : ℤ} (found : x.onGrid? tie grid = some d) :
    x.readsBack d = true := by
  unfold onGrid? at found
  dsimp only at found
  split at found
  case h_1 lower upper =>
    obtain rfl := Option.some.inj found
    unfold Decimal.better
    split
    · exact lower
    · exact upper
    · exact upper
    · split
      · exact lower
      · exact upper
  case h_2 lower _ => exact Option.some.inj found ▸ lower
  case h_3 _ upper => exact Option.some.inj found ▸ upper
  case h_4 => exact absurd found (by simp)

theorem toRat_exactDecimal (x : Binary64) :
    x.exactDecimal.toRat = x.significand * 2 ^ x.exponent := by
  rw [Decimal.toRat, exactDecimal]
  simp only [Nat.pow_eq]
  rcases le_or_gt 0 x.exponent with whole | fraction
  · have opposite : (-x.exponent).toNat = 0 := by omega
    rw [min_eq_right whole, opposite, zpow_zero, pow_zero, mul_one, mul_one]
    conv_rhs => rw [← Int.toNat_of_nonneg whole]
    rw [zpow_natCast]
    push_cast
    ring
  · have none : x.exponent.toNat = 0 := by omega
    have five : (5 : ℚ) ^ (-x.exponent).toNat * 5 ^ x.exponent = 1 := by
      rw [← zpow_natCast, Int.toNat_of_nonneg (by omega), ← zpow_add₀ (by norm_num),
        neg_add_cancel, zpow_zero]
    rw [min_eq_left fraction.le, none, pow_zero, mul_one]
    rw [show (10 : ℚ) = 5 * 2 by norm_num, mul_zpow]
    push_cast
    calc (x.significand : ℚ) * 5 ^ (-x.exponent).toNat * (5 ^ x.exponent * 2 ^ x.exponent)
        = x.significand * (5 ^ (-x.exponent).toNat * 5 ^ x.exponent) * 2 ^ x.exponent := by ring
      _ = x.significand * 2 ^ x.exponent := by rw [five, mul_one]

theorem readsBack_exactDecimal (finite : x.isFinite = true) :
    x.readsBack x.exactDecimal = true := by
  rw [readsBack_iff, Decimal.nearest_eq_ofRatio]
  change nearestMagnitude x.exactDecimal.ratio = x.magnitude
  rw [← nearestMagnitude_ratio finite]
  refine nearestMagnitude_congr (Decimal.ratio_denominator_ne_zero _)
    (ratio_denominator_ne_zero x) ?_
  rw [Decimal.toRat_ratio, toRat_exactDecimal, toRat_ratio]

theorem readsBack_shortest (finite : x.isFinite = true) :
    x.readsBack (x.shortest tie) = true := by
  unfold shortest
  split
  case isTrue zero =>
    rw [readsBack_iff]
    exact (beq_iff_eq.mp zero).symm
  case isFalse =>
    rw [readsBack_congr (Decimal.toRat_dropZeros 17 _)]
    cases found : (List.range 17).findSome? fun fewer : ℕ =>
        x.onGrid? tie (Decimal.scaleOf x.ratio - fewer - 1) with
    | none => exact readsBack_exactDecimal finite
    | some d =>
      obtain ⟨fewer, -, hit⟩ := List.exists_of_findSome?_eq_some found
      exact readsBack_of_onGrid? hit

/-- The shortest decimal of a finite number without a sign rounds to it. -/
theorem nearest_shortest (finite : x.isFinite = true) (positive : x.negative = false) :
    (x.shortest tie).nearest = x := by
  have same := readsBack_iff.mp (@readsBack_shortest tie x finite)
  rw [Decimal.nearest_eq_ofRatio] at same ⊢
  exact ofRatio_eq positive same

end Binary64

end LiteralLang
