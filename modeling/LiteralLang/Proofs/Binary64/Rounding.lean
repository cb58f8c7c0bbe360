import LiteralLang.Binary64.Rounding
import LiteralLang.Proofs.Ratio
import Mathlib.Tactic.Ring

/-!
# Rounding to binary64 numbers

`nearestMagnitude` depends on nothing but the rational that a ratio stands for, and it takes the
exact value of a finite number back to that number.  The two ends of the range are settled here as
well: everything from `2 ^ 1024` on is infinite, and everything below `2 ^ (-1075)` is zero.
-/

namespace LiteralLang.Binary64

variable {r s : Ratio}

theorem placeExponent_eq (hn : r.numerator ≠ 0) (hd : r.denominator ≠ 0) :
    placeExponent r = max (Int.log 2 r.toRat - 52) (-1074) := by
  rw [placeExponent, Ratio.log2_eq hn hd, leastExponent]

/-- The magnitude of a positive ratio, from its place and its rounded multiple of that place. -/
theorem exists_nearestMagnitude_eq (hn : r.numerator ≠ 0) (hd : r.denominator ≠ 0) :
    ∃ n, IsNearestEven (r.toRat * 2 ^ (-placeExponent r)) n ∧
      nearestMagnitude r =
        min infinityMagnitude ((placeExponent r + 1074).toNat * exponentWeight + n) := by
  refine ⟨(r.scale 2 (-placeExponent r)).roundHalfEven, ?_, ?_⟩
  · have nearest := Ratio.roundHalfEven_isNearestEven
      (Ratio.scale_denominator_ne_zero (by decide : 2 ≠ 0) (-placeExponent r) hd)
    rwa [Ratio.toRat_scale (by decide)] at nearest
  · simp only [nearestMagnitude, if_neg hn, leastExponent, sub_neg_eq_add]

/-- The magnitude depends only on the rational. -/
theorem nearestMagnitude_congr (hr : r.denominator ≠ 0) (hs : s.denominator ≠ 0)
    (same : r.toRat = s.toRat) : nearestMagnitude r = nearestMagnitude s := by
  have zero {t : Ratio} (ht : t.denominator ≠ 0) : t.numerator = 0 ↔ t.toRat = 0 := by
    simp [Ratio.toRat, ht]
  by_cases hn : r.numerator = 0
  · have hn' : s.numerator = 0 := by rw [zero hs, ← same, ← zero hr, hn]
    rw [nearestMagnitude, nearestMagnitude, if_pos hn, if_pos hn']
  · have hn' : s.numerator ≠ 0 := by rwa [Ne, zero hs, ← same, ← zero hr]
    obtain ⟨m, hm, leftEq⟩ := exists_nearestMagnitude_eq hn hr
    obtain ⟨n, hn, rightEq⟩ := exists_nearestMagnitude_eq hn' hs
    have place : placeExponent r = placeExponent s := by
      rw [placeExponent_eq ‹_› hr, placeExponent_eq hn' hs, same]
    rw [← same, ← place] at hn
    rw [leftEq, rightEq, place, hm.unique hn]

/-! ### The ends of the range -/

theorem nearestMagnitude_of_le (hn : r.numerator ≠ 0) (hd : r.denominator ≠ 0)
    (large : (2 : ℚ) ^ (1024 : ℤ) ≤ r.toRat) : nearestMagnitude r = infinityMagnitude := by
  obtain ⟨n, hn', equation⟩ := exists_nearestMagnitude_eq hn hd
  have positive := Ratio.toRat_pos hn hd
  have logLe : 1024 ≤ Int.log 2 r.toRat :=
    (Int.zpow_le_iff_le_log (by decide) positive).mp (by exact_mod_cast large)
  have place := placeExponent_eq hn hd
  have placeValue : placeExponent r = Int.log 2 r.toRat - 52 := by omega
  have leading : ((2 ^ 52 : ℕ) : ℚ) ≤ r.toRat * 2 ^ (-placeExponent r) := by
    have logPow : (2 : ℚ) ^ Int.log 2 r.toRat ≤ r.toRat := by
      exact_mod_cast Int.zpow_log_le_self (b := 2) (by decide) positive
    calc ((2 ^ 52 : ℕ) : ℚ) = 2 ^ (Int.log 2 r.toRat + -placeExponent r) := by
          rw [placeValue, show Int.log 2 r.toRat + -(Int.log 2 r.toRat - 52) = (52 : ℕ) by omega,
            zpow_natCast]
          norm_num
      _ = 2 ^ Int.log 2 r.toRat * 2 ^ (-placeExponent r) := zpow_add₀ (by norm_num) _ _
      _ ≤ r.toRat * 2 ^ (-placeExponent r) :=
          mul_le_mul_of_nonneg_right logPow (zpow_nonneg (by norm_num) _)
  have below := hn'.le_of_le leading
  rw [equation, min_eq_left]
  have steps : 2046 ≤ (placeExponent r + 1074).toNat := by omega
  have product := Nat.mul_le_mul_right exponentWeight steps
  rw [exponentWeight] at product ⊢
  rw [infinityMagnitude]
  omega

theorem nearestMagnitude_eq_zero (hd : r.denominator ≠ 0)
    (small : r.toRat < (2 : ℚ) ^ (-1075 : ℤ)) : nearestMagnitude r = 0 := by
  by_cases hn : r.numerator = 0
  · rw [nearestMagnitude, if_pos hn]
  obtain ⟨n, hn', equation⟩ := exists_nearestMagnitude_eq hn hd
  have logLt : Int.log 2 r.toRat < -1075 :=
    (Int.lt_zpow_iff_log_lt (by decide) (Ratio.toRat_pos hn hd)).mp (by exact_mod_cast small)
  have place := placeExponent_eq hn hd
  have placeValue : placeExponent r = -1074 := by omega
  have half : r.toRat * 2 ^ (-placeExponent r) < 1 / 2 := by
    calc r.toRat * 2 ^ (-placeExponent r)
        < (2 : ℚ) ^ (-1075 : ℤ) * 2 ^ (-placeExponent r) :=
          mul_lt_mul_of_pos_right small (zpow_pos (by norm_num) _)
      _ = 2 ^ (-1 : ℤ) := by
          rw [placeValue, ← zpow_add₀ (by norm_num)]
          norm_num
      _ = 1 / 2 := by norm_num
  rw [equation, hn'.eq_zero_of_lt half, placeValue]
  decide

/-! ### Exact values -/

/-- A multiple of a place that has the right number of digits for it is not changed. -/
theorem nearestMagnitude_of_eq_mul {m : ℕ} {e : ℤ} (hd : r.denominator ≠ 0)
    (value : r.toRat = m * 2 ^ e) (hm : m ≠ 0) (short : m < 2 ^ 53) (least : -1074 ≤ e)
    (leading : 2 ^ 52 ≤ m ∨ e = -1074) :
    nearestMagnitude r = min infinityMagnitude ((e + 1074).toNat * exponentWeight + m) := by
  have two : (2 : ℚ) ≠ 0 := by norm_num
  have power : (0 : ℚ) < 2 ^ e := zpow_pos (by norm_num) e
  have positive : 0 < r.toRat := by
    rw [value]
    have : (0 : ℚ) < m := by exact_mod_cast Nat.pos_of_ne_zero hm
    positivity
  have hn : r.numerator ≠ 0 := by
    intro zero
    simp [Ratio.toRat, zero] at positive
  have logLt : Int.log 2 r.toRat < e + 53 := by
    rw [← Int.lt_zpow_iff_log_lt (by decide) positive, value, Nat.cast_ofNat, add_comm,
      zpow_add₀ two]
    have : (m : ℚ) < 2 ^ (53 : ℤ) := by exact_mod_cast short
    exact mul_lt_mul_of_pos_right this power
  have place : placeExponent r = e := by
    rw [placeExponent_eq hn hd]
    rcases leading with leading | rfl
    · have logLe : e + 52 ≤ Int.log 2 r.toRat := by
        rw [← Int.zpow_le_iff_le_log (by decide) positive, value, Nat.cast_ofNat, add_comm,
          zpow_add₀ two]
        have : (2 : ℚ) ^ (52 : ℤ) ≤ m := by exact_mod_cast leading
        exact mul_le_mul_of_nonneg_right this power.le
      omega
    · omega
  obtain ⟨n, hn', equation⟩ := exists_nearestMagnitude_eq hn hd
  have cancelled : r.toRat * 2 ^ (-placeExponent r) = m := by
    rw [place, value, mul_assoc, ← zpow_add₀ two, add_neg_cancel, zpow_zero, mul_one]
  rw [cancelled] at hn'
  rw [equation, place, hn'.unique (IsNearestEven.natCast m)]

theorem toRat_ratio (x : Binary64) : x.ratio.toRat = x.significand * 2 ^ x.exponent := by
  rw [ratio, Ratio.toRat_scale (by decide), Ratio.toRat]
  norm_num

theorem ratio_denominator_ne_zero (x : Binary64) : x.ratio.denominator ≠ 0 :=
  Ratio.scale_denominator_ne_zero (by decide) _ one_ne_zero

/-- Below the least exponent the magnitude itself is the significand. -/
theorem nearestMagnitude_ratio_subnormal {x : Binary64} (finite : x.magnitude < infinityMagnitude)
    (nonzero : x.magnitude ≠ 0) (subnormal : x.exponentField = 0) :
    nearestMagnitude x.ratio = x.magnitude := by
  have division := Nat.div_add_mod x.magnitude exponentWeight
  have remainder : x.magnitude % exponentWeight < exponentWeight := Nat.mod_lt _ (by decide)
  have significandEq : x.significand = x.magnitude := by rw [significand, if_pos subnormal]
  have exponentEq : x.exponent = -1074 := by
    rw [exponent, subnormal]
    decide
  have small : x.magnitude < exponentWeight := by
    rw [exponentField] at subnormal
    rw [subnormal, mul_zero, zero_add] at division
    omega
  have value := toRat_ratio x
  rw [significandEq, exponentEq] at value
  rw [exponentWeight] at small
  rw [nearestMagnitude_of_eq_mul (ratio_denominator_ne_zero x) value nonzero (by omega) le_rfl
    (Or.inr rfl)]
  simp only [Int.reduceNeg, neg_add_cancel, Int.toNat_zero, zero_mul, zero_add]
  exact min_eq_right finite.le

/-- Above it the significand has a leading digit of its own, which carries into the exponent. -/
theorem nearestMagnitude_ratio_normal {x : Binary64} (finite : x.magnitude < infinityMagnitude)
    (normal : x.exponentField ≠ 0) : nearestMagnitude x.ratio = x.magnitude := by
  have division := Nat.div_add_mod x.magnitude exponentWeight
  have remainder : x.magnitude % exponentWeight < exponentWeight := Nat.mod_lt _ (by decide)
  have significandEq : x.significand = x.magnitude % exponentWeight + exponentWeight := by
    rw [significand, if_neg normal]
  have exponentEq : x.exponent = x.exponentField - 1075 := by
    rw [exponent, max_eq_left (by omega)]
  have value := toRat_ratio x
  rw [exponentEq] at value
  have equation := nearestMagnitude_of_eq_mul (ratio_denominator_ne_zero x) value
    (by rw [significandEq, exponentWeight]; omega)
    (by rw [significandEq]; rw [exponentWeight] at remainder ⊢; omega)
    (by omega)
    (Or.inl (by rw [significandEq, exponentWeight]; omega))
  obtain ⟨steps, field⟩ := Nat.exists_eq_succ_of_ne_zero normal
  have place : ((x.exponentField : ℤ) - 1075 + 1074).toNat = steps := by omega
  have recomposed : steps * exponentWeight + x.significand = x.magnitude := by
    calc steps * exponentWeight + x.significand
        = exponentWeight * (steps + 1) + x.magnitude % exponentWeight := by
          rw [significandEq]
          ring
      _ = exponentWeight * (x.magnitude / exponentWeight) + x.magnitude % exponentWeight := by
          rw [← Nat.succ_eq_add_one, ← field, exponentField]
      _ = x.magnitude := division
  rw [equation, place, recomposed]
  exact min_eq_right finite.le

/-- The exact value of a finite number rounds to the number. -/
theorem nearestMagnitude_ratio {x : Binary64} (finite : x.isFinite = true) :
    nearestMagnitude x.ratio = x.magnitude := by
  have below : x.magnitude < infinityMagnitude := by simpa [isFinite] using finite
  by_cases zero : x.magnitude = 0
  · have numerator : x.ratio.numerator = 0 := by
      simp [ratio, Ratio.scale, significand, exponentField, zero]
    rw [nearestMagnitude, if_pos numerator, zero]
  by_cases subnormal : x.exponentField = 0
  · exact nearestMagnitude_ratio_subnormal below zero subnormal
  · exact nearestMagnitude_ratio_normal below subnormal

end LiteralLang.Binary64
