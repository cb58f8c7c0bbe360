import LiteralLang.Proofs.Binary64.Rounding

/-!
# Sizes of binary64 numbers

`Binary64.size` is the absolute value that a finite number stands for.  Magnitudes order the sizes,
so a number is its sign and its size, and no number lies between two of neighbouring magnitude.
Infinity has the size that would follow on the greatest finite one.
-/

namespace LiteralLang.Binary64

variable {x y : Binary64}

/-! ### Signs and magnitudes -/

theorem eq_of_magnitude_eq (sign : x.negative = y.negative)
    (magnitude : x.magnitude = y.magnitude) : x = y := by
  obtain ⟨negative, _, _⟩ := x
  obtain ⟨negative', _, _⟩ := y
  simp only at sign magnitude
  subst sign magnitude
  rfl

theorem isFinite_iff : x.isFinite = true ↔ x.magnitude < infinityMagnitude := by
  rw [isFinite, decide_eq_true_iff]

theorem isNaN_eq_false_iff : x.isNaN = false ↔ x.magnitude ≤ infinityMagnitude := by
  rw [isNaN, decide_eq_false_iff_not, not_lt]

theorem isNaN_of_isFinite (finite : x.isFinite = true) : x.isNaN = false :=
  isNaN_eq_false_iff.mpr (isFinite_iff.mp finite).le

/-- Of the numbers that are not finite only infinity is no NaN. -/
theorem magnitude_of_infinite (number : x.isNaN = false) (infinite : x.isFinite = false) :
    x.magnitude = infinityMagnitude := by
  rw [← Bool.not_eq_true, isFinite_iff, not_lt] at infinite
  exact le_antisymm (isNaN_eq_false_iff.mp number) infinite

/-! ### Sizes -/

/-- The absolute value of a finite number. -/
def size (x : Binary64) : ℚ := x.significand * 2 ^ x.exponent

/-- The rational that a finite number stands for. -/
def toRat (x : Binary64) : ℚ := if x.negative then -x.size else x.size

theorem size_nonneg (x : Binary64) : 0 ≤ x.size :=
  mul_nonneg (Nat.cast_nonneg _) (zpow_nonneg (by norm_num) _)

theorem toRat_of_positive (positive : x.negative = false) : x.toRat = x.size := by
  simp [toRat, positive]

theorem toRat_of_negative (negative : x.negative = true) : x.toRat = -x.size := by
  simp [toRat, negative]

theorem abs_toRat (x : Binary64) : |x.toRat| = x.size := by
  cases sign : x.negative with
  | false => rw [toRat_of_positive sign, abs_of_nonneg x.size_nonneg]
  | true => rw [toRat_of_negative sign, abs_neg, abs_of_nonneg x.size_nonneg]

/-! ### Significands and exponents -/

theorem significand_of_subnormal (subnormal : x.exponentField = 0) :
    x.significand = x.magnitude := by
  simp [significand, subnormal]

theorem significand_of_normal (normal : x.exponentField ≠ 0) :
    x.significand = x.magnitude % exponentWeight + exponentWeight := by
  simp [significand, normal]

theorem exponent_of_subnormal (subnormal : x.exponentField = 0) : x.exponent = -1074 := by
  simp [exponent, subnormal]

theorem exponent_of_normal (normal : x.exponentField ≠ 0) :
    x.exponent = x.exponentField - 1075 := by
  rw [exponent, max_eq_left (Nat.one_le_iff_ne_zero.mpr normal)]

theorem magnitude_eq (x : Binary64) :
    x.magnitude = exponentWeight * x.exponentField + x.magnitude % exponentWeight :=
  (Nat.div_add_mod x.magnitude exponentWeight).symm

theorem significand_lt (x : Binary64) : x.significand < 2 ^ 53 := by
  have remainder : x.magnitude % exponentWeight < exponentWeight := Nat.mod_lt _ (by decide)
  have whole := x.magnitude_eq
  by_cases subnormal : x.exponentField = 0
  · rw [significand_of_subnormal subnormal, whole, subnormal]
    simp only [exponentWeight] at remainder ⊢
    omega
  · rw [significand_of_normal subnormal]
    simp only [exponentWeight] at remainder ⊢
    omega

/-- A significand has a leading digit of its own, except in the numbers of least exponent. -/
theorem leading_or_least (x : Binary64) : 2 ^ 52 ≤ x.significand ∨ x.exponent = -1074 := by
  by_cases subnormal : x.exponentField = 0
  · exact Or.inr (exponent_of_subnormal subnormal)
  · left
    rw [significand_of_normal subnormal, exponentWeight]
    omega

theorem least_le_exponent (x : Binary64) : -1074 ≤ x.exponent := by
  rw [exponent]
  omega

/-- Every other magnitude is even, and so is its significand. -/
theorem even_significand_iff (x : Binary64) : Even x.significand ↔ Even x.magnitude := by
  by_cases subnormal : x.exponentField = 0
  · rw [significand_of_subnormal subnormal]
  · have whole := x.magnitude_eq
    rw [significand_of_normal subnormal, Nat.even_iff, Nat.even_iff]
    simp only [exponentWeight] at whole ⊢
    omega

/-! ### Order -/

/-- A significand below the bound is worth less than a leading one with the next exponent. -/
theorem size_lt_of_exponent_lt {e : ℤ} (below : x.exponent < e) : x.size < 2 ^ 52 * 2 ^ e := by
  have short : (x.significand : ℚ) < 2 ^ 53 := by exact_mod_cast x.significand_lt
  have power : (0 : ℚ) < 2 ^ x.exponent := zpow_pos (by norm_num) _
  calc x.size < 2 ^ 53 * 2 ^ x.exponent := mul_lt_mul_of_pos_right short power
    _ = 2 ^ 52 * 2 ^ (x.exponent + 1) := by
        rw [zpow_add₀ (by norm_num), zpow_one]
        ring
    _ ≤ 2 ^ 52 * 2 ^ e :=
        mul_le_mul_of_nonneg_left (zpow_le_zpow_right₀ (by norm_num) below) (by norm_num)

theorem le_size_of_leading (leading : 2 ^ 52 ≤ x.significand) :
    2 ^ 52 * 2 ^ x.exponent ≤ x.size := by
  have leading' : (2 : ℚ) ^ 52 ≤ x.significand := by exact_mod_cast leading
  exact mul_le_mul_of_nonneg_right leading' (zpow_nonneg (by norm_num) _)

theorem exponentField_le (less : x.magnitude < y.magnitude) :
    x.exponentField ≤ y.exponentField := Nat.div_le_div_right less.le

theorem exponent_le (less : x.magnitude < y.magnitude) : x.exponent ≤ y.exponent := by
  have fields := exponentField_le less
  rw [exponent, exponent]
  omega

/-- Among numbers of one exponent the significands are ordered as the magnitudes are. -/
theorem significand_lt_significand (less : x.magnitude < y.magnitude)
    (same : x.exponent = y.exponent) : x.significand < y.significand := by
  have fields := exponentField_le less
  have whole := x.magnitude_eq
  have whole' := y.magnitude_eq
  have remainder : x.magnitude % exponentWeight < exponentWeight := Nat.mod_lt _ (by decide)
  rw [exponent, exponent] at same
  by_cases subnormal : x.exponentField = 0
  · rw [significand_of_subnormal subnormal]
    by_cases subnormal' : y.exponentField = 0
    · rw [significand_of_subnormal subnormal']
      exact less
    · rw [significand_of_normal subnormal', whole, subnormal]
      simp only [exponentWeight] at remainder ⊢
      omega
  · have fieldsEq : x.exponentField = y.exponentField := by omega
    rw [significand_of_normal subnormal, significand_of_normal (fieldsEq ▸ subnormal)]
    rw [fieldsEq] at whole
    omega

/-- Greater magnitudes are greater sizes. -/
theorem size_lt_size (less : x.magnitude < y.magnitude) : x.size < y.size := by
  rcases (exponent_le less).lt_or_eq with below | same
  · have above := x.least_le_exponent
    have leading : 2 ^ 52 ≤ y.significand := by
      rcases y.leading_or_least with leading | least
      · exact leading
      · omega
    exact (size_lt_of_exponent_lt below).trans_le (le_size_of_leading leading)
  · have significands : (x.significand : ℚ) < y.significand := by
      exact_mod_cast significand_lt_significand less same
    rw [size, size, same]
    exact mul_lt_mul_of_pos_right significands (zpow_pos (by norm_num) _)

theorem size_congr (same : x.magnitude = y.magnitude) : x.size = y.size := by
  simp [size, significand, exponent, exponentField, same]

theorem magnitude_eq_of_size_eq (same : x.size = y.size) : x.magnitude = y.magnitude := by
  rcases Nat.lt_trichotomy x.magnitude y.magnitude with less | equal | more
  · exact absurd same (size_lt_size less).ne
  · exact equal
  · exact absurd same (size_lt_size more).ne'

/-- The size of a magnitude that is put together from a place and a multiple of it. -/
theorem size_of_magnitude_eq {steps n : ℕ} (whole : x.magnitude = steps * exponentWeight + n)
    (short : n ≤ 2 ^ 53) (leading : 2 ^ 52 ≤ n ∨ steps = 0) :
    x.size = n * 2 ^ ((steps : ℤ) - 1074) := by
  have field : x.exponentField = (steps * exponentWeight + n) / exponentWeight := by
    rw [exponentField, whole]
  by_cases carried : n = 2 ^ 53
  · -- the significand has become one digit longer and carries into the exponent
    have next : x.exponentField = steps + 2 := by
      rw [field, carried, exponentWeight]
      omega
    have normal : x.exponentField ≠ 0 := by omega
    have significandEq : x.significand = 2 ^ 52 := by
      rw [significand_of_normal normal, whole, carried, exponentWeight]
      omega
    have exponentEq : x.exponent = (steps : ℤ) - 1074 + 1 := by
      rw [exponent_of_normal normal, next]
      push_cast
      ring
    rw [size, significandEq, exponentEq, carried, zpow_add₀ (by norm_num), zpow_one]
    push_cast
    ring
  · have digits : n < 2 ^ 53 := by omega
    by_cases full : 2 ^ 52 ≤ n
    · have next : x.exponentField = steps + 1 := by
        rw [field, exponentWeight]
        omega
      have normal : x.exponentField ≠ 0 := by omega
      have significandEq : x.significand = n := by
        rw [significand_of_normal normal, whole, exponentWeight]
        omega
      have exponentEq : x.exponent = (steps : ℤ) - 1074 := by
        rw [exponent_of_normal normal, next]
        push_cast
        ring
      rw [size, significandEq, exponentEq]
    · obtain rfl : steps = 0 := leading.resolve_left full
      have subnormal : x.exponentField = 0 := by
        rw [field, exponentWeight]
        omega
      rw [size, significand_of_subnormal subnormal, exponent_of_subnormal subnormal, whole]
      simp

end LiteralLang.Binary64
