import LiteralLang.Proofs.Binary64.Order
import LiteralLang.Proofs.Decimal.Nearest

/-!
# The nearest binary64 number

`IsNearest` says which number a rational is rounded to: none is nearer, of two equally near ones it
is the one with the even significand, and from half a place above the greatest finite number on it
is infinity.  Every rational has one such number at most, it depends on the rational monotonically,
and it is the one that `nearestMagnitude` finds.
-/

namespace LiteralLang.Binary64

/-- Half a place above the greatest finite number. -/
def overflowThreshold : ℚ := 2 ^ 1024 - 2 ^ 970

/-- The rational is rounded to the number: to the nearest one, a tie going to the one with the even
significand, and to infinity from the threshold on.  The sign is that of the rational. -/
structure IsNearest (q : ℚ) (x : Binary64) : Prop where
  sign : x.negative = decide (q < 0)
  number : x.isNaN = false
  finite_iff : x.isFinite = true ↔ |q| < overflowThreshold
  nearest : x.isFinite = true → ∀ y : Binary64, y.isFinite = true → |q - x.toRat| ≤ |q - y.toRat|
  even : x.isFinite = true → ∀ y : Binary64, y.isFinite = true →
    |q - y.toRat| = |q - x.toRat| → y.toRat ≠ x.toRat → Even x.significand

variable {q q' : ℚ} {x y : Binary64} {r : Ratio} {place : ℤ} {n : ℕ}

/-! ### Places -/

/-- The natural is the nearest multiple of a place that has fifty-three digits for the rational, or
fewer if it is the last place of all. -/
structure Placed (q : ℚ) (place : ℤ) (n : ℕ) : Prop where
  least : -1074 ≤ place
  nearest : IsNearestEven (q * 2 ^ (-place)) n
  short : q * 2 ^ (-place) < 2 ^ 53
  leading : 2 ^ 52 ≤ q * 2 ^ (-place) ∨ place = -1074

/-- The magnitude of a multiple of a place, without an end at infinity. -/
def placedMagnitude (place : ℤ) (n : ℕ) : ℕ := (place + 1074).toNat * exponentWeight + n

theorem exists_placed (hn : r.numerator ≠ 0) (hd : r.denominator ≠ 0) :
    ∃ place n, Placed r.toRat place n ∧
      nearestMagnitude r = min infinityMagnitude (placedMagnitude place n) := by
  have two : (2 : ℚ) ≠ 0 := by norm_num
  obtain ⟨n, nearest, equation⟩ := exists_nearestMagnitude_eq hn hd
  have positive := Ratio.toRat_pos hn hd
  have lower : (2 : ℚ) ^ Int.log 2 r.toRat ≤ r.toRat := by
    exact_mod_cast Int.zpow_log_le_self (b := 2) (by decide) positive
  have upper : r.toRat < (2 : ℚ) ^ (Int.log 2 r.toRat + 1) := by
    exact_mod_cast Int.lt_zpow_succ_log_self (b := 2) (by decide) r.toRat
  have place := placeExponent_eq hn hd
  have scale : (0 : ℚ) < 2 ^ (-placeExponent r) := zpow_pos (by norm_num) _
  refine ⟨placeExponent r, n, ⟨by omega, nearest, ?_, ?_⟩, equation⟩
  · calc r.toRat * 2 ^ (-placeExponent r)
        < 2 ^ (Int.log 2 r.toRat + 1) * 2 ^ (-placeExponent r) :=
          mul_lt_mul_of_pos_right upper scale
      _ = 2 ^ (Int.log 2 r.toRat + 1 + -placeExponent r) := (zpow_add₀ two _ _).symm
      _ ≤ 2 ^ (53 : ℤ) := zpow_le_zpow_right₀ (by norm_num) (by omega)
      _ = 2 ^ 53 := by norm_num
  · by_cases last : placeExponent r = -1074
    · exact Or.inr last
    · left
      calc (2 : ℚ) ^ 52 = 2 ^ (Int.log 2 r.toRat + -placeExponent r) := by
            rw [show Int.log 2 r.toRat + -placeExponent r = (52 : ℕ) by omega, zpow_natCast]
        _ = 2 ^ Int.log 2 r.toRat * 2 ^ (-placeExponent r) := zpow_add₀ two _ _
        _ ≤ r.toRat * 2 ^ (-placeExponent r) := mul_le_mul_of_nonneg_right lower scale.le

namespace Placed

theorem multiple_le (placed : Placed q place n) : n ≤ 2 ^ 53 := by
  have near := abs_le.mp placed.nearest.1
  have short := placed.short
  have close : (n : ℚ) < (2 ^ 53 + 1 : ℕ) := by
    push_cast
    linarith
  have : n < 2 ^ 53 + 1 := by exact_mod_cast close
  omega

theorem leading_multiple (placed : Placed q place n) : 2 ^ 52 ≤ n ∨ place = -1074 := by
  rcases placed.leading with leading | last
  · left
    apply placed.nearest.le_of_le
    exact_mod_cast leading
  · exact Or.inr last

theorem scaled_mul (place : ℤ) (q : ℚ) : q * 2 ^ (-place) * 2 ^ place = q := by
  rw [mul_assoc, ← zpow_add₀ (by norm_num), neg_add_cancel, zpow_zero, mul_one]

theorem size_eq (placed : Placed q place n) (whole : x.magnitude = placedMagnitude place n) :
    x.size = n * 2 ^ place := by
  have least := placed.least
  have leading : 2 ^ 52 ≤ n ∨ (place + 1074).toNat = 0 := by
    rcases placed.leading_multiple with leading | last
    · exact Or.inl leading
    · right
      omega
  rw [size_of_magnitude_eq whole placed.multiple_le leading]
  congr 2
  omega

/-! ### Distances -/

theorem dist_eq (q : ℚ) (place : ℤ) (j : ℕ) :
    |q - j * 2 ^ place| = |q * 2 ^ (-place) - j| * 2 ^ place := by
  have positive : (0 : ℚ) < 2 ^ place := zpow_pos (by norm_num) _
  conv_lhs => rw [← scaled_mul place q, ← sub_mul, abs_mul, abs_of_pos positive]

/-- A size is a multiple of a place that is no finer than its own last place. -/
theorem exists_size_eq_mul (fine : place ≤ y.exponent) : ∃ j : ℕ, y.size = j * 2 ^ place := by
  refine ⟨y.significand * 2 ^ (y.exponent - place).toNat, ?_⟩
  have power : (2 : ℚ) ^ (y.exponent - place).toNat * 2 ^ place = 2 ^ y.exponent := by
    rw [← zpow_natCast, ← zpow_add₀ (by norm_num)]
    congr 1
    omega
  rw [size]
  push_cast
  rw [mul_assoc, power]

/-- The multiple is nearer than a size with a finer last place. -/
theorem dist_lt (placed : Placed q place n) (finer : y.exponent < place) :
    |q - n * 2 ^ place| < |q - y.size| := by
  have positive : (0 : ℚ) < 2 ^ place := zpow_pos (by norm_num) _
  have least := y.least_le_exponent
  have leading : 2 ^ 52 ≤ q * 2 ^ (-place) := by
    rcases placed.leading with leading | last
    · exact leading
    · omega
  have below := size_lt_of_exponent_lt finer
  have above : 2 ^ 52 * 2 ^ place ≤ q := by
    have scaled := mul_le_mul_of_nonneg_right leading positive.le
    rwa [scaled_mul] at scaled
  obtain ⟨first, isFirst⟩ : ∃ first : ℕ, (first : ℚ) = 2 ^ 52 := ⟨2 ^ 52, by norm_num⟩
  have nearer := mul_le_mul_of_nonneg_right (placed.nearest.dist_le first) positive.le
  rw [← dist_eq, ← dist_eq, isFirst] at nearer
  calc |q - n * 2 ^ place| ≤ |q - 2 ^ 52 * 2 ^ place| := nearer
    _ = q - 2 ^ 52 * 2 ^ place := abs_of_nonneg (by linarith)
    _ < q - y.size := by linarith
    _ ≤ |q - y.size| := le_abs_self _

/-- No size is nearer than the multiple, and if another one is as near, the multiple is even. -/
theorem dist_le (placed : Placed q place n) (y : Binary64) :
    |q - n * 2 ^ place| ≤ |q - y.size| ∧
      (|q - y.size| = |q - n * 2 ^ place| → y.size ≠ n * 2 ^ place → Even n) := by
  have positive : (0 : ℚ) < 2 ^ place := zpow_pos (by norm_num) _
  rcases le_or_gt place y.exponent with fine | finer
  · obtain ⟨j, multiple⟩ := exists_size_eq_mul fine
    rw [multiple, dist_eq, dist_eq]
    refine ⟨mul_le_mul_of_nonneg_right (placed.nearest.dist_le j) positive.le, ?_⟩
    intro tie different
    apply placed.nearest.even_of_dist_eq (mul_right_cancel₀ positive.ne' tie)
    rintro rfl
    exact different rfl
  · have nearer := placed.dist_lt finer
    refine ⟨nearer.le, ?_⟩
    intro tie
    exact absurd tie nearer.ne'

/-! ### Overflow -/

theorem overflowThreshold_eq : overflowThreshold = (2 ^ 53 - 1 / 2) * 2 ^ (971 : ℤ) := by
  have split : (2 : ℚ) ^ 1024 = 2 ^ 54 * 2 ^ 970 := pow_add 2 54 970
  have next : (2 : ℚ) ^ (971 : ℤ) = 2 ^ 970 * 2 := by
    rw [show (971 : ℤ) = (970 : ℕ) + 1 by norm_num, zpow_add₀ (by norm_num), zpow_natCast,
      zpow_one]
  rw [overflowThreshold, split, next]
  generalize (2 : ℚ) ^ 970 = half
  ring

theorem lt_overflowThreshold (placed : Placed q place n) (small : place ≤ 970) :
    q < overflowThreshold := by
  have power : (0 : ℚ) < 2 ^ place := zpow_pos (by norm_num) _
  have below := mul_lt_mul_of_pos_right placed.short power
  rw [scaled_mul] at below
  calc q < 2 ^ 53 * 2 ^ place := below
    _ ≤ 2 ^ 53 * 2 ^ (970 : ℤ) :=
        mul_le_mul_of_nonneg_left (zpow_le_zpow_right₀ (by norm_num) small) (by norm_num)
    _ = 2 ^ 52 * 2 ^ (971 : ℤ) := by
        rw [show (971 : ℤ) = 970 + 1 by norm_num, zpow_add₀ (by norm_num), zpow_one]
        ring
    _ ≤ (2 ^ 53 - 1 / 2) * 2 ^ (971 : ℤ) :=
        mul_le_mul_of_nonneg_right (by norm_num) (zpow_nonneg (by norm_num) _)
    _ = overflowThreshold := overflowThreshold_eq.symm

theorem overflowThreshold_le (leading : 2 ^ 52 ≤ q * 2 ^ (-place)) (large : 972 ≤ place) :
    overflowThreshold ≤ q := by
  have power : (0 : ℚ) < 2 ^ place := zpow_pos (by norm_num) _
  have above := mul_le_mul_of_nonneg_right leading power.le
  rw [scaled_mul] at above
  calc overflowThreshold = (2 ^ 53 - 1 / 2) * 2 ^ (971 : ℤ) := overflowThreshold_eq
    _ ≤ 2 ^ 53 * 2 ^ (971 : ℤ) :=
        mul_le_mul_of_nonneg_right (by norm_num) (zpow_nonneg (by norm_num) _)
    _ = 2 ^ 52 * 2 ^ (972 : ℤ) := by
        rw [show (972 : ℤ) = 971 + 1 by norm_num, zpow_add₀ (by norm_num), zpow_one]
        ring
    _ ≤ 2 ^ 52 * 2 ^ place :=
        mul_le_mul_of_nonneg_left (zpow_le_zpow_right₀ (by norm_num) large) (by norm_num)
    _ ≤ q := above

/-- The magnitude reaches that of infinity exactly from the threshold on. -/
theorem infinityMagnitude_le_iff (placed : Placed q place n) :
    infinityMagnitude ≤ placedMagnitude place n ↔ overflowThreshold ≤ q := by
  have least := placed.least
  have multiple := placed.multiple_le
  rw [infinityMagnitude, placedMagnitude, exponentWeight]
  rcases lt_trichotomy place 971 with small | rfl | large
  · -- one place less, and even the greatest multiple stays below
    have below := placed.lt_overflowThreshold (by omega)
    exact iff_of_false (by omega) (not_le_of_gt below)
  · have even : Even (2 ^ 53) := ⟨2 ^ 52, by norm_num⟩
    have reached := placed.nearest.le_iff_of_even even
    rw [show ((2 ^ 53 : ℕ) : ℚ) = 2 ^ 53 by norm_num] at reached
    rw [overflowThreshold_eq, ← scaled_mul 971 q,
      mul_le_mul_iff_of_pos_right (zpow_pos (by norm_num) _), ← reached]
    omega
  · have leading := placed.leading.resolve_right (by omega)
    have leading' : 2 ^ 52 ≤ n := placed.nearest.le_of_le (by exact_mod_cast leading)
    exact iff_of_true (by omega) (overflowThreshold_le leading large)

end Placed

/-! ### Rounding is to the nearest number -/

theorem size_eq_zero_iff : x.size = 0 ↔ x.magnitude = 0 := by
  have zero : Binary64.zero.size = 0 := by simp [size, Binary64.zero, significand, exponentField]
  constructor
  · intro none
    exact magnitude_eq_of_size_eq (none.trans zero.symm)
  · intro none
    rw [size_congr (show x.magnitude = Binary64.zero.magnitude from none), zero]

/-- Among the sizes that a finite result of rounding is compared with it is the nearest one. -/
theorem dist_size_le (hd : r.denominator ≠ 0) (rounded : x.magnitude = nearestMagnitude r)
    (finite : x.isFinite = true) (y : Binary64) :
    |r.toRat - x.size| ≤ |r.toRat - y.size| ∧
      (|r.toRat - y.size| = |r.toRat - x.size| → y.size ≠ x.size → Even x.significand) := by
  rw [isFinite_iff] at finite
  by_cases hn : r.numerator = 0
  · have none : r.toRat = 0 := by simp [Ratio.toRat, hn]
    have size : x.size = 0 := by
      rw [size_eq_zero_iff, rounded, nearestMagnitude, if_pos hn]
    rw [none, size, sub_zero, abs_zero]
    refine ⟨abs_nonneg _, ?_⟩
    intro tie different
    rw [abs_eq_zero, zero_sub, neg_eq_zero] at tie
    exact absurd tie different
  · obtain ⟨place, n, placed, equation⟩ := exists_placed hn hd
    have whole : x.magnitude = placedMagnitude place n := by omega
    rw [placed.size_eq whole]
    obtain ⟨nearer, even⟩ := placed.dist_le y
    refine ⟨nearer, ?_⟩
    intro tie different
    rw [even_significand_iff, whole, placedMagnitude, Nat.even_add]
    have evenPlace : Even ((place + 1074).toNat * exponentWeight) :=
      Even.mul_left (by decide) _
    exact iff_of_true evenPlace (even tie different)

/-- Rounding overflows exactly from the threshold on. -/
theorem nearestMagnitude_eq_infinity_iff (hd : r.denominator ≠ 0) :
    nearestMagnitude r = infinityMagnitude ↔ overflowThreshold ≤ r.toRat := by
  by_cases hn : r.numerator = 0
  · have none : r.toRat = 0 := by simp [Ratio.toRat, hn]
    have positive : 0 < overflowThreshold := by
      rw [Placed.overflowThreshold_eq]
      exact mul_pos (by norm_num) (zpow_pos (by norm_num) _)
    rw [nearestMagnitude, if_pos hn, none]
    exact iff_of_false (by decide) (not_le_of_gt positive)
  · obtain ⟨place, n, placed, equation⟩ := exists_placed hn hd
    rw [← placed.infinityMagnitude_le_iff, equation]
    omega

/-- A number of the sign of a rational is as far from it as their sizes are apart. -/
theorem dist_toRat_of_sign (sign : x.negative = decide (q < 0)) :
    |q - x.toRat| = |(|q| - x.size)| := by
  by_cases below : q < 0
  · rw [toRat_of_negative (by simp [sign, below]), abs_of_neg below, ← abs_neg]
    congr 1
    ring
  · rw [toRat_of_positive (by simp [sign, below]), abs_of_nonneg (not_lt.mp below)]

theorem dist_size_le_dist_toRat (q : ℚ) (y : Binary64) : |(|q| - y.size)| ≤ |q - y.toRat| := by
  rw [← abs_toRat y]
  exact abs_abs_sub_abs_le q y.toRat

/-- Of two numbers of one size, on both sides of zero, a rational that zero is no nearer to is not
equally near to both. -/
theorem toRat_eq_of_tie (sizes : y.size = x.size) (tie : |q - y.toRat| = |q - x.toRat|)
    (near : |q - x.toRat| ≤ |q|) : y.toRat = x.toRat := by
  have mirrored := abs_eq_abs.mp ((abs_toRat y).trans (sizes.trans (abs_toRat x).symm))
  rcases mirrored with same | opposite
  · exact same
  · rw [opposite, abs_eq_abs] at tie
    rcases tie with equal | reversed
    · linarith
    · have center : q = 0 := by linarith
      rw [center, zero_sub, abs_neg, abs_zero] at near
      have none : x.toRat = 0 := abs_eq_zero.mp (le_antisymm near (abs_nonneg _))
      rw [opposite, none, neg_zero]

/-- The number with the sign of the rational and the magnitude that its size is rounded to is the
nearest one. -/
theorem isNearest_of_nearestMagnitude (hd : r.denominator ≠ 0) (value : r.toRat = |q|)
    (sign : x.negative = decide (q < 0)) (rounded : x.magnitude = nearestMagnitude r) :
    IsNearest q x := by
  have bound := nearestMagnitude_le r
  have overflow := nearestMagnitude_eq_infinity_iff hd
  rw [value] at overflow
  have nearer := dist_size_le hd rounded
  rw [value] at nearer
  have near := dist_toRat_of_sign sign
  refine ⟨sign, ?_, ?_, ?_, ?_⟩
  · rw [isNaN_eq_false_iff]
    omega
  · rw [isFinite_iff, rounded, ← not_iff_not, not_lt, not_lt, ← overflow]
    omega
  · intro finite y _
    rw [near]
    exact (nearer finite y).1.trans (dist_size_le_dist_toRat q y)
  · intro finite y _ tie different
    obtain ⟨closer, even⟩ := nearer finite y
    have zero := (nearer finite .zero).1
    rw [size_eq_zero_iff.mpr (show Binary64.zero.magnitude = 0 from rfl), sub_zero, abs_abs, ← near]
      at zero
    apply even
    · rw [near] at tie
      exact le_antisymm ((dist_size_le_dist_toRat q y).trans tie.le) closer
    · intro sizes
      exact different (toRat_eq_of_tie sizes tie zero)

/-! ### The least numbers -/

/-- The least positive number. -/
def least : Binary64 := ⟨false, 1, by decide⟩

theorem toRat_least : least.toRat = 2 ^ (-1074 : ℤ) := by
  have significand : least.significand = 1 := by decide
  have exponent : least.exponent = -1074 := by decide
  rw [toRat_of_positive rfl, size, significand, exponent, Nat.cast_one, one_mul]

theorem toRat_zero : Binary64.zero.toRat = 0 := by
  rw [toRat_of_positive rfl, size_eq_zero_iff]
  rfl

/-- A number that is not zero is no smaller than the least positive one. -/
theorem least_le_size (nonzero : y.magnitude ≠ 0) : 2 ^ (-1074 : ℤ) ≤ y.size := by
  rw [← toRat_least, toRat_of_positive rfl]
  rcases Nat.lt_or_eq_of_le (Nat.one_le_iff_ne_zero.mpr nonzero) with more | one
  · exact (size_lt_size more).le
  · exact (size_congr one).le

/-! ### What the nearest number depends on -/

namespace IsNearest

/-- Between two numbers that are equally near another one would be nearer. -/
theorem dist_lt_of_between {a b c : ℚ} (tie : |q - a| = |q - c|) (ab : a < b) (bc : b < c) :
    |q - b| < |q - a| := by
  have left := le_abs_self (q - a)
  have right := neg_le_abs (q - c)
  rw [abs_lt]
  constructor <;> linarith

/-- Between two numbers of one sign that are equally near and no neighbours there is a nearer
one. -/
theorem exists_dist_lt (sign : x.negative = y.negative) (finite : y.isFinite = true)
    (apart : x.magnitude + 1 < y.magnitude) (tie : |q - x.toRat| = |q - y.toRat|) :
    ∃ z : Binary64, z.isFinite = true ∧ |q - z.toRat| < |q - x.toRat| := by
  rw [isFinite_iff] at finite
  have bound : x.magnitude + 1 < 0x8000000000000000 := apart.trans y.magnitude_lt
  refine ⟨⟨x.negative, x.magnitude + 1, bound⟩, isFinite_iff.mpr (apart.trans finite), ?_⟩
  have first : x.size < size ⟨x.negative, x.magnitude + 1, bound⟩ :=
    size_lt_size (Nat.lt_succ_self x.magnitude)
  have second : size ⟨x.negative, x.magnitude + 1, bound⟩ < y.size := size_lt_size apart
  cases negative : x.negative with
  | false =>
    rw [negative] at sign
    rw [toRat_of_positive negative, toRat_of_positive sign.symm] at tie
    rw [toRat_of_positive negative, toRat_of_positive rfl]
    exact dist_lt_of_between tie first second
  | true =>
    rw [negative] at sign
    rw [toRat_of_negative negative, toRat_of_negative sign.symm] at tie
    rw [toRat_of_negative negative, toRat_of_negative rfl, tie]
    exact dist_lt_of_between tie.symm (neg_lt_neg second) (neg_lt_neg first)

theorem magnitude_le (nearest : IsNearest q x) (nearest' : IsNearest q y)
    (finite : x.isFinite = true) (finite' : y.isFinite = true) : y.magnitude ≤ x.magnitude := by
  by_contra less
  rw [not_le] at less
  have tie : |q - x.toRat| = |q - y.toRat| :=
    le_antisymm (nearest.nearest finite y finite') (nearest'.nearest finite' x finite)
  have sign : x.negative = y.negative := nearest.sign.trans nearest'.sign.symm
  rcases Nat.lt_or_ge (x.magnitude + 1) y.magnitude with apart | close
  · obtain ⟨z, finiteBetween, nearer⟩ := exists_dist_lt sign finite' apart tie
    exact absurd (nearest.nearest finite z finiteBetween) (not_le_of_gt nearer)
  · -- of two neighbours one is odd
    have step : y.magnitude = x.magnitude + 1 := le_antisymm close less
    have different : y.toRat ≠ x.toRat := by
      intro same
      apply (size_lt_size less).ne
      rw [← abs_toRat x, ← abs_toRat y, same]
    have even := nearest.even finite y finite' tie.symm different
    have even' := nearest'.even finite' x finite tie different.symm
    rw [even_significand_iff] at even even'
    rw [step] at even'
    exact Nat.even_add_one.mp even' even

/-- A rational is rounded to one number at most. -/
theorem unique (nearest : IsNearest q x) (nearest' : IsNearest q y) : x = y := by
  have sign : x.negative = y.negative := nearest.sign.trans nearest'.sign.symm
  have finite : x.isFinite = true ↔ y.isFinite = true :=
    nearest.finite_iff.trans nearest'.finite_iff.symm
  apply eq_of_magnitude_eq sign
  by_cases isFinite : x.isFinite = true
  · exact le_antisymm (nearest'.magnitude_le nearest (finite.mp isFinite) isFinite)
      (nearest.magnitude_le nearest' isFinite (finite.mp isFinite))
  · have infinite := mt finite.mpr isFinite
    rw [Bool.not_eq_true] at isFinite infinite
    rw [magnitude_of_infinite nearest.number isFinite,
      magnitude_of_infinite nearest'.number infinite]

/-- A greater rational, not below zero, is rounded to a number at least as great: it is finite only
if the other one is, and then it is no less. -/
theorem monotone (nearest : IsNearest q x) (nearest' : IsNearest q' y) (nonneg : 0 ≤ q)
    (le : q ≤ q') (finite' : y.isFinite = true) : x.isFinite = true ∧ x.toRat ≤ y.toRat := by
  have below := nearest'.finite_iff.mp finite'
  have finite : x.isFinite = true := by
    rw [nearest.finite_iff, abs_of_nonneg nonneg]
    rw [abs_of_nonneg (nonneg.trans le)] at below
    exact le.trans_lt below
  refine ⟨finite, ?_⟩
  by_contra less
  rw [not_le] at less
  have first := nearest.nearest finite y finite'
  have second := nearest'.nearest finite' x finite
  have lower : x.toRat + y.toRat ≤ 2 * q := by
    have squares := sq_le_sq.mpr first
    nlinarith
  have upper : 2 * q' ≤ x.toRat + y.toRat := by
    have squares := sq_le_sq.mpr second
    nlinarith
  obtain rfl : q = q' := by linarith
  rw [nearest.unique nearest'] at less
  exact lt_irrefl _ less

theorem eq_infinity_iff (nearest : IsNearest q x) (nonneg : 0 ≤ q) :
    x = .infinity ↔ overflowThreshold ≤ q := by
  have finite := nearest.finite_iff
  rw [abs_of_nonneg nonneg] at finite
  rw [← not_lt, ← finite]
  constructor
  · rintro rfl
    decide
  · intro infinite
    rw [Bool.not_eq_true] at infinite
    have positive := nearest.sign.trans (decide_eq_false (not_lt.mpr nonneg))
    exact eq_of_magnitude_eq positive (magnitude_of_infinite nearest.number infinite)

/-- What is not above half of the least positive number is rounded to zero. -/
theorem zero_of_le (nonneg : 0 ≤ q) (small : q ≤ 2 ^ (-1075 : ℤ)) : IsNearest q .zero := by
  have power : (2 : ℚ) ^ (-1074 : ℤ) = 2 * 2 ^ (-1075 : ℤ) := by
    rw [show (-1074 : ℤ) = 1 + -1075 by norm_num, zpow_add₀ (by norm_num), zpow_one]
  have tiny : (2 : ℚ) ^ (-1075 : ℤ) ≤ 1 := zpow_le_one_of_nonpos₀ (by norm_num) (by norm_num)
  have huge : (1 : ℚ) < overflowThreshold := by
    have one : (1 : ℚ) ≤ 2 ^ (971 : ℤ) := one_le_zpow₀ (by norm_num) (by norm_num)
    calc (1 : ℚ) < 2 ^ 53 - 1 / 2 := by norm_num
      _ ≤ (2 ^ 53 - 1 / 2) * 2 ^ (971 : ℤ) := le_mul_of_one_le_right (by norm_num) one
      _ = overflowThreshold := Placed.overflowThreshold_eq.symm
  have even : Even Binary64.zero.significand := by decide
  refine ⟨(decide_eq_false (not_lt.mpr nonneg)).symm, by decide, ?_, ?_, fun _ _ _ _ _ => even⟩
  · rw [abs_of_nonneg nonneg]
    exact iff_of_true (by decide) (by linarith)
  · intro _ y _
    rw [toRat_zero, sub_zero, abs_of_nonneg nonneg]
    by_cases none : y.magnitude = 0
    · have zero : y.toRat = 0 := by
        rw [← abs_eq_zero, abs_toRat, size_eq_zero_iff]
        exact none
      rw [zero, sub_zero]
      exact le_abs_self q
    · have far := dist_size_le_dist_toRat q y
      have apart := neg_le_abs (|q| - y.size)
      have size := least_le_size none
      rw [abs_of_nonneg nonneg] at far apart
      linarith

theorem eq_zero_iff (nearest : IsNearest q x) (nonneg : 0 ≤ q) :
    x = .zero ↔ q ≤ 2 ^ (-1075 : ℤ) := by
  constructor
  · rintro rfl
    have power : (2 : ℚ) ^ (-1074 : ℤ) = 2 * 2 ^ (-1075 : ℤ) := by
      rw [show (-1074 : ℤ) = 1 + -1075 by norm_num, zpow_add₀ (by norm_num), zpow_one]
    have nearer := nearest.nearest (by decide) least (by decide)
    have positive : (0 : ℚ) < 2 ^ (-1075 : ℤ) := zpow_pos (by norm_num) _
    rw [toRat_zero, toRat_least, sub_zero, abs_of_nonneg nonneg, power] at nearer
    rcases abs_cases (q - 2 * 2 ^ (-1075 : ℤ)) with ⟨distance, _⟩ | ⟨distance, _⟩ <;> linarith
  · intro small
    exact nearest.unique (zero_of_le nonneg small)

end IsNearest

end LiteralLang.Binary64

/-! ### Decimals -/

namespace LiteralLang.Decimal

open Binary64 (IsNearest isNearest_of_nearestMagnitude)

theorem toRat_nonneg (d : Decimal) : 0 ≤ d.toRat :=
  mul_nonneg (Nat.cast_nonneg _) (zpow_nonneg (by norm_num) _)

/-- A decimal is rounded to the nearest number. -/
theorem isNearest_nearest (d : Decimal) : IsNearest d.toRat d.nearest := by
  have nonneg := d.toRat_nonneg
  apply isNearest_of_nearestMagnitude d.ratio_denominator_ne_zero
  · rw [toRat_ratio, abs_of_nonneg nonneg]
  · rw [nearest_negative]
    exact (decide_eq_false (not_lt.mpr nonneg)).symm
  · rw [nearest_eq_ofRatio]
    rfl

end LiteralLang.Decimal
