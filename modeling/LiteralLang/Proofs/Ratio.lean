import LiteralLang.Ratio
import Mathlib.Data.Int.Log
import Mathlib.Data.Rat.Floor
import Mathlib.Tactic.FieldSimp
import Mathlib.Tactic.Linarith
import Mathlib.Tactic.Positivity
import Mathlib.Tactic.Ring

/-!
# Ratios as rationals

`Ratio.toRat` is the rational that a ratio stands for.  The operations of `Ratio` are described by
what they do to it: scaling multiplies, `log2` is the binary logarithm, and `roundHalfEven` gives
the one integer that `IsNearestEven` describes.  So none of them depends on how the rational is
written as a quotient.
-/

namespace LiteralLang

/-- The natural is nearest to the rational, and even if a neighbour is equally near. -/
def IsNearestEven (q : ℚ) (n : ℕ) : Prop :=
  |q - n| ≤ 1 / 2 ∧ (|q - n| = 1 / 2 → Even n)

namespace IsNearestEven

variable {q : ℚ} {m n : ℕ}

theorem natCast (n : ℕ) : IsNearestEven n n := by
  refine ⟨?_, ?_⟩ <;> simp

/-- A rational has one nearest natural, since of two neighbours only one is even. -/
theorem unique (hm : IsNearestEven q m) (hn : IsNearestEven q n) : m = n := by
  wlog le : m ≤ n generalizing m n
  · exact (this hn hm (by omega)).symm
  obtain ⟨near, even⟩ := hm
  obtain ⟨near', even'⟩ := hn
  rw [abs_le] at near near'
  by_contra different
  have apart : (m : ℚ) + 1 ≤ n := by exact_mod_cast (by omega : m + 1 ≤ n)
  have tie : q - m = 1 / 2 := by linarith
  have tie' : q - n = -(1 / 2) := by linarith
  have successor : n = m + 1 := by
    have : (n : ℚ) = m + 1 := by linarith
    exact_mod_cast this
  have evenLeft : Even m := even (by rw [tie]; norm_num)
  have evenRight : Even n := even' (by rw [tie']; norm_num)
  subst successor
  exact (Nat.even_add_one.mp evenRight) evenLeft

/-- Rounding does not go below a natural that the rational does not go below. -/
theorem le_of_le (hn : IsNearestEven q n) (h : (m : ℚ) ≤ q) : m ≤ n := by
  have near := abs_le.mp hn.1
  by_contra below
  have : (n : ℚ) + 1 ≤ m := by exact_mod_cast (by omega : n + 1 ≤ m)
  linarith

/-- What is less than one half rounds to zero. -/
theorem eq_zero_of_lt (hn : IsNearestEven q n) (h : q < 1 / 2) : n = 0 := by
  have near := abs_le.mp hn.1
  have : (n : ℚ) < 1 := by linarith
  have : n < 1 := by exact_mod_cast this
  omega

/-- An even natural is reached from half below it on. -/
theorem le_iff_of_even (hn : IsNearestEven q n) (even : Even m) :
    m ≤ n ↔ (m : ℚ) - 1 / 2 ≤ q := by
  have near := abs_le.mp hn.1
  constructor
  · intro le
    have : (m : ℚ) ≤ n := by exact_mod_cast le
    linarith
  · intro half
    by_contra below
    have apart : (n : ℚ) + 1 ≤ m := by exact_mod_cast (by omega : n + 1 ≤ m)
    have tie : |q - n| = 1 / 2 := by
      rw [abs_of_nonneg] <;> linarith
    have successor : m = n + 1 := by
      have : (m : ℚ) = n + 1 := by linarith
      exact_mod_cast this
    subst successor
    exact (Nat.even_add_one.mp even) (hn.2 tie)

/-- No natural is nearer. -/
theorem dist_le (hn : IsNearestEven q n) (m : ℕ) : |q - n| ≤ |q - m| := by
  by_cases same : m = n
  · rw [same]
  · have apart : (1 : ℚ) ≤ |(m : ℚ) - n| := by
      have different : (m : ℤ) - n ≠ 0 := by omega
      exact_mod_cast Int.one_le_abs different
    have triangle := abs_sub_le (m : ℚ) q n
    rw [abs_sub_comm (m : ℚ) q] at triangle
    have near := hn.1
    linarith

/-- If another natural is as near, the nearest one is even. -/
theorem even_of_dist_eq (hn : IsNearestEven q n) (tie : |q - m| = |q - n|) (different : m ≠ n) :
    Even n := by
  have apart : (1 : ℚ) ≤ |(m : ℚ) - n| := by
    have nonzero : (m : ℤ) - n ≠ 0 := by omega
    exact_mod_cast Int.one_le_abs nonzero
  have triangle := abs_sub_le (m : ℚ) q n
  rw [abs_sub_comm (m : ℚ) q] at triangle
  have near := hn.1
  apply hn.2
  linarith

/-- Less than one half is rounded down. -/
theorem of_fraction_lt {part : ℚ} (split : q = n + part) (nonneg : 0 ≤ part)
    (small : part < 1 / 2) : IsNearestEven q n := by
  have distance : |q - n| = part := by
    rw [split, add_sub_cancel_left, abs_of_nonneg nonneg]
  rw [IsNearestEven, distance]
  refine ⟨small.le, ?_⟩
  intro tie
  exact absurd tie small.ne

/-- More than one half is rounded up. -/
theorem of_lt_fraction {part : ℚ} (split : q = n + part) (large : 1 / 2 < part)
    (below : part < 1) : IsNearestEven q (n + 1) := by
  have distance : |q - (n + 1 : ℕ)| = 1 - part := by
    rw [split, abs_of_neg]
    · push_cast
      ring
    · push_cast
      linarith
  rw [IsNearestEven, distance]
  constructor
  · linarith
  · intro tie
    linarith

/-- One half is rounded to the even neighbour. -/
theorem of_half (split : q = n + 1 / 2) : IsNearestEven q (n + n % 2) := by
  have even : Even (n + n % 2) := by
    rw [Nat.even_iff]
    omega
  refine ⟨?_, fun _ => even⟩
  rw [split, abs_le]
  rcases Nat.mod_two_eq_zero_or_one n with parity | parity
  · rw [parity]
    push_cast
    constructor <;> linarith
  · rw [parity]
    push_cast
    constructor <;> linarith

end IsNearestEven

namespace Ratio

/-- The rational that a ratio stands for. -/
def toRat (r : Ratio) : ℚ := r.numerator / r.denominator

variable {r s : Ratio}

theorem toRat_pos (hn : r.numerator ≠ 0) (hd : r.denominator ≠ 0) : 0 < r.toRat := by
  have : 0 < r.numerator := Nat.pos_of_ne_zero hn
  have : 0 < r.denominator := Nat.pos_of_ne_zero hd
  unfold toRat
  positivity

/-! ### Scaling -/

theorem scale_denominator_ne_zero {base : ℕ} (hb : base ≠ 0) (power : ℤ)
    (hd : r.denominator ≠ 0) : (r.scale base power).denominator ≠ 0 :=
  Nat.mul_ne_zero hd (pow_ne_zero _ hb)

/-- Scaling multiplies by the power of the base, whatever its sign. -/
theorem toRat_scale {base : ℕ} (hb : base ≠ 0) (power : ℤ) :
    (r.scale base power).toRat = r.toRat * (base : ℚ) ^ power := by
  have hb' : (base : ℚ) ≠ 0 := by exact_mod_cast hb
  have split : power = (power.toNat : ℤ) - ((-power).toNat : ℤ) := by omega
  have expand : (base : ℚ) ^ power = base ^ power.toNat / base ^ (-power).toNat := by
    conv_lhs => rw [split]
    rw [zpow_sub₀ hb', zpow_natCast, zpow_natCast]
  rw [expand]
  simp only [toRat, scale, Nat.pow_eq, Nat.cast_mul, Nat.cast_pow]
  rw [mul_div_mul_comm]

theorem isBelowOne_iff (hd : r.denominator ≠ 0) : r.isBelowOne = true ↔ r.toRat < 1 := by
  have positive : (0 : ℚ) < r.denominator := by exact_mod_cast Nat.pos_of_ne_zero hd
  rw [isBelowOne, decide_eq_true_iff, toRat, div_lt_one positive, Nat.cast_lt]

/-! ### Rounding -/

theorem toRat_eq_floor_add (hd : r.denominator ≠ 0) :
    r.toRat = r.floor + (r.numerator % r.denominator : ℕ) / r.denominator := by
  have nonzero : (r.denominator : ℚ) ≠ 0 := by exact_mod_cast hd
  have division : (r.denominator : ℚ) * r.floor + (r.numerator % r.denominator : ℕ)
      = r.numerator := by
    exact_mod_cast Nat.div_add_mod r.numerator r.denominator
  rw [toRat, ← division, add_div, mul_div_cancel_left₀ _ nonzero]

/-- Rounding gives the nearest integer, ties to even. -/
theorem roundHalfEven_isNearestEven (hd : r.denominator ≠ 0) :
    IsNearestEven r.toRat r.roundHalfEven := by
  have positive : (0 : ℚ) < r.denominator := by exact_mod_cast Nat.pos_of_ne_zero hd
  have split := toRat_eq_floor_add hd
  set remainder := r.numerator % r.denominator with remainder_def
  have below : (remainder : ℚ) / r.denominator < 1 := by
    rw [div_lt_one positive]
    exact_mod_cast Nat.mod_lt _ (Nat.pos_of_ne_zero hd)
  unfold roundHalfEven
  cases side : r.compareToMiddle with
  | lt =>
    have small : 2 * remainder < r.denominator := by
      simpa [compareToMiddle, Nat.compare_eq_lt] using side
    have small' : (remainder : ℚ) / r.denominator < 1 / 2 := by
      rw [div_lt_iff₀ positive]
      have : (2 : ℚ) * remainder < r.denominator := by exact_mod_cast small
      linarith
    exact .of_fraction_lt split (by positivity) small'
  | gt =>
    have large : r.denominator < 2 * remainder := by
      simpa [compareToMiddle, Nat.compare_eq_gt] using side
    have large' : 1 / 2 < (remainder : ℚ) / r.denominator := by
      rw [lt_div_iff₀ positive]
      have : (r.denominator : ℚ) < 2 * remainder := by exact_mod_cast large
      linarith
    exact .of_lt_fraction split large' below
  | eq =>
    have middle : 2 * remainder = r.denominator := by
      simpa [compareToMiddle, Nat.compare_eq_eq] using side
    have middle' : (remainder : ℚ) / r.denominator = 1 / 2 := by
      rw [div_eq_iff positive.ne']
      have : (2 : ℚ) * remainder = r.denominator := by exact_mod_cast middle
      linarith
    rw [middle'] at split
    exact .of_half split

/-! ### Binary logarithm -/

/-- The difference of the lengths of numerator and denominator is the logarithm or one more. -/
theorem estimate_bounds (hn : r.numerator ≠ 0) (hd : r.denominator ≠ 0) {estimate : ℤ}
    (lengths : estimate = (r.numerator.log2 : ℤ) - r.denominator.log2) :
    ((2 : ℕ) : ℚ) ^ (estimate - 1) ≤ r.toRat ∧ r.toRat < ((2 : ℕ) : ℚ) ^ (estimate + 1) := by
  have two : ((2 : ℕ) : ℚ) ≠ 0 := by norm_num
  have denominator : (0 : ℚ) < r.denominator := by exact_mod_cast Nat.pos_of_ne_zero hd
  have numeratorLe : (2 : ℚ) ^ r.numerator.log2 ≤ r.numerator := by
    exact_mod_cast Nat.log2_self_le hn
  have numeratorLt : (r.numerator : ℚ) < 2 ^ (r.numerator.log2 + 1) := by
    exact_mod_cast Nat.lt_log2_self (n := r.numerator)
  have denominatorLe : (2 : ℚ) ^ r.denominator.log2 ≤ r.denominator := by
    exact_mod_cast Nat.log2_self_le hd
  have denominatorLt : (r.denominator : ℚ) < 2 ^ (r.denominator.log2 + 1) := by
    exact_mod_cast Nat.lt_log2_self (n := r.denominator)
  constructor
  · have power : ((2 : ℕ) : ℚ) ^ (estimate - 1)
        = (2 : ℚ) ^ r.numerator.log2 / 2 ^ (r.denominator.log2 + 1) := by
      rw [show estimate - 1 = (r.numerator.log2 : ℤ) - (r.denominator.log2 + 1 : ℕ) by omega,
        zpow_sub₀ two, zpow_natCast, zpow_natCast]
      norm_num
    rw [power, toRat, div_le_div_iff₀ (by positivity) denominator]
    exact mul_le_mul numeratorLe denominatorLt.le denominator.le (by positivity)
  · have power : ((2 : ℕ) : ℚ) ^ (estimate + 1)
        = (2 : ℚ) ^ (r.numerator.log2 + 1) / 2 ^ r.denominator.log2 := by
      rw [show estimate + 1 = (r.numerator.log2 + 1 : ℕ) - (r.denominator.log2 : ℤ) by omega,
        zpow_sub₀ two, zpow_natCast, zpow_natCast]
      norm_num
    rw [power, toRat, div_lt_div_iff₀ denominator (by positivity)]
    exact mul_lt_mul numeratorLt denominatorLe (by positivity) (by positivity)

/-- `log2` is the binary logarithm: the estimate is right or one too large. -/
theorem log2_eq (hn : r.numerator ≠ 0) (hd : r.denominator ≠ 0) :
    r.log2 = Int.log 2 r.toRat := by
  have positive := toRat_pos hn hd
  set estimate : ℤ := (r.numerator.log2 : ℤ) - r.denominator.log2 with estimate_def
  obtain ⟨lower, upper⟩ := estimate_bounds hn hd estimate_def
  have test : (r.scale 2 (-estimate)).isBelowOne = true ↔
      r.toRat < ((2 : ℕ) : ℚ) ^ estimate := by
    rw [isBelowOne_iff (scale_denominator_ne_zero (by decide) _ hd), toRat_scale (by decide),
      zpow_neg, ← div_eq_mul_inv, div_lt_one (zpow_pos (by norm_num) _)]
  rw [Int.zpow_le_iff_le_log (by decide) positive] at lower
  rw [Int.lt_zpow_iff_log_lt (by decide) positive] at upper
  rw [Int.lt_zpow_iff_log_lt (by decide) positive] at test
  rw [log2]
  simp only [← estimate_def]
  split
  · have := test.mp ‹_›
    omega
  · have := mt test.mpr ‹_›
    omega

end Ratio

end LiteralLang
