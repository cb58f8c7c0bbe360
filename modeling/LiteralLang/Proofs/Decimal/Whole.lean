import LiteralLang.Proofs.Binary64.Nearest
import LiteralLang.Proofs.Decimal.Layout

/-!
# Shortest decimals of integers

Below `2 ^ 53` every integer is a number of its own, so no other integer reads back to it.  All the
grids that the search goes through before it comes to the integers have only integers on them, and
there it stops at the latest.  So the plain text of an integer below `2 ^ 53` is its own digits.
-/

namespace LiteralLang

variable {k : ℕ} {r : Ratio} {d : Decimal} {x : Binary64} {tie : TieRule}

/-! ### Ratios of integers -/

theorem Ratio.numerator_eq_of_toRat (hd : r.denominator ≠ 0) (value : r.toRat = k) :
    r.numerator = k * r.denominator := by
  have nonzero : (r.denominator : ℚ) ≠ 0 := by exact_mod_cast hd
  rw [toRat, div_eq_iff nonzero] at value
  exact_mod_cast value

theorem Ratio.floor_eq_of_toRat (hd : r.denominator ≠ 0) (value : r.toRat = k) : r.floor = k := by
  rw [floor, numerator_eq_of_toRat hd value, Nat.mul_div_cancel _ (Nat.pos_of_ne_zero hd)]

/-! ### Digits of integers -/

/-- Zeros behind the digits are powers of ten. -/
theorem toDigits_mul_pow {coefficient : ℕ} (positive : 0 < coefficient) (zeros : ℕ) :
    Nat.toDigits 10 (coefficient * 10 ^ zeros) =
      Nat.toDigits 10 coefficient ++ List.replicate zeros '0' := by
  induction zeros with
  | zero => simp
  | succ zeros ih =>
    have more : 0 < coefficient * 10 ^ zeros := Nat.mul_pos positive (Nat.pow_pos (by decide))
    have shifted : coefficient * 10 ^ (zeros + 1) = 10 * (coefficient * 10 ^ zeros) + 0 := by ring
    rw [shifted, ← Nat.toDigits_append_toDigits (by decide) more (by decide), ih,
      Nat.toDigits_zero, List.append_assoc, List.replicate_succ']

namespace Decimal

/-- A decimal without a fraction is laid out as the digits of the integer that it stands for. -/
theorem plain_eq_toDigits (whole : 0 ≤ d.exponent) (value : d.toRat = k) (positive : k ≠ 0) :
    d.plain = Nat.toDigits 10 k := by
  have product : d.coefficient * 10 ^ d.exponent.toNat = k := by
    rw [toRat_of_whole whole] at value
    exact_mod_cast value
  have coefficient : 0 < d.coefficient := by
    rw [Nat.pos_iff_ne_zero]
    intro zero
    rw [zero, zero_mul] at product
    exact positive product.symm
  rw [plain, if_pos whole, ← product, toDigits_mul_pow coefficient, digits]

theorem exponent_le_dropZeros (count : ℕ) (d : Decimal) :
    d.exponent ≤ (d.dropZeros count).exponent := by
  induction count generalizing d with
  | zero => exact le_rfl
  | succ count ih =>
    unfold dropZeros
    split
    case isTrue =>
      have later := ih ⟨d.coefficient / 10, d.exponent + 1⟩
      simp only at later
      omega
    case isFalse => exact le_rfl

/-! ### The grids -/

/-- An integer below `2 ^ 53` has between one and seventeen digits. -/
theorem scaleOf_mem (hd : r.denominator ≠ 0) (one : 1 ≤ r.toRat) (small : r.toRat < 2 ^ 53) :
    1 ≤ scaleOf r ∧ scaleOf r ≤ 17 := by
  have positive : 0 < r.toRat := by linarith
  have hn : r.numerator ≠ 0 := by
    intro zero
    simp [Ratio.toRat, zero] at positive
  have lower : 0 ≤ Int.log 2 r.toRat :=
    (Int.zpow_le_iff_le_log (by decide) positive).mp (by simpa using one)
  have upper : Int.log 2 r.toRat < 53 :=
    (Int.lt_zpow_iff_log_lt (by decide) positive).mp (by exact_mod_cast small)
  rw [← Ratio.log2_eq hn hd] at lower upper
  -- an estimate of zero is raised, since one is not below one
  have raised : (r.scale 10 (-0)).isBelowOne = false := by
    rw [← Bool.not_eq_true, Ratio.isBelowOne_iff (Ratio.scale_denominator_ne_zero (by decide) _ hd),
      Ratio.toRat_scale (by decide), neg_zero, zpow_zero, mul_one, not_lt]
    exact one
  have nonneg : 0 ≤ r.log2 * 30103 / 100000 := by omega
  have bound : r.log2 * 30103 / 100000 ≤ 15 := by omega
  rw [scaleOf]
  generalize r.log2 * 30103 / 100000 = estimate at nonneg bound
  split
  case isTrue below =>
    have nonzero : estimate ≠ 0 := by
      rintro rfl
      rw [raised] at below
      exact Bool.false_ne_true below
    omega
  case isFalse =>
    split <;> omega

end Decimal

/-- The first hit in a range comes no later than a known one. -/
theorem exists_findSome?_range {α : Type} {f : ℕ → Option α} {n known : ℕ} (within : known < n)
    (hit : (f known).isSome = true) :
    ∃ first ≤ known, ∃ a, f first = some a ∧ (List.range n).findSome? f = some a := by
  have parts : List.range n =
      List.range (known + 1) ++ (List.range (n - (known + 1))).map (known + 1 + ·) := by
    rw [← List.range_add]
    congr 1
    omega
  have found : ((List.range (known + 1)).findSome? f).isSome = true :=
    List.findSome?_isSome_iff.mpr ⟨known, List.mem_range.mpr (Nat.lt_succ_self known), hit⟩
  obtain ⟨a, same⟩ := Option.isSome_iff_exists.mp found
  obtain ⟨first, member, value⟩ := List.exists_of_findSome?_eq_some same
  refine ⟨first, Nat.le_of_lt_succ (List.mem_range.mp member), a, value, ?_⟩
  rw [parts, List.findSome?_append, same, Option.some_or]

namespace Binary64

theorem exponent_of_onGrid? {grid : ℤ} (found : x.onGrid? tie grid = some d) :
    d.exponent = grid := by
  unfold onGrid? at found
  dsimp only at found
  split at found
  case h_1 =>
    obtain rfl := Option.some.inj found
    unfold Decimal.better
    split
    · rfl
    · rfl
    · rfl
    · split <;> rfl
  case h_2 => exact Option.some.inj found ▸ rfl
  case h_3 => exact Option.some.inj found ▸ rfl
  case h_4 => exact absurd found (by simp)

/-- On the grid of the integers an integer itself reads back. -/
theorem onGrid?_zero_isSome (finite : x.isFinite = true) (whole : x.size = k) :
    (x.onGrid? tie 0).isSome = true := by
  have hd := x.ratio_denominator_ne_zero
  have scaled : (x.ratio.scale 10 (-0)).toRat = k := by
    rw [Ratio.toRat_scale (by decide), toRat_ratio, neg_zero, zpow_zero, mul_one, ← whole, size]
  have floor := Ratio.floor_eq_of_toRat (Ratio.scale_denominator_ne_zero (by decide) _ hd) scaled
  have lower : x.readsBack ⟨(x.ratio.scale 10 (-0)).floor, 0⟩ = true := by
    have same : (Decimal.mk (x.ratio.scale 10 (-0)).floor 0).toRat = x.exactDecimal.toRat := by
      rw [toRat_exactDecimal, floor, Decimal.toRat, zpow_zero, mul_one, ← whole, size]
    rw [readsBack_congr same]
    exact readsBack_exactDecimal finite
  unfold onGrid?
  dsimp only
  rw [lower]
  split <;> simp_all

/-! ### Integers that are numbers -/

/-- A natural up to `2 ^ 53` is moved up to have a digit in the fifty-third place. -/
theorem exists_leading_shift (nonzero : k ≠ 0) (small : k ≤ 2 ^ 53) :
    ∃ shift ≤ 52, 2 ^ 52 ≤ k * 2 ^ shift ∧ k * 2 ^ shift ≤ 2 ^ 53 := by
  have lower := Nat.log2_self_le nonzero
  have upper := @Nat.lt_log2_self k
  refine ⟨52 - k.log2, Nat.sub_le _ _, ?_, ?_⟩
  · calc 2 ^ 52 ≤ 2 ^ (k.log2 + (52 - k.log2)) := Nat.pow_le_pow_right (by decide) (by omega)
      _ = 2 ^ k.log2 * 2 ^ (52 - k.log2) := Nat.pow_add _ _ _
      _ ≤ k * 2 ^ (52 - k.log2) := Nat.mul_le_mul_right _ lower
  · rcases Nat.lt_or_ge 52 k.log2 with full | few
    · rw [show 52 - k.log2 = 0 by omega, pow_zero, mul_one]
      exact small
    · calc k * 2 ^ (52 - k.log2) ≤ 2 ^ (k.log2 + 1) * 2 ^ (52 - k.log2) :=
            Nat.mul_le_mul_right _ upper.le
        _ = 2 ^ (k.log2 + 1 + (52 - k.log2)) := (Nat.pow_add _ _ _).symm
        _ = 2 ^ 53 := by rw [show k.log2 + 1 + (52 - k.log2) = 53 by omega]

/-- Every natural up to `2 ^ 53` is the size of a number. -/
theorem exists_size_eq_natCast (small : k ≤ 2 ^ 53) :
    ∃ y : Binary64, y.isFinite = true ∧ y.negative = false ∧ y.size = k := by
  by_cases zero : k = 0
  · subst zero
    exact ⟨.zero, by decide, rfl, size_eq_zero_iff.mpr rfl⟩
  · -- the leading digit is moved up to the fifty-third place
    obtain ⟨shift, few, leading, short⟩ := exists_leading_shift zero small
    have product : (1074 - shift) * exponentWeight ≤ 1074 * exponentWeight :=
      Nat.mul_le_mul_right _ (Nat.sub_le _ _)
    have below : (1074 - shift) * exponentWeight + k * 2 ^ shift < infinityMagnitude := by
      rw [exponentWeight] at product ⊢
      rw [infinityMagnitude]
      omega
    have magnitude_lt : (1074 - shift) * exponentWeight + k * 2 ^ shift < 0x8000000000000000 := by
      rw [infinityMagnitude] at below
      omega
    refine ⟨⟨false, _, magnitude_lt⟩, isFinite_iff.mpr below, rfl, ?_⟩
    rw [size_of_magnitude_eq rfl short (Or.inl leading), Nat.cast_sub (by omega),
      Nat.cast_ofNat, sub_sub_cancel_left, Nat.cast_mul, Nat.cast_pow, Nat.cast_ofNat, mul_assoc,
      ← zpow_natCast, ← zpow_add₀ (by norm_num), add_neg_cancel, zpow_zero, mul_one]

/-- No other integer reads back to one below `2 ^ 53`. -/
theorem eq_of_readsBack {j : ℕ} (reads : x.readsBack d = true) (finite : x.isFinite = true)
    (whole : x.size = k) (small : k < 2 ^ 53) (integral : d.toRat = j) : j = k := by
  have nearest := d.isNearest_nearest
  have magnitude := readsBack_iff.mp reads
  have value : d.nearest.toRat = k := by
    rw [toRat_of_positive d.nearest_negative, size_congr magnitude, whole]
  have finite' : d.nearest.isFinite = true := by
    rw [isFinite_iff, magnitude, ← isFinite_iff]
    exact finite
  have nearer := nearest.nearest finite'
  rw [integral, value] at nearer
  rcases le_or_gt j (2 ^ 53) with short | long
  · obtain ⟨y, isFinite, positive, size⟩ := exists_size_eq_natCast short
    have least := nearer y isFinite
    rw [toRat_of_positive positive, size, sub_self, abs_zero] at least
    have same := sub_eq_zero.mp (abs_eq_zero.mp (le_antisymm least (abs_nonneg _)))
    exact_mod_cast same
  · obtain ⟨y, isFinite, positive, size⟩ := exists_size_eq_natCast (le_refl (2 ^ 53))
    have least := nearer y isFinite
    have below : (k : ℚ) < (2 ^ 53 : ℕ) := by exact_mod_cast small
    have above : ((2 ^ 53 : ℕ) : ℚ) < j := by exact_mod_cast long
    rw [toRat_of_positive positive, size, abs_of_pos (by linarith), abs_of_pos (by linarith)]
      at least
    linarith

/-! ### The search -/

/-- The search for the shortest decimal of an integer ends with that integer, on the grid of the
integers or a wider one. -/
theorem shortest_of_whole (finite : x.isFinite = true) (nonzero : k ≠ 0) (whole : x.size = k)
    (small : k < 2 ^ 53) :
    0 ≤ (x.shortest tie).exponent ∧ (x.shortest tie).toRat = k := by
  have hd := x.ratio_denominator_ne_zero
  have value : x.ratio.toRat = k := by rw [toRat_ratio, ← whole, size]
  have one : (1 : ℚ) ≤ k := by exact_mod_cast Nat.one_le_iff_ne_zero.mpr nonzero
  have bound : (k : ℚ) < 2 ^ 53 := by exact_mod_cast small
  obtain ⟨least, most⟩ := Decimal.scaleOf_mem hd (value ▸ one) (value ▸ bound)
  have notZero : x.isZero = false := by
    rw [isZero, beq_eq_false_iff_ne, Ne, ← size_eq_zero_iff, whole]
    exact_mod_cast nonzero
  -- counted from the widest grid, that of the integers is one of the seventeen
  have behind : 0 ≤ Decimal.scaleOf x.ratio - 1 := by omega
  obtain ⟨known, position⟩ := Int.eq_ofNat_of_zero_le behind
  have integers : Decimal.scaleOf x.ratio - known - 1 = 0 := by omega
  have hit : (x.onGrid? tie (Decimal.scaleOf x.ratio - known - 1)).isSome = true := by
    rw [integers]
    exact onGrid?_zero_isSome finite whole
  obtain ⟨first, notLater, d, found, same⟩ := exists_findSome?_range
    (f := fun fewer : ℕ => x.onGrid? tie (Decimal.scaleOf x.ratio - fewer - 1)) (n := 17)
    (by omega) hit
  have grid := exponent_of_onGrid? found
  have nonneg : 0 ≤ d.exponent := by omega
  have integral := Decimal.toRat_of_whole nonneg
  have itself := eq_of_readsBack (readsBack_of_onGrid? found) finite whole small integral
  rw [shortest, if_neg (by simp [notZero])]
  dsimp only
  rw [same, Option.getD_some, Decimal.toRat_dropZeros, integral, itself]
  exact ⟨nonneg.trans (Decimal.exponent_le_dropZeros 17 d), rfl⟩

/-- The plain text of an integer below `2 ^ 53` is its own digits. -/
theorem plain_shortest_of_whole (finite : x.isFinite = true) (whole : x.size = k)
    (small : k < 2 ^ 53) : (x.shortest tie).plain = Nat.toDigits 10 k := by
  by_cases zero : k = 0
  · subst zero
    have none : x.isZero = true := by
      rw [isZero, beq_iff_eq, ← size_eq_zero_iff, whole, Nat.cast_zero]
    rw [shortest, if_pos none]
    rfl
  · obtain ⟨exponent, value⟩ := @shortest_of_whole k x tie finite zero whole small
    exact Decimal.plain_eq_toDigits exponent value zero

end Binary64

end LiteralLang
