import LiteralLang.Decimal.Layout
import LiteralLang.Proofs.Decimal.Numeral
import LiteralLang.Proofs.Decimal.Shortest

/-!
# Plain number text

Plain text has no exponent and no sign, so it is a numeral of the language, and it spells a decimal
of the value that was laid out.  Hence the text of a finite number without a sign spells a decimal
that rounds to that number.
-/

namespace LiteralLang

namespace Decimal

variable {d : Decimal}

theorem digits_ne_nil (d : Decimal) : d.digits ≠ [] := Nat.toDigits_ne_nil

theorem allDigits_digits (d : Decimal) : AllDigits d.digits := by
  intro c member
  exact Nat.isDigit_of_mem_toDigits (by decide) (by decide) member

theorem digitsValue_digits (d : Decimal) : digitsValue d.digits = d.coefficient :=
  Nat.ofDigitChars_ten_toDigits

theorem allDigits_replicate_zero (count : ℕ) : AllDigits (List.replicate count '0') := by
  intro c member
  rw [List.eq_of_mem_replicate member]
  decide

theorem AllDigits.append {a b : List Char} (ha : AllDigits a) (hb : AllDigits b) :
    AllDigits (a ++ b) := by
  intro c member
  rcases List.mem_append.mp member with member | member
  · exact ha c member
  · exact hb c member

theorem digitsValue_append_zeros (digits : List Char) (count : ℕ) :
    digitsValue (digits ++ List.replicate count '0') = 10 ^ count * digitsValue digits := by
  rw [digitsValue, Nat.ofDigitChars_append, Nat.ofDigitChars_replicate_zero, digitsValue]

theorem digitsValue_zeros_append (count : ℕ) (digits : List Char) :
    digitsValue (List.replicate count '0' ++ digits) = digitsValue digits := by
  rw [digitsValue, Nat.ofDigitChars_append, Nat.ofDigitChars_replicate_zero, mul_zero,
    digitsValue]

/-- A decimal without a fraction is a natural. -/
theorem toRat_of_whole (whole : 0 ≤ d.exponent) :
    d.toRat = (d.coefficient * 10 ^ d.exponent.toNat : ℕ) := by
  rw [toRat]
  conv_lhs => rw [← Int.toNat_of_nonneg whole]
  rw [zpow_natCast]
  push_cast
  rfl

/-- A whole number: zeros behind the digits make up for the exponent. -/
theorem numeral_plain_whole (whole : 0 ≤ d.exponent) :
    Numeral d.plain ⟨d.coefficient * 10 ^ d.exponent.toNat, 0⟩ := by
  have shape : Mantissa (d.digits ++ List.replicate d.exponent.toNat '0') []
      (d.digits ++ List.replicate d.exponent.toNat '0') :=
    .integer (by simp [digits_ne_nil]) (AllDigits.append (allDigits_digits d)
      (allDigits_replicate_zero _))
  have numeral := Numeral.absent_exponent shape
  rw [List.append_nil, digitsValue_append_zeros, digitsValue_digits, mul_comm] at numeral
  rw [plain, if_pos whole]
  simpa using numeral

/-- A number with a fraction: the point among the digits, or zeros and the point in front. -/
theorem numeral_plain_fraction (fraction : d.exponent < 0) : Numeral d.plain d := by
  have lengthPos : 0 < d.digits.length := List.length_pos_iff.mpr (digits_ne_nil d)
  rw [plain, if_neg (by omega), withPoint]
  split
  case isTrue among =>
    set point := ((d.digits.length : ℤ) + d.exponent).toNat with point_def
    have nonempty : d.digits.take point ≠ [] := by
      rw [← List.length_pos_iff, List.length_take]
      omega
    have front : AllDigits (d.digits.take point) := by
      intro c member
      exact allDigits_digits d c (List.mem_of_mem_take member)
    have behind : AllDigits (d.digits.drop point) := by
      intro c member
      exact allDigits_digits d c (List.mem_of_mem_drop member)
    have numeral := Numeral.absent_exponent (.pointed nonempty front behind)
    have exponent : -((d.digits.length - point : ℕ) : ℤ) = d.exponent := by omega
    rwa [List.take_append_drop, digitsValue_digits, List.length_drop, exponent] at numeral
  case isFalse front =>
    set zeros := (-((d.digits.length : ℤ) + d.exponent)).toNat with zeros_def
    have behind : AllDigits (List.replicate zeros '0' ++ d.digits) :=
      AllDigits.append (allDigits_replicate_zero zeros) (allDigits_digits d)
    have numeral := Numeral.absent_exponent
      (.pointed (by simp) (allDigits_replicate_zero 1) behind)
    have exponent : -((zeros + d.digits.length : ℕ) : ℤ) = d.exponent := by omega
    rwa [digitsValue_zeros_append, digitsValue_zeros_append, digitsValue_digits,
      List.length_append, List.length_replicate, exponent] at numeral

/-- Plain text spells a decimal of the same value. -/
theorem exists_numeral_plain (d : Decimal) : ∃ e, Numeral d.plain e ∧ e.toRat = d.toRat := by
  rcases le_or_gt 0 d.exponent with whole | fraction
  · refine ⟨_, numeral_plain_whole whole, ?_⟩
    rw [toRat_of_whole whole, toRat, zpow_zero, mul_one]
  · exact ⟨d, numeral_plain_fraction fraction, rfl⟩

end Decimal

namespace Binary64

/-- The text of a finite number without a sign spells a decimal that rounds to it. -/
theorem exists_numeral_plainText {x : Binary64} (words : SpecialWords)
    (finite : x.isFinite = true) (positive : x.negative = false) :
    ∃ d, Numeral (x.plainText words).toList d ∧ d.nearest = x := by
  have notNaN : x.isNaN = false := by
    simp only [isFinite, decide_eq_true_eq] at finite
    simp only [isNaN, decide_eq_false_iff_not]
    omega
  obtain ⟨d, numeral, value⟩ := Decimal.exists_numeral_plain (x.shortest .upward)
  refine ⟨d, ?_, ?_⟩
  · rw [plainText, notNaN, finite, positive]
    simpa using numeral
  · rw [Decimal.nearest_congr value, nearest_shortest finite positive]

end Binary64

end LiteralLang
