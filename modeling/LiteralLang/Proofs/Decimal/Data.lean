import LiteralLang.Proofs.Decimal.Layout

/-!
# Number text in data

Text for data is a numeral as plain text is, of the value that was laid out, and in each of its
layouts it shows a point or an exponent.
-/

namespace LiteralLang.Decimal

variable {d : Decimal} {digits : List Char}

theorem allDigits_toDigits (n : ℕ) : AllDigits (Nat.toDigits 10 n) := allDigits_digits ⟨n, 0⟩

theorem digitsValue_toDigits (n : ℕ) : digitsValue (Nat.toDigits 10 n) = n :=
  digitsValue_digits ⟨n, 0⟩

/-! ### With an exponent -/

/-- Digits with the point behind the first one; a single digit has none. -/
theorem mantissa_scientific (nonempty : digits ≠ []) (all : AllDigits digits) :
    ∃ whole fraction mantissa, Mantissa whole fraction mantissa ∧ whole ++ fraction = digits ∧
      fraction.length + 1 = digits.length ∧
      ∀ power, scientific digits power =
        mantissa ++ 'e' :: ((if power < 0 then ['-'] else []) ++ Nat.toDigits 10 power.natAbs) := by
  match digits with
  | [] => exact absurd rfl nonempty
  | [first] => exact ⟨[first], [], [first], .integer nonempty all, rfl, rfl, fun _ => rfl⟩
  | first :: second :: more =>
    have front : AllDigits [first] := by
      intro c member
      exact all c (List.mem_cons.mpr (Or.inl (List.mem_singleton.mp member)))
    have behind : AllDigits (second :: more) := by
      intro c member
      exact all c (List.mem_cons_of_mem first member)
    exact ⟨[first], second :: more, _, .pointed (List.cons_ne_nil _ _) front behind, rfl, rfl,
      fun _ => rfl⟩

theorem exponentPart_scientific (power : ℤ) :
    ExponentPart power
      ('e' :: ((if power < 0 then ['-'] else []) ++ Nat.toDigits 10 power.natAbs)) := by
  have value := digitsValue_toDigits power.natAbs
  have all := allDigits_toDigits power.natAbs
  have nonempty : Nat.toDigits 10 power.natAbs ≠ [] := Nat.toDigits_ne_nil
  by_cases below : power < 0
  · have part := ExponentPart.negative (Or.inl rfl) nonempty all
    rw [value, show -(power.natAbs : ℤ) = power by omega] at part
    rw [if_pos below]
    exact part
  · have part := ExponentPart.unsigned (Or.inl rfl) nonempty all
    rw [value, show (power.natAbs : ℤ) = power by omega] at part
    rw [if_neg below]
    exact part

/-- The power of ten makes up for the digits that the point has moved over. -/
theorem numeral_scientific (d : Decimal) :
    Numeral (scientific d.digits (d.digits.length + d.exponent - 1)) d := by
  obtain ⟨whole, fraction, mantissa, shape, digits, length, text⟩ :=
    mantissa_scientific (digits_ne_nil d) (allDigits_digits d)
  have numeral := Numeral.intro shape
    (exponentPart_scientific (d.digits.length + d.exponent - 1))
  have exponent : (d.digits.length : ℤ) + d.exponent - 1 - fraction.length = d.exponent := by omega
  rw [digits, digitsValue_digits, exponent] at numeral
  rw [text]
  exact numeral

theorem mark_mem_scientific (digits : List Char) (power : ℤ) : 'e' ∈ scientific digits power := by
  simp [scientific]

/-! ### With a point -/

/-- Zeros for the exponent, and one more digit behind the point. -/
theorem numeral_pointed_whole (d : Decimal) :
    Numeral (d.digits ++ List.replicate d.exponent.toNat '0' ++ ['.', '0'])
      ⟨d.coefficient * 10 ^ d.exponent.toNat * 10, -1⟩ := by
  have front : AllDigits (d.digits ++ List.replicate d.exponent.toNat '0') :=
    AllDigits.append (allDigits_digits d) (allDigits_replicate_zero _)
  have numeral := Numeral.absent_exponent
    (.pointed (by simp [digits_ne_nil]) front (allDigits_replicate_zero 1))
  rw [digitsValue_append_zeros, digitsValue_append_zeros, digitsValue_digits, pow_one, mul_comm,
    mul_comm (10 ^ _)] at numeral
  exact numeral

theorem point_mem_withPoint (digits : List Char) (point : ℤ) : '.' ∈ withPoint digits point := by
  rw [withPoint]
  split <;> simp

/-! ### Any layout -/

/-- Text in data spells a decimal of the same value. -/
theorem exists_numeral_data (d : Decimal) : ∃ e, Numeral d.data e ∧ e.toRat = d.toRat := by
  simp only [data]
  split
  case isTrue => exact ⟨d, numeral_scientific d, rfl⟩
  case isFalse =>
    split
    case isTrue whole =>
      refine ⟨_, numeral_pointed_whole d, ?_⟩
      rw [toRat_of_whole whole, toRat, zpow_neg_one, Nat.cast_mul _ 10, Nat.cast_ofNat,
        mul_inv_cancel_right₀ (by norm_num)]
    case isFalse fraction =>
      have numeral := numeral_plain_fraction (not_le.mp fraction)
      rw [plain, if_neg fraction] at numeral
      exact ⟨d, numeral, rfl⟩

/-- Text in data is not that of an integer. -/
theorem mark_mem_data (d : Decimal) : '.' ∈ d.data ∨ 'e' ∈ d.data := by
  simp only [data]
  split
  case isTrue => exact Or.inr (mark_mem_scientific _ _)
  case isFalse =>
    left
    split
    case isTrue => simp
    case isFalse => exact point_mem_withPoint _ _

end LiteralLang.Decimal
