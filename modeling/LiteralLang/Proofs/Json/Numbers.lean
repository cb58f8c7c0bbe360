import LiteralLang.Proofs.Binary64.Text
import LiteralLang.Proofs.Decimal.Data
import LiteralLang.Proofs.Decimal.Whole
import LiteralLang.Proofs.Node.Json

/-!
# Numbers in JSON

An integer below `2 ^ 53` in size is written in JSON as its decimal digits, which is also its text
in code, and every other finite number with a point or an exponent.  The text always reads back to
an equal number, so finite numbers have the same text exactly if they are equal.
-/

namespace LiteralLang

open Binary64 (IsNearest)

/-- The text spells the rational: a numeral, or a numeral behind a minus sign. -/
inductive SignedNumeral : (text : List Char) → ℚ → Prop
  | unsigned {text d} : Numeral text d → SignedNumeral text d.toRat
  | signed {text d} : Numeral text d → SignedNumeral ('-' :: text) (-d.toRat)

variable {text : List Char} {q q' : ℚ} {d : Decimal} {i : ℤ} {x y : Binary64}

/-! ### Texts of rationals -/

theorem Numeral.head_ne_minus (numeral : Numeral ('-' :: text) d) : False := by
  have begins := Lexeme.numeral_begins numeral []
  simp at begins

theorem SignedNumeral.unique (spelled : SignedNumeral text q) (spelled' : SignedNumeral text q') :
    q = q' := by
  cases spelled with
  | unsigned numeral =>
    cases spelled' with
    | unsigned numeral' => rw [numeral.unique numeral']
    | signed _ => exact numeral.head_ne_minus.elim
  | signed numeral =>
    cases spelled' with
    | unsigned numeral' => exact numeral'.head_ne_minus.elim
    | signed numeral' => rw [numeral.unique numeral']

theorem numeral_toDigits (k : ℕ) : Numeral (Nat.toDigits 10 k) ⟨k, 0⟩ := by
  have numeral := Numeral.absent_exponent
    (.integer Nat.toDigits_ne_nil (Decimal.allDigits_toDigits k))
  rw [List.append_nil, Decimal.digitsValue_toDigits] at numeral
  exact numeral

theorem Decimal.toRat_natCast (k : ℕ) : (Decimal.mk k 0).toRat = k := by
  rw [toRat, zpow_zero, mul_one]

theorem toList_toString_ofNat (k : ℕ) : (toString (k : ℤ)).toList = Nat.toDigits 10 k :=
  Nat.toList_repr

theorem toList_toString_negSucc (k : ℕ) :
    (toString (Int.negSucc k)).toList = '-' :: Nat.toDigits 10 (k + 1) := by
  rw [show toString (Int.negSucc k) = "-" ++ (k + 1).repr from rfl, String.toList_append,
    Nat.toList_repr]
  rfl

/-- The text of an integer spells it. -/
theorem signedNumeral_toString (i : ℤ) : SignedNumeral (toString i).toList i := by
  cases i with
  | ofNat k =>
    have spelled := SignedNumeral.unsigned (numeral_toDigits k)
    rw [Decimal.toRat_natCast, ← toList_toString_ofNat] at spelled
    exact spelled
  | negSucc k =>
    have spelled := SignedNumeral.signed (numeral_toDigits (k + 1))
    rw [Decimal.toRat_natCast, ← toList_toString_negSucc] at spelled
    rwa [Int.cast_negSucc]

/-- It is nothing but digits behind a sign. -/
theorem mem_toString {c : Char} (member : c ∈ (toString i).toList) :
    c = '-' ∨ c.isDigit = true := by
  cases i with
  | ofNat k =>
    rw [Int.ofNat_eq_natCast, toList_toString_ofNat] at member
    exact Or.inr (Decimal.allDigits_toDigits k c member)
  | negSucc k =>
    rw [toList_toString_negSucc] at member
    rcases List.mem_cons.mp member with sign | inside
    · exact Or.inl sign
    · exact Or.inr (Decimal.allDigits_toDigits (k + 1) c inside)

theorem Json.integerText_eq_toString (i : ℤ) : integerText i = toString i := by
  cases i with
  | ofNat k =>
    simp [integerText, toString]
    rfl
  | negSucc k =>
    simp [integerText, toString]
    rfl

theorem Decimal.toRat_pos_of_nearest (nonzero : d.nearest.magnitude ≠ 0) : 0 < d.toRat := by
  apply lt_of_le_of_ne d.toRat_nonneg
  intro zero
  have tiny : d.toRat ≤ 2 ^ (-1075 : ℤ) := by
    rw [← zero]
    exact zpow_nonneg (by norm_num) _
  rw [(d.isNearest_nearest.eq_zero_iff d.toRat_nonneg).mpr tiny] at nonzero
  exact nonzero rfl

namespace Binary64

/-- Zero with a sign. -/
def negativeZero : Binary64 := { zero with negative := true }

theorem toRat_negativeZero : negativeZero.toRat = 0 := by
  rw [← abs_eq_zero, abs_toRat, size_eq_zero_iff]
  rfl

/-- Numbers that are no NaN are equal exactly if they stand for the same rational. -/
theorem equal_iff_toRat_eq (number : x.isNaN = false) (number' : y.isNaN = false) :
    x.equal y = true ↔ x.toRat = y.toRat := by
  have none {z : Binary64} : z.isZero = true ↔ z.toRat = 0 := by
    rw [isZero, beq_iff_eq, ← size_eq_zero_iff, ← abs_toRat, abs_eq_zero]
  simp only [equal, number, number', Bool.not_false, Bool.true_and, Bool.or_eq_true,
    decide_eq_true_eq, Bool.and_eq_true, none]
  constructor
  · rintro (rfl | ⟨zero, zero'⟩)
    · rfl
    · rw [zero, zero']
  · intro same
    have magnitude : x.magnitude = y.magnitude := by
      apply magnitude_eq_of_size_eq
      rw [← abs_toRat, ← abs_toRat, same]
    by_cases sign : x.negative = y.negative
    · exact Or.inl (eq_of_magnitude_eq sign magnitude)
    · -- with unlike signs the rational is its own opposite
      right
      have opposite : x.toRat = -y.toRat := by
        rw [toRat, toRat, size_congr magnitude]
        cases negative : x.negative <;> cases negative' : y.negative <;> simp_all
      constructor <;> linarith

/-! ### Integers -/

theorem size_eq_natAbs (value : x.toRat = i) : x.size = i.natAbs := by
  rw [← abs_toRat, value, ← Int.cast_abs, Int.abs_eq_natAbs, Int.cast_natCast]

theorem integer?_eq_some_iff : x.integer? = some i ↔ x.isFinite = true ∧ x.toRat = i := by
  have hd := x.ratio_denominator_ne_zero
  have value : x.ratio.toRat = x.size := by rw [toRat_ratio, size]
  unfold integer?
  rw [Option.ite_none_right_eq_some, Option.some.injEq, Bool.and_eq_true, beq_iff_eq]
  constructor
  · rintro ⟨⟨finite, divides⟩, rfl⟩
    have floor := Ratio.toRat_eq_floor_add hd
    rw [divides, Nat.cast_zero, zero_div, add_zero, value] at floor
    refine ⟨finite, ?_⟩
    cases sign : x.negative with
    | false => simp [toRat_of_positive sign, floor]
    | true => simp [toRat_of_negative sign, floor]
  · rintro ⟨finite, integral⟩
    have natural := size_eq_natAbs integral
    rw [natural] at value
    rw [Ratio.floor_eq_of_toRat hd value, Ratio.numerator_eq_of_toRat hd value]
    refine ⟨⟨finite, Nat.mul_mod_left _ _⟩, ?_⟩
    cases sign : x.negative with
    | false =>
      rw [toRat_of_positive sign, natural, ← Int.cast_natCast, Int.cast_inj] at integral
      rw [if_neg Bool.false_ne_true, integral]
    | true =>
      rw [toRat_of_negative sign, natural, ← Int.cast_natCast, ← Int.cast_neg, Int.cast_inj]
        at integral
      rw [if_pos rfl, integral]

theorem jsonInteger?_eq_some_iff :
    x.jsonInteger? = some i ↔ x.isFinite = true ∧ x.toRat = i ∧ |i| < 2 ^ 53 := by
  rw [jsonInteger?, Option.filter_eq_some_iff, integer?_eq_some_iff, decide_eq_true_iff,
    Int.abs_eq_natAbs, and_assoc]
  norm_cast

theorem jsonInteger?_eq_none_iff (finite : x.isFinite = true) :
    x.jsonInteger? = none ↔ ∀ i : ℤ, x.toRat = i → 2 ^ 53 ≤ |i| := by
  rw [Option.eq_none_iff_forall_ne_some]
  simp only [Ne, jsonInteger?_eq_some_iff, finite, true_and, not_and, not_lt]

/-- The code text of an integer below `2 ^ 53` is its decimal text, but for the sign of zero. -/
theorem codeText_of_integer (integer : x.jsonInteger? = some i)
    (signed : x ≠ negativeZero) : x.codeText = toString i := by
  obtain ⟨finite, value, small⟩ := jsonInteger?_eq_some_iff.mp integer
  have size := size_eq_natAbs value
  rw [Int.abs_eq_natAbs] at small
  have digits := @plain_shortest_of_whole i.natAbs x .upward finite size (by exact_mod_cast small)
  rw [codeText_eq (isNaN_of_isFinite finite), sizeText, if_pos finite, digits,
    ← String.toList_inj, String.toList_append, String.toList_ofList]
  cases sign : x.negative with
  | false =>
    have natural : i = i.natAbs := by
      rw [toRat_of_positive sign, size, ← Int.cast_natCast, Int.cast_inj] at value
      exact value.symm
    rw [natural, toList_toString_ofNat]
    rfl
  | true =>
    have opposite : i = -i.natAbs := by
      rw [toRat_of_negative sign, size] at value
      exact_mod_cast value.symm
    cases i with
    | ofNat k =>
      exfalso
      have zero : k = 0 := by
        simp only [Int.ofNat_eq_natCast, Int.natAbs_natCast] at opposite
        omega
      subst zero
      have magnitude := size_eq_zero_iff.mp (size.trans Nat.cast_zero)
      exact signed (eq_of_magnitude_eq sign magnitude)
    | negSucc k =>
      rw [toList_toString_negSucc]
      rfl

/-! ### Texts -/

theorem json_of_integer (integer : x.jsonInteger? = some i) :
    (Scalar.number x).json = toString i := by
  simp only [Scalar.json, integer]
  exact Json.integerText_eq_toString i

theorem json_of_fraction (finite : x.isFinite = true) (fraction : x.jsonInteger? = none) :
    (Scalar.number x).json = x.dataText := by
  simp only [Scalar.json, fraction, if_pos finite]

theorem json_of_infinite (infinite : x.isFinite = false) : (Scalar.number x).json = "null" := by
  have none : x.jsonInteger? = none := by
    rw [Option.eq_none_iff_forall_ne_some]
    intro i integer
    rw [(jsonInteger?_eq_some_iff.mp integer).1] at infinite
    exact Bool.false_ne_true infinite.symm
  simp [Scalar.json, none, infinite]

theorem mark_mem_dataText (x : Binary64) : '.' ∈ x.dataText.toList ∨ 'e' ∈ x.dataText.toList := by
  have marked := Decimal.mark_mem_data (x.shortest .toEven)
  rw [dataText]
  split
  · simp only [String.toList_append, String.toList_ofList]
    rcases marked with point | mark
    · exact Or.inl (List.mem_append_right _ point)
    · exact Or.inr (List.mem_append_right _ mark)
  · rw [String.toList_ofList]
    exact marked

/-- A finite number other than the negative zero is the nearest one to what it stands for. -/
theorem isNearest_toRat (finite : x.isFinite = true)
    (signed : x.negative = true → x.magnitude ≠ 0) : IsNearest x.toRat x := by
  apply isNearest_of_nearestMagnitude x.ratio_denominator_ne_zero
  · rw [toRat_ratio, abs_toRat, size]
  · cases sign : x.negative with
    | false =>
      rw [toRat_of_positive sign]
      exact (decide_eq_false (not_lt.mpr x.size_nonneg)).symm
    | true =>
      have positive : 0 < x.size :=
        lt_of_le_of_ne x.size_nonneg (Ne.symm (mt size_eq_zero_iff.mp (signed sign)))
      rw [toRat_of_negative sign]
      exact (decide_eq_true (neg_lt_zero.mpr positive)).symm
  · exact (nearestMagnitude_ratio finite).symm

theorem indented_toJson (x : Binary64) : x.toJson.indented = x.toJson.compact := by
  rw [toJson]
  cases x.jsonInteger? with
  | some i => rfl
  | none => cases x.isFinite <;> rfl

/-- The data text of a finite number other than zero reads back to it, sign included. -/
theorem exists_signedNumeral_dataText (finite : x.isFinite = true) (nonzero : x.magnitude ≠ 0) :
    ∃ q, SignedNumeral x.dataText.toList q ∧ IsNearest q x := by
  obtain ⟨d, numeral, value⟩ := Decimal.exists_numeral_data (x.shortest .toEven)
  have magnitude : d.nearest.magnitude = x.magnitude := by
    rw [Decimal.nearest_congr value]
    exact readsBack_iff.mp (readsBack_shortest finite)
  have positive := Decimal.toRat_pos_of_nearest (magnitude.trans_ne nonzero)
  have nearest {q : ℚ} (size : |q| = d.toRat) (sign : x.negative = decide (q < 0)) :
      IsNearest q x := by
    apply isNearest_of_nearestMagnitude d.ratio_denominator_ne_zero _ sign
    · rw [← magnitude, Decimal.nearest_eq_ofRatio]
      rfl
    · rw [Decimal.toRat_ratio, size]
  cases sign : x.negative with
  | false =>
    refine ⟨d.toRat, ?_, nearest (abs_of_pos positive) ?_⟩
    · rw [dataText, sign, if_neg Bool.false_ne_true, String.toList_ofList]
      exact .unsigned numeral
    · rw [sign]
      exact (decide_eq_false positive.not_gt).symm
  | true =>
    refine ⟨-d.toRat, ?_, nearest ((abs_neg _).trans (abs_of_pos positive)) ?_⟩
    · rw [dataText, sign, if_pos rfl, String.toList_append]
      simp only [String.toList_ofList]
      exact .signed numeral
    · rw [sign]
      exact (decide_eq_true (neg_lt_zero.mpr positive)).symm

theorem magnitude_ne_zero_of_fraction (finite : x.isFinite = true)
    (fraction : x.jsonInteger? = none) : x.magnitude ≠ 0 := by
  intro zero
  have none : x.toRat = (0 : ℤ) := by
    rw [Int.cast_zero, ← abs_eq_zero, abs_toRat, size_eq_zero_iff, zero]
  have large := (jsonInteger?_eq_none_iff finite).mp fraction 0 none
  norm_num at large

/-- The JSON text of a finite number reads back to an equal number. -/
theorem exists_signedNumeral_json (finite : x.isFinite = true) :
    ∃ q z, SignedNumeral (Scalar.number x).json.toList q ∧ IsNearest q z ∧ z.toRat = x.toRat := by
  cases integer : x.jsonInteger? with
  | some i =>
    have value := (jsonInteger?_eq_some_iff.mp integer).2.1
    have spelled := signedNumeral_toString i
    rw [← json_of_integer integer, ← value] at spelled
    by_cases zero : x.magnitude = 0
    · -- zero is read back without its sign
      have none : x.toRat = Binary64.zero.toRat := by
        rw [toRat_zero, ← abs_eq_zero, abs_toRat, size_eq_zero_iff, zero]
      refine ⟨_, .zero, spelled, ?_, none.symm⟩
      rw [none]
      exact isNearest_toRat rfl (fun signed => absurd signed Bool.false_ne_true)
    · exact ⟨_, x, spelled, isNearest_toRat finite (fun _ => zero), rfl⟩
  | none =>
    obtain ⟨q, spelled, nearest⟩ :=
      exists_signedNumeral_dataText finite (magnitude_ne_zero_of_fraction finite integer)
    rw [← json_of_fraction finite integer] at spelled
    exact ⟨q, x, spelled, nearest, rfl⟩

/-- Finite numbers have the same JSON text exactly if they are equal. -/
theorem json_eq_iff (finite : x.isFinite = true) (finite' : y.isFinite = true) :
    (Scalar.number x).json = (Scalar.number y).json ↔ x.equal y = true := by
  rw [equal_iff_toRat_eq (isNaN_of_isFinite finite) (isNaN_of_isFinite finite')]
  constructor
  · intro same
    obtain ⟨q, z, spelled, nearest, value⟩ := exists_signedNumeral_json finite
    obtain ⟨q', z', spelled', nearest', value'⟩ := exists_signedNumeral_json finite'
    rw [same] at spelled
    obtain rfl := spelled.unique spelled'
    rw [← value, ← value', nearest.unique nearest']
  · intro same
    cases integer : x.jsonInteger? with
    | some i =>
      obtain ⟨-, value, small⟩ := jsonInteger?_eq_some_iff.mp integer
      have integer' := jsonInteger?_eq_some_iff.mpr ⟨finite', same.symm.trans value, small⟩
      rw [json_of_integer integer, json_of_integer integer']
    | none =>
      have integer' : y.jsonInteger? = none := by
        rw [jsonInteger?_eq_none_iff finite']
        intro i value
        exact (jsonInteger?_eq_none_iff finite).mp integer i (same.trans value)
      have nearest := isNearest_toRat finite (fun _ => magnitude_ne_zero_of_fraction finite integer)
      have nearest' :=
        isNearest_toRat finite' (fun _ => magnitude_ne_zero_of_fraction finite' integer')
      rw [same] at nearest
      rw [nearest.unique nearest']

/-- The two ways to write a number give the same text.  An integer below `2 ^ 53` in size is cut to
it exactly, well within 64 bits, and written as its decimal digits, which is its text in code but
for the sign of zero.  The text of every other finite number has a point or an exponent and reads
back to exactly that number, and all other numbers are null.  Finite numbers have the same text
exactly if they are equal. -/
theorem json_faithful (n : Binary64) :
    n.toJson.compact = (Scalar.number n).json ∧ n.toJson.indented = (Scalar.number n).json ∧
    (∀ i : ℤ, n.isFinite = true → n.toRat = i → |i| < 2 ^ 53 →
      n.jsonInteger? = some i ∧ -2 ^ 63 ≤ i ∧ i < 2 ^ 63 ∧
      (Scalar.number n).json = toString i ∧
      (∀ c ∈ (Scalar.number n).json.toList, c = '-' ∨ c.isDigit = true) ∧
      (Scalar.number n).json = if n = negativeZero then "0" else n.codeText) ∧
    (n.isFinite = true → (∀ i : ℤ, n.toRat = i → 2 ^ 53 ≤ |i|) →
      n.jsonInteger? = none ∧
      ('.' ∈ (Scalar.number n).json.toList ∨ 'e' ∈ (Scalar.number n).json.toList) ∧
      ∃ q, SignedNumeral (Scalar.number n).json.toList q ∧ ∀ m, IsNearest q m ↔ m = n) ∧
    (n.isFinite = false → (Scalar.number n).json = "null") ∧
    ∀ m : Binary64, n.isFinite = true → m.isFinite = true →
      ((Scalar.number n).json = (Scalar.number m).json ↔ n.equal m = true) := by
  have compact : n.toJson.compact = (Scalar.number n).json :=
    (Scalar.json_eq_compact (.number n)).symm
  refine ⟨compact, (indented_toJson n).trans compact, ?_, ?_, json_of_infinite, ?_⟩
  · intro i finite value small
    have integer := jsonInteger?_eq_some_iff.mpr ⟨finite, value, small⟩
    have text := json_of_integer integer
    have bounds := abs_lt.mp small
    refine ⟨integer, by omega, by omega, text, ?_, ?_⟩
    · intro c member
      rw [text] at member
      exact mem_toString member
    · split
      case isTrue signed =>
        subst signed
        have zero : i = 0 := by
          rw [toRat_negativeZero] at value
          exact_mod_cast value.symm
        rw [text, zero]
        rfl
      case isFalse signed => rw [text, codeText_of_integer integer signed]
  · intro finite large
    have fraction := (jsonInteger?_eq_none_iff finite).mpr large
    rw [json_of_fraction finite fraction]
    obtain ⟨q, spelled, nearest⟩ :=
      exists_signedNumeral_dataText finite (magnitude_ne_zero_of_fraction finite fraction)
    refine ⟨fraction, n.mark_mem_dataText, q, spelled, ?_⟩
    intro m
    constructor
    · intro nearest'
      exact nearest'.unique nearest
    · rintro rfl
      exact nearest
  · intro m finite finite'
    exact json_eq_iff finite finite'

/-- The greatest integer that is written as one, and the next one. -/
theorem json_faithful_at_cutOff :
    (Scalar.number ⟨true, 0x433fffffffffffff, by decide⟩).json = "-9007199254740991" ∧
    ∃ q, SignedNumeral (Scalar.number ⟨true, 0x4340000000000000, by decide⟩).json.toList q ∧
      ∀ m, IsNearest q m ↔ m = ⟨true, 0x4340000000000000, by decide⟩ := by
  have last : toRat ⟨true, 0x433fffffffffffff, by decide⟩ = (-9007199254740991 : ℤ) := by
    rw [toRat_of_negative rfl, size,
      show significand ⟨true, 0x433fffffffffffff, by decide⟩ = 9007199254740991 by decide,
      show exponent ⟨true, 0x433fffffffffffff, by decide⟩ = 0 by decide]
    norm_num
  have next : toRat ⟨true, 0x4340000000000000, by decide⟩ = (-9007199254740992 : ℤ) := by
    rw [toRat_of_negative rfl, size,
      show significand ⟨true, 0x4340000000000000, by decide⟩ = 4503599627370496 by decide,
      show exponent ⟨true, 0x4340000000000000, by decide⟩ = 1 by decide]
    norm_num
  obtain ⟨_, _, integers, _⟩ := json_faithful ⟨true, 0x433fffffffffffff, by decide⟩
  obtain ⟨_, _, _, fractions, _⟩ := json_faithful ⟨true, 0x4340000000000000, by decide⟩
  refine ⟨(integers _ rfl last (by norm_num)).2.2.2.1, (fractions rfl ?_).2.2⟩
  intro i value
  rw [next, Int.cast_inj] at value
  rw [← value]
  norm_num

end Binary64

end LiteralLang
