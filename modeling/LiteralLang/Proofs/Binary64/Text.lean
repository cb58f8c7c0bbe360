import LiteralLang.Proofs.Binary64.Order
import LiteralLang.Proofs.Token.Grammar
import LiteralLang.Proofs.Decimal.Layout

/-!
# Texts of numbers in code

A number in code is a sign and the text of its size.  The text of a finite size is a numeral that
rounds to the number, so the text tells the number, its sign included; only a NaN has no sign and
shows none of its bits.  The text for display differs in the word for infinity, and tells as much.
-/

namespace LiteralLang.Binary64

variable {x y : Binary64} {c : Char}

/-- The text of a number without its sign. -/
def sizeText (x : Binary64) : String :=
  if x.isFinite then String.ofList (x.shortest .upward).plain else "Infinity"

def signText (negative : Bool) : String := if negative then "-" else ""

theorem codeText_eq (number : x.isNaN = false) :
    x.codeText = signText x.negative ++ x.sizeText := by
  rw [codeText, plainText, number, signText, sizeText]
  cases x.negative with
  | true => rfl
  | false => exact String.empty_append.symm

theorem codeText_of_isNaN (notNumber : x.isNaN = true) : x.codeText = "NaN" := by
  rw [codeText, plainText, if_pos notNumber]

/-! ### The size -/

theorem exists_numeral_sizeText (finite : x.isFinite = true) :
    ∃ d, Numeral x.sizeText.toList d ∧ d.nearest.magnitude = x.magnitude := by
  obtain ⟨d, numeral, value⟩ := Decimal.exists_numeral_plain (x.shortest .upward)
  refine ⟨d, ?_, ?_⟩
  · simpa [sizeText, finite] using numeral
  · rw [Decimal.nearest_congr value]
    exact readsBack_iff.mp (readsBack_shortest finite)

theorem sizeText_of_infinite (infinite : x.isFinite = false) : x.sizeText = "Infinity" := by
  simp [sizeText, infinite]

/-- The text of a size begins with a digit, a point or the word for infinity. -/
theorem exists_sizeText_eq_cons (x : Binary64) :
    ∃ c more, x.sizeText.toList = c :: more ∧ (c.isDigit = true ∨ c = '.' ∨ c = 'I') := by
  by_cases finite : x.isFinite = true
  · obtain ⟨d, numeral, -⟩ := exists_numeral_sizeText finite
    cases text : x.sizeText.toList with
    | nil =>
      rw [text] at numeral
      have read : Decimal.ofText? [] = some d := numeral.read
      cases read
    | cons c more =>
      rw [text] at numeral
      have begins := Lexeme.numeral_begins numeral []
      simp only [Bool.or_eq_true, Bool.and_eq_true, beq_iff_eq] at begins
      refine ⟨c, more, rfl, ?_⟩
      rcases begins with digit | ⟨point, -⟩
      · exact Or.inl digit
      · exact Or.inr (Or.inl point)
  · rw [sizeText_of_infinite (Bool.eq_false_iff.mpr finite)]
    exact ⟨'I', "nfinity".toList, rfl, Or.inr (Or.inr rfl)⟩

/-- No numeral is the word for infinity. -/
theorem not_numeral_infinity (d : Decimal) : ¬ Numeral "Infinity".toList d := by
  intro numeral
  have part := Lexeme.numeral_isNumberPart numeral 'I' List.mem_cons_self
  exact absurd part (by decide)

theorem sizeText_inj (number : x.isNaN = false) (number' : y.isNaN = false)
    (same : x.sizeText = y.sizeText) : x.magnitude = y.magnitude := by
  cases finite : x.isFinite with
  | true =>
    obtain ⟨d, numeral, nearest⟩ := exists_numeral_sizeText finite
    cases finite' : y.isFinite with
    | true =>
      obtain ⟨e, numeral', nearest'⟩ := exists_numeral_sizeText finite'
      rw [same] at numeral
      rw [← nearest, ← nearest', numeral.unique numeral']
    | false =>
      rw [same, sizeText_of_infinite finite'] at numeral
      exact absurd numeral (not_numeral_infinity d)
  | false =>
    cases finite' : y.isFinite with
    | true =>
      obtain ⟨e, numeral', -⟩ := exists_numeral_sizeText finite'
      rw [← same, sizeText_of_infinite finite] at numeral'
      exact absurd numeral' (not_numeral_infinity e)
    | false => rw [magnitude_of_infinite number finite, magnitude_of_infinite number' finite']

/-! ### Sign and size -/

theorem signText_append_inj {negative negative' : Bool}
    (same : (signText negative).toList ++ x.sizeText.toList =
      (signText negative').toList ++ y.sizeText.toList) :
    negative = negative' ∧ x.sizeText = y.sizeText := by
  obtain ⟨c, more, begins, noSign⟩ := exists_sizeText_eq_cons x
  obtain ⟨c', more', begins', noSign'⟩ := exists_sizeText_eq_cons y
  have different : c ≠ '-' := by
    rintro rfl
    simp at noSign
  have different' : c' ≠ '-' := by
    rintro rfl
    simp at noSign'
  rw [← String.toList_inj]
  cases negative with
  | false =>
    cases negative' with
    | false => exact ⟨rfl, same⟩
    | true =>
      simp only [signText, begins, begins'] at same
      exact absurd (List.cons.inj same).1 different
  | true =>
    cases negative' with
    | false =>
      simp only [signText, begins, begins'] at same
      exact absurd (List.cons.inj same).1.symm different'
    | true => exact ⟨rfl, (List.cons.inj same).2⟩

/-- The text of a number in code tells its bits, if it is no NaN. -/
theorem codeText_inj (number : x.isNaN = false) (number' : y.isNaN = false)
    (same : x.codeText = y.codeText) : x = y := by
  rw [codeText_eq number, codeText_eq number', ← String.toList_inj, String.toList_append,
    String.toList_append] at same
  obtain ⟨sign, size⟩ := signText_append_inj same
  exact eq_of_magnitude_eq sign (sizeText_inj number number' size)

/-! ### Numbers for display -/

theorem displayText_of_isFinite (finite : x.isFinite = true) : x.displayText = x.codeText := by
  rw [displayText, codeText, plainText, plainText, isNaN_of_isFinite finite, finite]
  rfl

theorem displayText_of_infinite (number : x.isNaN = false) (infinite : x.isFinite = false) :
    x.displayText = if x.negative then "-inf" else "inf" := by
  rw [displayText, plainText, number, infinite]
  cases x.negative <;> rfl

/-- A finite number is displayed without letters other than exponent marks. -/
theorem isNumberPart_of_mem_displayText (finite : x.isFinite = true)
    (member : c ∈ x.displayText.toList) : Lexeme.isNumberPart c = true := by
  obtain ⟨d, numeral, -⟩ := exists_numeral_sizeText finite
  rw [displayText_of_isFinite finite, codeText_eq (isNaN_of_isFinite finite),
    String.toList_append, List.mem_append] at member
  rcases member with sign | size
  · cases negative : x.negative with
    | true =>
      rw [negative] at sign
      rw [List.mem_singleton.mp sign]
      rfl
    | false =>
      rw [negative] at sign
      exact absurd sign List.not_mem_nil
  · exact Lexeme.numeral_isNumberPart numeral c size

theorem blank_not_mem_displayText (x : Binary64) : ' ' ∉ x.displayText.toList := by
  cases finite : x.isFinite with
  | true =>
    intro member
    exact absurd (isNumberPart_of_mem_displayText finite member) (by decide)
  | false =>
    cases number : x.isNaN with
    | true =>
      rw [displayText, plainText, if_pos number]
      decide
    | false =>
      rw [displayText_of_infinite number finite]
      cases x.negative <;> decide

theorem displayText_ne_of_infinite (finite : x.isFinite = true) (number : y.isNaN = false)
    (infinite : y.isFinite = false) : x.displayText ≠ y.displayText := by
  have letter : 'i' ∈ y.displayText.toList := by
    rw [displayText_of_infinite number infinite]
    cases y.negative <;> decide
  intro same
  rw [← same] at letter
  exact absurd (isNumberPart_of_mem_displayText finite letter) (by decide)

/-- The text of a number for display tells its bits, if it is no NaN. -/
theorem displayText_inj (number : x.isNaN = false) (number' : y.isNaN = false)
    (same : x.displayText = y.displayText) : x = y := by
  cases finite : x.isFinite with
  | true =>
    cases finite' : y.isFinite with
    | true =>
      rw [displayText_of_isFinite finite, displayText_of_isFinite finite'] at same
      exact codeText_inj number number' same
    | false => exact absurd same (displayText_ne_of_infinite finite number' finite')
  | false =>
    cases finite' : y.isFinite with
    | true => exact absurd same.symm (displayText_ne_of_infinite finite' number finite)
    | false =>
      rw [displayText_of_infinite number finite, displayText_of_infinite number' finite'] at same
      have sign : x.negative = y.negative := by
        cases negative : x.negative <;> cases negative' : y.negative <;>
          simp [negative, negative'] at same ⊢
      apply eq_of_magnitude_eq sign
      rw [magnitude_of_infinite number finite, magnitude_of_infinite number' finite']

end LiteralLang.Binary64
