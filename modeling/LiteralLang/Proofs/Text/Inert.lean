import LiteralLang.Node.Code
import LiteralLang.Proofs.Text.Classes
import LiteralLang.Proofs.Text.Units

/-!
# Inert text

What stands in the strings of generated code: letters, digits and spaces of ASCII and the escapes
of units.  Inert text is printable and has no quote, and a string written in generated code is inert
text of its own units.
-/

namespace LiteralLang.Text

variable {c : Char}

/-- A lower-case hexadecimal digit. -/
def IsLowerHex (c : Char) : Prop := c.isDigit = true ∨ 'a' ≤ c ∧ c ≤ 'f'

/-- Inert text and the units that it stands for: letters, digits and spaces of ASCII as they are,
and four lower-case hexadecimal digits behind a backslash and a `u`. -/
inductive Inert : List Char → List Nat → Prop
  | nil : Inert [] []
  | plain {c text units} : c.isAlphanum = true ∨ c = ' ' → Inert text units →
      Inert (c :: text) (c.toNat :: units)
  | escape {digits unit text units} : hexUnit? digits = some unit →
      (∀ d ∈ digits, IsLowerHex d) → Inert text units →
      Inert ('\\' :: 'u' :: (digits ++ text)) (unit :: units)

variable {text : List Char} {codes : List Nat} {unit : Nat}

theorem isLowerHex_of_mem_hexUnit (member : c ∈ hexUnit unit) : IsLowerHex c := by
  have digit (n : Nat) : IsLowerHex (hexDigit (n % 16)) := by
    have all : ∀ n < 16, (hexDigit n).isDigit = true ∨ 'a' ≤ hexDigit n ∧ hexDigit n ≤ 'f' := by
      decide
    exact all (n % 16) (Nat.mod_lt n (by decide))
  simp only [hexUnit, List.mem_cons, List.not_mem_nil, or_false] at member
  rcases member with rfl | rfl | rfl | rfl <;> exact digit _

theorem Inert.unitEscape (small : unit < 0x10000) (inert : Inert text codes) :
    Inert (Text.unitEscape unit ++ text) (unit :: codes) := by
  apply Inert.escape (hexUnit?_hexUnit small) _ inert
  intro d member
  exact isLowerHex_of_mem_hexUnit member

/-- A character of a string in generated code stands for its units. -/
theorem Inert.codeSpelling (c : Char) (inert : Inert text codes) :
    Inert (Text.codeSpelling c ++ text) (units c ++ codes) := by
  unfold Text.codeSpelling
  split
  case isTrue plain =>
    rw [isInert, Bool.or_eq_true, beq_iff_eq] at plain
    have small : c.toNat < 0x10000 := by
      rcases plain with alphanum | rfl
      · rw [isAlphanum_iff] at alphanum
        omega
      · decide
    rw [units_eq_single small]
    exact .plain plain inert
  case isFalse =>
    by_cases basic : c.toNat < 0x10000
    · rw [units_eq_single basic, List.flatMap_singleton]
      exact .unitEscape basic inert
    · obtain ⟨high, low, pair, isHigh, isLow, -⟩ := units_eq_pair basic
      have highRange := isHighSurrogate_iff.mp isHigh
      have lowRange := isLowSurrogate_iff.mp isLow
      rw [pair, List.flatMap_cons, List.flatMap_singleton, List.append_assoc]
      exact .unitEscape (by omega) (.unitEscape (by omega) inert)

theorem inert_flatMap_codeSpelling (text : List Char) :
    Inert (text.flatMap Text.codeSpelling) (text.flatMap units) := by
  induction text with
  | nil => exact .nil
  | cons c text ih =>
    rw [List.flatMap_cons, List.flatMap_cons]
    exact .codeSpelling c ih

/-- A printable character of ASCII. -/
def IsPrintable (c : Char) : Prop := 0x20 ≤ c.toNat ∧ c.toNat ≤ 0x7E

instance : DecidablePred IsPrintable := fun c =>
  inferInstanceAs (Decidable (0x20 ≤ c.toNat ∧ c.toNat ≤ 0x7E))

/-- Printable text without a quote. -/
def Unquoted (text : List Char) : Prop := ∀ c ∈ text, IsPrintable c ∧ c ≠ '"'

instance : DecidablePred Unquoted := List.decidableBAll fun c => IsPrintable c ∧ c ≠ '"'

theorem isPrintable_of_alphanum (alphanum : c.isAlphanum = true) : IsPrintable c ∧ c ≠ '"' := by
  rw [isAlphanum_iff] at alphanum
  constructor
  · unfold IsPrintable
    omega
  · rintro rfl
    exact absurd alphanum (by decide)

theorem IsLowerHex.isAlphanum (digit : IsLowerHex c) : c.isAlphanum = true := by
  rw [isAlphanum_iff]
  rcases digit with decimal | ⟨low, high⟩
  · exact Or.inl (isDigit_iff.mp decimal)
  · have above : 97 ≤ c.toNat := UInt32.le_iff_toNat_le.mp low
    have below : c.toNat ≤ 102 := UInt32.le_iff_toNat_le.mp high
    omega

/-- Inert text does not end the string that it stands in. -/
theorem Inert.unquoted (inert : Inert text codes) : Unquoted text := by
  induction inert with
  | nil =>
    intro c member
    simp at member
  | @plain c text units plain _ ih =>
    refine List.forall_mem_cons.mpr ⟨?_, ih⟩
    rcases plain with alphanum | rfl
    · exact isPrintable_of_alphanum alphanum
    · decide
  | @escape digits unit text units _ lower _ ih =>
    have backslash : IsPrintable '\\' ∧ '\\' ≠ '"' := by decide
    have letter : IsPrintable 'u' ∧ 'u' ≠ '"' := by decide
    intro c member
    simp only [List.mem_cons, List.mem_append] at member
    rcases member with rfl | rfl | digit | behind
    · exact backslash
    · exact letter
    · exact isPrintable_of_alphanum (lower c digit).isAlphanum
    · exact ih c behind

end LiteralLang.Text
