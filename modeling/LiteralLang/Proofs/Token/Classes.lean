import LiteralLang.Proofs.Text.Classes
import LiteralLang.Token.Lexeme

/-!
# Classes of characters in source text

The classes that tell blanks, words and numbers apart, and the characters that escapes stand for,
written out.
-/

namespace LiteralLang.Lexeme

variable {c : Char}

theorem isSpace_iff :
    isSpace c = true ↔ c = ' ' ∨ c = '\r' ∨ c = '\t' ∨ c = '\n' ∨ c = '\x0b' ∨ c = '\u00a0' := by
  simp [isSpace]

theorem isQuote_iff : isQuote c = true ↔ c = '"' ∨ c = '\x27' := by
  rw [isQuote, Bool.or_eq_true, beq_iff_eq, beq_iff_eq]

theorem isExponentMark_iff : isExponentMark c = true ↔ c = 'e' ∨ c = 'E' := by
  simp [isExponentMark]

theorem isSign_iff : isSign c = true ↔ c = '+' ∨ c = '-' := by
  simp [isSign]

/-- Letters, the underscore and the dollar sign begin a word. -/
theorem isWordStart_iff : isWordStart c = true ↔
    ((65 ≤ c.toNat ∧ c.toNat ≤ 90) ∨ (97 ≤ c.toNat ∧ c.toNat ≤ 122)) ∨ c = '_' ∨ c = '$' := by
  rw [isWordStart, Bool.or_eq_true, Bool.or_eq_true, Text.isAlpha_iff, beq_iff_eq, beq_iff_eq,
    or_assoc]

/-- Digits go on a word too. -/
theorem isWordPart_iff : isWordPart c = true ↔
    (48 ≤ c.toNat ∧ c.toNat ≤ 57) ∨ isWordStart c = true := by
  rw [isWordPart, Bool.or_eq_true, Bool.or_eq_true, Text.isAlphanum_iff, beq_iff_eq, beq_iff_eq,
    isWordStart_iff]
  tauto

theorem isNumberPart_iff : isNumberPart c = true ↔
    (48 ≤ c.toNat ∧ c.toNat ≤ 57) ∨ c = '.' ∨ (c = 'e' ∨ c = 'E') ∨ c = '+' ∨ c = '-' := by
  rw [isNumberPart, Bool.or_eq_true, Bool.or_eq_true, Bool.or_eq_true, Text.isDigit_iff, beq_iff_eq,
    isExponentMark_iff, isSign_iff]
  tauto

/-- The letters with a meaning of their own behind a backslash, `u` apart. -/
def escapes : List (Char × Char) :=
  [('n', '\n'), ('f', '\x0c'), ('r', '\r'), ('t', '\t'), ('v', '\x0b')]

/-- Every other character stands for itself behind a backslash. -/
theorem escaped_eq (c : Char) : escaped c = (escapes.lookup c).getD c := by
  unfold escaped
  split
  case h_6 n f r t v =>
    have plain : escapes.lookup c = none := by
      rw [List.lookup_eq_none_iff]
      simpa [escapes] using ⟨n, f, r, t, v⟩
    rw [plain]
    rfl
  all_goals rfl

end LiteralLang.Lexeme
