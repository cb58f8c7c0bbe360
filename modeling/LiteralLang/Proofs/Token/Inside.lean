import LiteralLang.Proofs.Token.Scan

/-!
# Sources inside of texts

A source text is cut into the same tokens wherever it stands in a longer text, if a separator or the
end of the text is behind it.  Then none of its lexemes can go on there, and only the offsets of its
tokens change.
-/

namespace LiteralLang

/-- The token with its offset raised. -/
def Token.raised (distance : Nat) (token : Token) : Token :=
  { token with offset := token.offset + distance }

/-- The offset of a token does not matter to the grammar. -/
theorem Token.map_symbol_raised (distance : Nat) (tokens : List Token) :
    (tokens.map (Token.raised distance)).map Token.symbol = tokens.map Token.symbol := by
  rw [List.map_map]
  rfl

namespace Lexeme

/-- Blanks, brackets and commas, which go on no lexeme. -/
def isSeparator (c : Char) : Bool := isSpace c || c == '[' || c == ']' || c == ','

variable {c : Char} {next behind : Option Char} {run : List Char} {shown : String}
  {decoded : Option Decoded}

theorem not_part_of_isSeparator (separates : isSeparator c = true) :
    isWordPart c = false ∧ isNumberPart c = false := by
  simp only [isSeparator, Bool.or_eq_true, isSpace_iff, beq_iff_eq] at separates
  rcases separates with (((rfl | rfl | rfl | rfl | rfl | rfl) | rfl) | rfl) | rfl <;> decide

/-- A lexeme is one in front of a separator and at the end, whatever it was in front of. -/
theorem Spells.separated (spells : Spells next run shown decoded)
    (separates : behind.all isSeparator = true) : Spells behind run shown decoded := by
  have noPart : behind.any isWordPart = false ∧ behind.any isNumberPart = false := by
    cases behind with
    | none => exact ⟨rfl, rfl⟩
    | some c => exact not_part_of_isSeparator separates
  cases spells with
  | punctuation which => exact .punctuation which
  | word begins inside _ => exact .word begins inside noPart.1
  | number numeral _ => exact .number numeral noPart.2
  | string isQuote inside => exact .string isQuote inside

end Lexeme

namespace Scan

open Lexeme (isSeparator)

variable {offset behind : Nat} {text rest : List Char} {tokens : List Token}

/-- A run over a whole text is one over the text in front of a separator. -/
theorem Reads.raised (run : Reads offset text tokens behind [])
    (separates : rest.head?.all isSeparator = true) (distance : Nat) :
    Reads (offset + distance) (text ++ rest) (tokens.map (Token.raised distance))
      (behind + distance) rest := by
  generalize whole : ([] : List Char) = none at run
  induction run with
  | done =>
    subst whole
    exact .done
  | blank space _ ih =>
    have later := ih whole
    rw [Nat.add_right_comm] at later
    exact .blank space later
  | @lexeme offset c part tail shown decoded tokens behind none spells _ ih =>
    have later := ih whole
    have inside : Lexeme.Spells (tail ++ rest).head? (c :: part) shown decoded := by
      cases tail with
      | nil => exact spells.separated separates
      | cons first tail => exact spells
    rw [Nat.add_right_comm, Nat.add_right_comm offset] at later
    rw [List.cons_append, List.append_assoc, List.map_cons]
    exact .lexeme inside later

end Scan

end LiteralLang
