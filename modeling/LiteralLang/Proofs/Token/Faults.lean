import LiteralLang.Proofs.Token.Scan

/-!
# Faults of lexemes

Which lexeme a fault of a source belongs to.  A number begins with a digit, or with a point in front
of one, and a string with a quote; each has its own kinds of fault, and a character that begins no
lexeme is named as it is.  So the kind of the fault tells what stands where the scanner stops.
-/

namespace LiteralLang

/-- The fault is one of a number. -/
def CompileError.OfNumber : CompileError → Prop
  | .invalidNumber _ | .numberFormat _ => True
  | _ => False

/-- The fault is one of a string. -/
def CompileError.OfString : CompileError → Prop
  | .unclosedString _ | .invalidUnicodeEscape _ _ | .mismatchedQuote _ _ _ => True
  | _ => False

namespace Lexeme

/-- The text begins with a digit, or with a point and a digit behind it. -/
inductive BeginsNumber : List Char → Prop
  | digit {c rest} : c.isDigit = true → BeginsNumber (c :: rest)
  | point {d rest} : d.isDigit = true → BeginsNumber ('.' :: d :: rest)

variable {c quote : Char} {rest run text result : List Char} {offset start behind : Nat}
  {atOther : Bool} {fault : CompileError}

/-! ### First characters -/

theorem beginsNumber_iff : BeginsNumber (c :: rest) ↔
    (c.isDigit || (c == '.' && rest.head?.any Char.isDigit)) = true := by
  rw [Bool.or_eq_true, Bool.and_eq_true, beq_iff_eq]
  constructor
  · intro begins
    cases begins with
    | digit digit => exact Or.inl digit
    | point digit => exact Or.inr ⟨rfl, digit⟩
  · rintro (digit | ⟨rfl, digit⟩)
    · exact .digit digit
    · cases rest with
      | nil => simp at digit
      | cons d rest => exact .point digit

theorem BeginsNumber.plain (begins : BeginsNumber (c :: rest)) : c.isDigit = true ∨ c = '.' := by
  cases begins with
  | digit digit => exact Or.inl digit
  | point _ => exact Or.inr rfl

theorem BeginsNumber.not_isSpace (begins : BeginsNumber (c :: rest)) : isSpace c = false := by
  rw [← Bool.not_eq_true, Lexeme.isSpace_iff]
  intro space
  have plain := begins.plain
  rcases space with rfl | rfl | rfl | rfl | rfl | rfl <;> exact absurd plain (by decide)

/-- Where a number begins, a number is read. -/
theorem BeginsNumber.lexeme_eq (begins : BeginsNumber (c :: rest)) (offset : Nat) :
    lexeme offset c rest = ofNumber offset c rest := by
  rw [lexeme, if_pos (beginsNumber_iff.mp begins)]

theorem not_isSpace_of_isQuote (opens : isQuote c = true) : isSpace c = false := by
  rcases isQuote_iff.mp opens with rfl | rfl <;> rfl

theorem no_number_of_isQuote (opens : isQuote c = true) (rest : List Char) :
    (c.isDigit || (c == '.' && rest.head?.any Char.isDigit)) = false := by
  rcases isQuote_iff.mp opens with rfl | rfl <;> rfl

/-- Where a quote stands, a string is read. -/
theorem lexeme_of_isQuote (opens : isQuote c = true) (offset : Nat) (rest : List Char) :
    lexeme offset c rest = ofQuote c offset rest := by
  rw [lexeme, no_number_of_isQuote opens, opens]
  rfl

/-! ### Kinds of fault -/

theorem ofNumber_of_number (refused : number run = .error fault) : fault.OfNumber := by
  unfold number at refused
  dsimp only at refused
  split at refused
  · cases refused
    trivial
  · split at refused
    · cases refused
    · cases refused
      trivial

theorem ofString_of_unicodeEscape (refused : unicodeEscape offset text = .error fault) :
    fault.OfString := by
  unfold unicodeEscape at refused
  dsimp only at refused
  split at refused
  · cases refused
    trivial
  · split at refused
    · split at refused
      · split at refused
        · cases refused
          trivial
        · split at refused
          · cases refused
          · cases refused
            trivial
      · cases refused
        trivial
    · split at refused
      · cases refused
        trivial
      · cases refused

theorem ofString_of_stringRest {decoded : List Char}
    (refused : stringRest quote start decoded atOther offset text = .error fault) :
    fault.OfString := by
  fun_induction stringRest quote start decoded atOther offset text
  case case1 decoded atOther _ =>
    cases refused
    cases atOther <;> trivial
  case case2 => cases refused
  case case3 =>
    cases refused
    trivial
  case case4 escape _ =>
    cases refused
    exact ofString_of_unicodeEscape escape
  case case5 ih | case6 ih | case7 ih => exact ih refused

/-- A lexeme that cannot be read is a number with a fault of a number, a string with a fault of a
string, or begins with a character that no lexeme begins with. -/
theorem lexeme_eq_error (refused : lexeme offset c rest = .error fault) :
    (BeginsNumber (c :: rest) ∧ fault.OfNumber) ∨ (isQuote c = true ∧ fault.OfString) ∨
      fault = .unexpectedCharacter c offset := by
  unfold lexeme at refused
  split at refused
  case isTrue begins =>
    unfold ofNumber at refused
    dsimp only at refused
    split at refused
    case h_1 misspelled =>
      cases refused
      exact Or.inl ⟨beginsNumber_iff.mpr begins, ofNumber_of_number misspelled⟩
    case h_2 => cases refused
  case isFalse =>
    split at refused
    case isTrue opens =>
      unfold ofQuote at refused
      split at refused
      case h_1 faulty =>
        cases refused
        exact Or.inr (Or.inl ⟨opens, ofString_of_stringRest faulty⟩)
      case h_2 => cases refused
    case isFalse =>
      split at refused
      case isTrue => cases refused
      case isFalse =>
        split at refused
        case isTrue => cases refused
        case isFalse =>
          cases refused
          exact Or.inr (Or.inr rfl)

end Lexeme

/-! ### Where a scan stops -/

open Lexeme (BeginsNumber isQuote lexeme_eq_error)
open Scan (Reads)

variable {source : String} {fault : CompileError} {tokens : List Token} {offset : Nat}
  {rest : List Char}

/-- A fault of a number is one where a number begins, behind lexemes that are all read. -/
theorem exists_beginsNumber_of_tokenize (refused : tokenize source = .error fault)
    (kind : fault.OfNumber) :
    ∃ tokens offset rest, Reads 0 source.toList tokens offset rest ∧ BeginsNumber rest := by
  obtain ⟨tokens, offset, c, rest, run, -, stops⟩ := Scan.tokenize_eq_error_iff.mp refused
  rcases lexeme_eq_error stops with ⟨begins, -⟩ | ⟨-, ofString⟩ | rfl
  · exact ⟨tokens, offset, c :: rest, run, begins⟩
  · cases fault <;> contradiction
  · contradiction

/-- A fault of a string is one where a quote stands, behind lexemes that are all read. -/
theorem exists_isQuote_of_tokenize (refused : tokenize source = .error fault)
    (kind : fault.OfString) :
    ∃ tokens offset c rest, Reads 0 source.toList tokens offset (c :: rest) ∧
      isQuote c = true := by
  obtain ⟨tokens, offset, c, rest, run, -, stops⟩ := Scan.tokenize_eq_error_iff.mp refused
  rcases lexeme_eq_error stops with ⟨-, ofNumber⟩ | ⟨opens, -⟩ | rfl
  · cases fault <;> contradiction
  · exact ⟨tokens, offset, c, rest, run, opens⟩
  · contradiction

/-- The scan of the source has found the tokens and reported them, and goes on with the rest at the
offset. -/
def Scan.GoesOn (source : String) (tokens : List Token) (offset : Nat) (rest : List Char) : Prop :=
  continued [] [] 0 source.toList =
    continued tokens.reverse (tokens.filterMap Token.event?).reverse offset rest

/-- A scan gets as far as its lexemes are read. -/
theorem Scan.Reads.goesOn (run : Reads 0 source.toList tokens offset rest) :
    GoesOn source tokens offset rest := by
  rw [GoesOn, run.continued_eq, List.append_nil, List.append_nil]

end LiteralLang
