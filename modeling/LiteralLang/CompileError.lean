import LiteralLang.Decimal.Layout

/-!
# Compile errors

Everything that can be wrong with a source text, a list of tokens or a value to be printed, and the
sentence that reports it.
-/

namespace LiteralLang

/-- What the grammar allows where a token is in the wrong place. -/
inductive Expectation where
  | literal
  | closingBracket
  | endOfInput
  deriving DecidableEq

def Expectation.text : Expectation → String
  | .literal => "a literal"
  | .closingBracket => "']'"
  | .endOfInput => "end of input"

/-- Why a value has no literal form. -/
inductive Unprintable where
  | number (value : Binary64)
  | nesting (limit : Nat)
  deriving DecidableEq

def Unprintable.text : Unprintable → String
  | .number value => "number " ++ value.displayText
  | .nesting limit => "arrays nested deeper than " ++ limit.repr

/-- A reason for refusing a source text, tokens or a value.  Offsets count characters from the
start of the source. -/
inductive CompileError where
  | unexpectedCharacter (character : Char) (offset : Nat)
  /-- A number with a misplaced exponent mark or sign; the text ends with it. -/
  | invalidNumber (text : String)
  /-- A run of number characters that spells no decimal. -/
  | numberFormat (text : String)
  | unclosedString (offset : Nat)
  /-- A unicode escape that names no character. -/
  | invalidUnicodeEscape (offset : Nat) (escape : String)
  /-- A string that ends with the quote of the other style. -/
  | mismatchedQuote (opening closing : Char) (offset : Nat)
  /-- A token, or the end of the input, where the grammar wants something else. -/
  | unexpectedToken (expected : Expectation) (found : Option String)
  | recursionLimit (limit : Nat)
  | unprintable (reason : Unprintable)
  deriving DecidableEq

namespace CompileError

def numberFormatCause : String := "invalid float literal"

/-- The words for the token that was found, or for the end of the input. -/
def foundText (found : Option String) : String := found.getD "end of input"

def message : CompileError → String
  | .unexpectedCharacter character offset =>
      "Unexpected next character: '" ++ character.toString ++ "' at offset " ++ offset.repr
  | .invalidNumber text => "invalid number: " ++ text
  | .numberFormat text => "invalid number format '" ++ text ++ "': " ++ numberFormatCause
  | .unclosedString offset => "unclosed string starting at offset " ++ offset.repr
  | .invalidUnicodeEscape offset escape =>
      "invalid unicode escape '\\u" ++ escape ++ "' at offset " ++ offset.repr
  | .mismatchedQuote opening closing offset =>
      "mismatched quotes: string opened with " ++ opening.toString ++ " at offset " ++ offset.repr
        ++ " but ended with " ++ closing.toString
  | .unexpectedToken expected found =>
      "parse error: expecting " ++ expected.text ++ ", found " ++ foundText found
  | .recursionLimit limit => "array nesting exceeds the recursion limit of " ++ limit.repr
  | .unprintable reason => "value has no literal source form: " ++ reason.text

end CompileError

end LiteralLang
