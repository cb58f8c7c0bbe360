import LiteralLang.CompileError
import LiteralLang.LogEvent
import LiteralLang.Text.Hex
import LiteralLang.Text.Units
import LiteralLang.Token

/-!
# Lexemes

Reading the one token that begins at a given character.  `lexeme` chooses by the first character
among numbers, strings, brackets and commas, and words, in this order.  It says how many further
characters the token takes and what is reported about it: numbers, strings and words leave an event
each, brackets and commas none.
-/

namespace LiteralLang

/-- A token, the number of characters it takes after its first one, and the event it leaves. -/
structure Lexeme where
  token : Token
  more : Nat
  event : Option LogEvent

namespace Lexeme

/-! ### Classes of characters -/

/-- Characters that separate tokens. -/
def isSpace (c : Char) : Bool := [' ', '\r', '\t', '\n', '\x0b', '\u00a0'].contains c

/-- Characters that begin a word. -/
def isWordStart (c : Char) : Bool := c.isAlpha || c == '_' || c == '$'

/-- Characters that continue a word. -/
def isWordPart (c : Char) : Bool := c.isAlphanum || c == '_' || c == '$'

def isExponentMark (c : Char) : Bool := c == 'e' || c == 'E'

def isSign (c : Char) : Bool := c == '+' || c == '-'

/-- Characters that continue a number. -/
def isNumberPart (c : Char) : Bool := c.isDigit || c == '.' || isExponentMark c || isSign c

def isQuote (c : Char) : Bool := c == '"' || c == '\x27'

/-! ### Numbers -/

/-- An exponent mark is misplaced unless a sign or a digit follows, a sign unless it stands between
an exponent mark and a digit. -/
def isMisplaced (previous : Option Char) (c : Char) (next : Option Char) : Bool :=
  (isExponentMark c && !next.any (fun n => isSign n || n.isDigit))
    || (isSign c && !(previous.any isExponentMark && next.any Char.isDigit))

/-- The part of a number run up to its first misplaced character, that character included. -/
def misplaced? (previous : Option Char) : List Char → Option (List Char)
  | [] => none
  | c :: rest =>
      if isMisplaced previous c rest.head? then some [c]
      else (misplaced? (some c) rest).map (c :: ·)

/-- The lower-case text of a run of number characters and the number it spells. -/
def number (run : List Char) : Except CompileError (String × Binary64) :=
  match misplaced? none run with
  | some text => .error (.invalidNumber (String.ofList text))
  | none =>
      let text := run.map Char.toLower
      match Decimal.ofText? text with
      | some decimal => .ok (String.ofList text, decimal.nearest)
      | none => .error (.numberFormat (String.ofList text))

/-- The number token that begins with a character at the offset, given what follows it. -/
def ofNumber (offset : Nat) (c : Char) (rest : List Char) : Except CompileError Lexeme :=
  let part := rest.takeWhile isNumberPart
  match number (c :: part) with
  | .error fault => .error fault
  | .ok (text, value) =>
      .ok
        ⟨⟨text, some (.number value), offset⟩, part.length, some (.numberToken text value offset)⟩

/-! ### Strings -/

/-- The character that a backslash and a character other than `u` stand for. -/
def escaped : Char → Char
  | 'n' => '\n'
  | 'f' => '\x0c'
  | 'r' => '\r'
  | 't' => '\t'
  | 'v' => '\x0b'
  | c => c

/-- A unicode escape whose backslash is at the offset, given what follows its `u`: the character it
names and the number of characters it takes after the `u`.  A high surrogate needs the escape of a
low one right behind it. -/
def unicodeEscape (offset : Nat) (text : List Char) : Except CompileError (Char × Nat) :=
  match Text.hexUnit? (text.take 4) with
  | none => .error (.invalidUnicodeEscape offset (String.ofList (text.take 4)))
  | some unit =>
      let shown (unit : Nat) : List Char := (Text.hexUnit unit).map Char.toUpper
      if Text.isHighSurrogate unit then
        match text.drop 4 with
        | '\\' :: 'u' :: behind =>
            match Text.hexUnit? (behind.take 4) with
            | none => .error (.invalidUnicodeEscape (offset + 6) (String.ofList (behind.take 4)))
            | some low =>
                if Text.isLowSurrogate low then .ok (Text.ofPair unit low, 10)
                else
                  .error (.invalidUnicodeEscape offset
                    (String.ofList (shown unit ++ '\\' :: 'u' :: shown low)))
        | _ => .error (.invalidUnicodeEscape offset (String.ofList (shown unit)))
      else if Text.isLowSurrogate unit then
        .error (.invalidUnicodeEscape offset (String.ofList (shown unit)))
      else .ok (Char.ofNat unit, 4)

/-- The rest of a string from the given offset on: its decoded characters behind those decoded so
far, and the offset behind its closing quote.  `atOther` says that the character just read was the
other quote standing for itself. -/
def stringRest (quote : Char) (start : Nat) (decoded : List Char) (atOther : Bool) (offset : Nat) :
    List Char → Except CompileError (List Char × Nat)
  | [] =>
      .error <|
        if atOther then .mismatchedQuote quote (if quote = '"' then '\x27' else '"') start
        else .unclosedString start
  | c :: rest =>
      if c = quote then .ok (decoded.reverse, offset + 1)
      else if c = '\\' then
        match rest with
        | [] => .error (.unclosedString start)
        | 'u' :: text =>
            match unicodeEscape offset text with
            | .error fault => .error fault
            | .ok (named, length) =>
                stringRest quote start (named :: decoded) false (offset + 2 + length)
                  (text.drop length)
        | letter :: text =>
            stringRest quote start (escaped letter :: decoded) false (offset + 2) text
      else stringRest quote start (c :: decoded) (isQuote c) (offset + 1) rest
  termination_by text => text.length
  decreasing_by all_goals (simp only [List.length_cons, List.length_drop]; omega)

/-- The string token that begins with a quote at the offset, given what follows the quote. -/
def ofQuote (quote : Char) (offset : Nat) (rest : List Char) : Except CompileError Lexeme :=
  match stringRest quote offset [] false (offset + 1) rest with
  | .error fault => .error fault
  | .ok (decoded, behind) =>
      let text := String.ofList decoded
      .ok
        ⟨⟨text, some (.text text), offset⟩, behind - offset - 1, some (.stringToken text offset)⟩

/-! ### Words -/

/-- The word that begins with a character at the offset, given what follows it. -/
def ofWord (offset : Nat) (c : Char) (rest : List Char) : Lexeme :=
  let part := rest.takeWhile isWordPart
  let text := String.ofList (c :: part)
  ⟨⟨text, none, offset⟩, part.length, some (.wordToken text offset)⟩

end Lexeme

/-- The token that begins with the given character at the offset, given what follows it. -/
def lexeme (offset : Nat) (c : Char) (rest : List Char) : Except CompileError Lexeme :=
  if c.isDigit || (c == '.' && rest.head?.any Char.isDigit) then Lexeme.ofNumber offset c rest
  else if Lexeme.isQuote c then Lexeme.ofQuote c offset rest
  else if c == '[' || c == ']' || c == ',' then .ok ⟨⟨c.toString, none, offset⟩, 0, none⟩
  else if Lexeme.isWordStart c then .ok (Lexeme.ofWord offset c rest)
  else .error (.unexpectedCharacter c offset)

end LiteralLang
