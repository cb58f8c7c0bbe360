import LiteralLang.Proofs.Text.Units
import LiteralLang.Token.Scan
import Mathlib.Logic.Relation

/-!
# The scanner as a cursor

Scanning by an index that moves over the characters of the source.  Every step looks at characters
by their index only, and takes pieces of them and differences of numbers: a piece that does not lie
in the source and a difference below zero have no result at all.  What the cursor comes to is what
`tokenize` gives.
-/

namespace LiteralLang

/-- A computation with indices: there is no result at all where one is out of range, and otherwise
there is a value or a fault. -/
abbrev Checked (α : Type) := ExceptT CompileError Option α

/-- A string that is being read: its opening quote with the index of that, and the characters
decoded so far, the last first. -/
structure OpenString where
  quote : Char
  start : Nat
  decoded : List Char

/-- The string with one character more. -/
def OpenString.push (opened : OpenString) (c : Char) : OpenString :=
  { opened with decoded := c :: opened.decoded }

/-- What the scanner is in the middle of. -/
inductive Cursor.Task where
  | between
  /-- A number that begins at `start`, of which the text has been read. -/
  | number (start : Nat) (text : List Char)
  | word (start : Nat) (text : List Char)
  | string (opened : OpenString) (atOther : Bool)
  /-- The character behind a backslash. -/
  | escape (opened : OpenString)
  /-- A unicode escape, from its `u` on. -/
  | unicode (opened : OpenString)
  /-- What follows the digits of a high surrogate, whose escape is at the offset. -/
  | behindHigh (opened : OpenString) (offset high : Nat)
  /-- The unicode escape that follows it, from its `u` on. -/
  | secondUnicode (opened : OpenString) (offset high : Nat)

/-- Where the scanner stands: its index, the tokens found and the events reported so far, of both
the last first, and what it is in the middle of. -/
structure Cursor where
  index : Nat
  found : List Token
  events : List LogEvent
  task : Cursor.Task

namespace Cursor

def start : Cursor := ⟨0, [], [], .between⟩

/-- What comes of a step. -/
inductive Outcome where
  | goesOn (later : Cursor)
  | ends (tokens : List Token)

/-! ### Indices -/

/-- The piece of the characters from one index up to another. -/
def slice (chars : List Char) (first behind : Nat) : Checked (List Char) :=
  if first ≤ behind ∧ behind ≤ chars.length then return (chars.take behind).drop first
  else (none : Option _)

def difference (a b : Nat) : Checked Nat :=
  if b ≤ a then return a - b else (none : Option _)

/-- The character in front of the index. -/
def previous (chars : List Char) : (index : Nat) → Option Char
  | 0 => none
  | index + 1 => chars[index]?

/-- The character of a code point. -/
def character? (code : Nat) : Option Char :=
  if code.isValidChar then some (Char.ofNat code) else none

/-! ### Unicode escapes -/

/-- Four bytes, all of which are hexadecimal digits. -/
def IsDigits (text : List Char) : Prop :=
  (String.ofList text).utf8ByteSize = 4 ∧ ∀ c ∈ text, Text.IsHexDigit c

instance : DecidablePred Text.IsHexDigit := fun c =>
  inferInstanceAs (Decidable (('0' ≤ c ∧ c ≤ '9') ∨ ('a' ≤ c ∧ c ≤ 'f') ∨ ('A' ≤ c ∧ c ≤ 'F')))

instance : DecidablePred IsDigits := fun text =>
  have : Decidable (∀ c ∈ text, Text.IsHexDigit c) := List.decidableBAll Text.IsHexDigit text
  instDecidableAnd

/-- The unit whose digits are behind the index, and the index behind them.  The escape is reported
at the offset. -/
def readUnit (chars : List Char) (index offset : Nat) : Checked (Nat × Nat) := do
  let first := index + 1
  let digits ← slice chars first (min (first + 4) chars.length)
  if IsDigits digits then
    match Text.hexUnit? digits with
    | some unit => return (unit, first + 4)
    | none => throw (.invalidUnicodeEscape offset (String.ofList digits))
  else throw (.invalidUnicodeEscape offset (String.ofList digits))

/-- The code point of a high and a low surrogate. -/
def combined (high low : Nat) : Checked Nat := do
  let upper ← difference high 0xD800
  let lower ← difference low 0xDC00
  return 0x10000 + upper <<< 10 + lower

/-- The digits of a unit in upper case. -/
def shownUnit (unit : Nat) : List Char := (Text.hexUnit unit).map Char.toUpper

/-- Goes on in the string behind an escape that names the character, if there is one. -/
def named (state : Cursor) (opened : OpenString) (character : Option Char) (offset : Nat)
    (shown : List Char) : Checked Outcome :=
  match character with
  | some c => return .goesOn { state with task := .string (opened.push c) false }
  | none => throw (.invalidUnicodeEscape offset (String.ofList shown))

/-! ### Steps -/

section

variable (chars : List Char) (state : Cursor)

def betweenStep : Checked Outcome :=
  match chars[state.index]? with
  | none => return .ends state.found.reverse
  | some c =>
      if Lexeme.isSpace c then return .goesOn { state with index := state.index + 1 }
      else if c.isDigit || (c == '.' && chars[state.index + 1]?.any Char.isDigit) then
        return .goesOn { state with task := .number state.index [] }
      else if Lexeme.isQuote c then
        return .goesOn
          { state with index := state.index + 1, task := .string ⟨c, state.index, []⟩ false }
      else if c == '[' || c == ']' || c == ',' then
        return .goesOn { state with
          index := state.index + 1
          found := ⟨c.toString, none, state.index⟩ :: state.found }
      else if Lexeme.isWordStart c then
        return .goesOn { state with task := .word state.index [] }
      else throw (.unexpectedCharacter c state.index)

/-- The fault of a number with a misplaced character at the index. -/
def refusedNumber (start : Nat) : Checked Outcome := do
  let text ← slice chars start (min (state.index + 1) chars.length)
  throw (.invalidNumber (String.ofList text))

def endOfNumber (start : Nat) (text : List Char) : Checked Outcome :=
  match Decimal.ofText? text with
  | some decimal =>
      return .goesOn { state with
        found := ⟨String.ofList text, some (.number decimal.nearest), start⟩ :: state.found
        events := .numberToken (String.ofList text) decimal.nearest start :: state.events
        task := .between }
  | none => throw (.numberFormat (String.ofList text))

def numberStep (start : Nat) (text : List Char) : Checked Outcome :=
  match chars[state.index]?.filter Lexeme.isNumberPart with
  | none => endOfNumber state start text
  | some c =>
      if Lexeme.isMisplaced (previous chars state.index) c chars[state.index + 1]? then
        refusedNumber chars state start
      else
        return .goesOn
          { state with index := state.index + 1, task := .number start (text ++ [c.toLower]) }

def wordStep (start : Nat) (text : List Char) : Checked Outcome :=
  match chars[state.index]?.filter Lexeme.isWordPart with
  | none =>
      return .goesOn { state with
        found := ⟨String.ofList text, none, start⟩ :: state.found
        events := .wordToken (String.ofList text) start :: state.events
        task := .between }
  | some c =>
      return .goesOn { state with index := state.index + 1, task := .word start (text ++ [c]) }

def stringStep (opened : OpenString) (atOther : Bool) : Checked Outcome :=
  match chars[state.index]? with
  | none =>
      throw <|
        if atOther then
          .mismatchedQuote opened.quote (if opened.quote = '"' then '\x27' else '"') opened.start
        else .unclosedString opened.start
  | some c =>
      if c = opened.quote then
        let text := String.ofList opened.decoded.reverse
        return .goesOn
          { index := state.index + 1
            found := ⟨text, some (.text text), opened.start⟩ :: state.found
            events := .stringToken text opened.start :: state.events
            task := .between }
      else if c = '\\' then
        return .goesOn { state with index := state.index + 1, task := .escape opened }
      else
        return .goesOn
          { state with
            index := state.index + 1
            task := .string (opened.push c) (Lexeme.isQuote c) }

def escapeStep (opened : OpenString) : Checked Outcome :=
  match chars[state.index]? with
  | none => throw (.unclosedString opened.start)
  | some c =>
      if c = 'u' then return .goesOn { state with task := .unicode opened }
      else
        return .goesOn
          { state with
            index := state.index + 1
            task := .string (opened.push (Lexeme.escaped c)) false }

def unicodeStep (opened : OpenString) : Checked Outcome := do
  let offset ← difference state.index 1
  let (unit, behind) ← readUnit chars state.index offset
  let later := { state with index := behind }
  if Text.isHighSurrogate unit then
    return .goesOn { later with task := .behindHigh opened offset unit }
  else named later opened (character? unit) offset (shownUnit unit)

def behindHighStep (opened : OpenString) (offset high : Nat) : Checked Outcome :=
  if chars[state.index]? = some '\\' ∧ chars[state.index + 1]? = some 'u' then
    return .goesOn
      { state with index := state.index + 1, task := .secondUnicode opened offset high }
  else named state opened (character? high) offset (shownUnit high)

def secondUnicodeStep (opened : OpenString) (offset high : Nat) : Checked Outcome := do
  let secondOffset ← difference state.index 1
  let (low, behind) ← readUnit chars state.index secondOffset
  let later := { state with index := behind }
  let shown := shownUnit high ++ '\\' :: 'u' :: shownUnit low
  if Text.isLowSurrogate low then
    let code ← combined high low
    named later opened (character? code) offset shown
  else throw (.invalidUnicodeEscape offset (String.ofList shown))

/-- One step over the characters. -/
def step : Checked Outcome :=
  match state.task with
  | .between => betweenStep chars state
  | .number start text => numberStep chars state start text
  | .word start text => wordStep chars state start text
  | .string opened atOther => stringStep chars state opened atOther
  | .escape opened => escapeStep chars state opened
  | .unicode opened => unicodeStep chars state opened
  | .behindHigh opened offset high => behindHighStep chars state opened offset high
  | .secondUnicode opened offset high => secondUnicodeStep chars state opened offset high

end

/-! ### Runs -/

/-- The step from one state leads to the other. -/
def Next (chars : List Char) (state later : Cursor) : Prop :=
  (step chars state).run = some (.ok (.goesOn later))

/-- The scan of the characters comes to the state. -/
def Reached (chars : List Char) : Cursor → Prop := Relation.ReflTransGen (Next chars) .start

/-- The steps from the state on come to an end, with the events and the result. -/
inductive Ends (chars : List Char) : Cursor → Logged CompileError (List Token) → Prop
  | done {state tokens} : (step chars state).run = some (.ok (.ends tokens)) →
      Ends chars state ⟨state.events.reverse, .ok tokens⟩
  | fault {state fault} : (step chars state).run = some (.error fault) →
      Ends chars state ⟨state.events.reverse, .error fault⟩
  | next {state later logged} : Next chars state later → Ends chars later logged →
      Ends chars state logged

end Cursor

end LiteralLang
