import LiteralLang.PatternText.Reader
import LiteralLang.Text.Hex

/-!
# Escapes

What a backslash and the characters behind it stand for: a character by its number or by a letter,
one of the marks of the language itself, a class of characters, or a condition on a place.
-/

namespace LiteralLang.PatternText

/-- Characters with a meaning of their own somewhere in a pattern. -/
def isMark (c : Char) : Bool := "\\.+*?()|[]\x7b\x7d^$#&-~".toList.contains c

/-- A backslash in front of the character makes it stand for itself. -/
def isEscapable (c : Char) : Bool :=
  isMark c || (decide (c.toNat < 128) && !c.isAlphanum && c != '<' && c != '>')

/-- The control character that a letter behind a backslash stands for. -/
def control? : Char → Option Char
  | 'a' => some '\x07'
  | 'f' => some '\x0c'
  | 't' => some '\t'
  | 'n' => some '\n'
  | 'r' => some '\r'
  | 'v' => some '\x0b'
  | _ => none

/-- The condition that a character behind a backslash stands for, braces left aside. -/
def anchor? : Char → Option Anchor
  | 'A' => some .textStart
  | 'z' => some .textEnd
  | 'b' => some .wordEdge
  | 'B' => some .noWordEdge
  | '<' => some .wordStart
  | '>' => some .wordEnd
  | _ => none

/-- The class that a letter behind a backslash stands for; a capital letter negates it. -/
def shorthand? : Char → Option Shorthand
  | 'd' | 'D' => some .digit
  | 's' | 'S' => some .space
  | 'w' | 'W' => some .word
  | _ => none

/-- The number of digits behind a letter that begins a character's number. -/
def hexWidth? : Char → Option Nat
  | 'x' => some 2
  | 'u' => some 4
  | 'U' => some 8
  | _ => none

/-- The word edges with a name between braces. -/
def boundary? (name : List Char) : Option Anchor :=
  match String.ofList name with
  | "start" => some .wordStart
  | "end" => some .wordEnd
  | "start-half" => some .noWordBefore
  | "end-half" => some .noWordBehind
  | _ => none

/-- The character of a number in hexadecimal digits. -/
def hexCharacter? (digits : List Char) : Option Char :=
  let number := digits.foldl (fun n d => n * 16 + (Text.hexDigit? d).getD 0) 0
  if number.isValidChar then some (Char.ofNat number) else none

namespace Reader

/-- As many hexadecimal digits as asked for, with the blanks behind them. -/
def hexDigits : Nat → Reader (List Char)
  | 0 => return []
  | more + 1 => do
      match ← peek? with
      | none => complain .escapeCutShort (.at (← here))
      | some c =>
          if (Text.hexDigit? c).isSome then
            discard step
            return c :: (← hexDigits more)
          else complain .notHexDigit (← nextSpan)

/-- The number between the braces of an escape that starts at the given place. -/
def bracedLetter (start : Mark) : Reader Letter := do
  let brace ← here
  advance 1
  let inside ← here
  skipBlanks
  let digits ← runOf fun c => (Text.hexDigit? c).isSome
  match ← peek? with
  | none => complain .escapeCutShort (← since brace)
  | some '\x7d' => do
      let stop ← here
      discard step
      if digits.isEmpty then complain .noHexDigits (← since brace)
      else
        match hexCharacter? digits with
        | none => complain .noCharacter ⟨inside, stop⟩
        | some character => return ⟨← since start, character, false⟩
  | some _ => complain .notHexDigit (← nextSpan)

/-- The number of a character behind a backslash at the given place and a letter, which asks for
some number of digits. -/
def numberedLetter (start : Mark) (width : Nat) : Reader Letter := do
  unless ← step do
    complain .escapeCutShort (.at (← here))
  if (← peek?) == some '\x7b' then bracedLetter start
  else do
    let first ← here
    let digits ← hexDigits width
    match hexCharacter? digits with
    | none => complain .noCharacter (← since first)
    | some character => return ⟨← since start, character, width == 2⟩

/-- The name of a property of characters behind a backslash at the given place and a letter. -/
def property (start : Mark) : Reader Written := do
  unless ← step do
    complain .escapeCutShort (.at (← here))
  match ← peek? with
  | some '\x7b' => do
      discard step
      let name ← runOf (· != '\x7d')
      if (← peek?).isNone then complain .escapeCutShort (.at (← here))
      else do
        advance 1
        return .property (← since start) name
  | some '\\' => complain .invalidProperty (← nextSpan)
  | letter => do
      discard step
      return .property (← since start) letter.toList

/-- The name of a word edge between braces, behind a backslash at the given place and a letter.  It
is none, and nothing is read, where the brace begins with what is not part of a name, as the count
of a repetition does. -/
def boundary (start : Mark) : Reader (Option Anchor) := do
  let before ← get
  let isPart (c : Char) : Bool := c.isAlpha || c == '-'
  unless ← step do
    complain .braceCutShort (← since start)
  let first ← here
  let name ← runOf isPart
  if name.isEmpty then
    set before
    return none
  else if (← peek?) == some '\x7d' then
    let span ← since first
    advance 1
    match boundary? name with
    | none => complain .unknownBoundary span
    | some anchor => return some anchor
  else complain .unclosedBoundary (← since before.mark)

def escape : Reader Written := do
  let start ← here
  advance 1
  match ← peek? with
  | none => complain .escapeCutShort (← since start)
  | some c =>
      if c.isDigit then complain .backreference ⟨start, (← nextSpan).stop⟩
      else if let some width := hexWidth? c then return .letter (← numberedLetter start width)
      else if c == 'p' || c == 'P' then property start
      else do
        advance 1
        let span ← since start
        if let some name := shorthand? c then return .shorthand span c.isUpper name
        else if isEscapable c then return .letter ⟨span, c, false⟩
        else if let some control := control? c then return .letter ⟨span, control, false⟩
        else if let some anchor := anchor? c then
          if c == 'b' && (← peek?) == some '\x7b' then
            let named ← boundary start
            return .anchor (← since start) (named.getD anchor)
          else return .anchor span anchor
        else complain .unknownEscape span

end Reader

end LiteralLang.PatternText
