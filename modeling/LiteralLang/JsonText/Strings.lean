import LiteralLang.JsonText.Reader
import LiteralLang.Text.Hex
import LiteralLang.Text.Units

/-!
# Strings in JSON text

A string is read for its content, where every escape must name a character, or passed over, where
escapes need only be well formed.  Both start behind the opening quote.
-/

namespace LiteralLang.JsonText.Reader

/-- The unit of the four digits of a unicode escape. -/
def escapedUnit : Reader Nat := do
  let digits := (← get).rest.take 4
  advance 4
  if digits.length < 4 then complain .stringCutShort
  else
    match LiteralLang.Text.hexUnit? (digits.map ofByte) with
    | some unit => return unit
    | none => complain .invalidEscape

/-- Reads one given byte between the halves of a pair of surrogates. -/
def pairByte (expected : Char) : Reader Unit := do
  match ← next? with
  | none => complain .stringCutShort
  | some c => if c == expected then return else complain .unfinishedPair

/-- The character of a unicode escape, behind its `u`. -/
def unicodeCharacter : Reader Char := do
  let unit ← escapedUnit
  if LiteralLang.Text.isLowSurrogate unit then complain .loneSurrogate
  else if LiteralLang.Text.isHighSurrogate unit then
    pairByte '\\'
    pairByte 'u'
    let low ← escapedUnit
    if LiteralLang.Text.isLowSurrogate low then return LiteralLang.Text.ofPair unit low
    else complain .loneSurrogate
  else return Char.ofNat unit

/-- The character of an escape of one letter. -/
def letterEscape? : Char → Option Char
  | '"' => some '"'
  | '\\' => some '\\'
  | '/' => some '/'
  | 'b' => some '\x08'
  | 'f' => some '\x0c'
  | 'n' => some '\n'
  | 'r' => some '\r'
  | 't' => some '\t'
  | _ => none

/-- The character of an escape, behind its backslash. -/
def escapedCharacter : Reader Char := do
  match ← next? with
  | none => complain .stringCutShort
  | some 'u' => unicodeCharacter
  | some letter =>
      match letterEscape? letter with
      | some c => return c
      | none => complain .invalidEscape

/-- Passes over an escape, behind its backslash. -/
def skipEscape : Reader Unit := do
  match ← next? with
  | none => complain .stringCutShort
  | some 'u' => discard escapedUnit
  | some letter => if (letterEscape? letter).isSome then return else complain .invalidEscape

/-- Bytes that stand for themselves inside a string. -/
def isPlainByte (c : Char) : Bool := c != '"' && c != '\\' && decide (0x20 ≤ c.toNat)

/-- The bytes of a string up to its closing quote, behind those read so far, which come with the
last one first.  Every round but the last reads an escape, so the number of bytes left bounds the
rounds. -/
def content : Nat → List UInt8 → Reader (List UInt8)
  | 0, _ => complain .stringCutShort
  | rounds + 1, before => do
      let plain := (← span isPlainByte).map fun c => UInt8.ofNat c.toNat
      let before := plain.reverse ++ before
      match ← peek? with
      | none => complain .stringCutShort
      | some '"' => do
          advance 1
          return before.reverse
      | some '\\' => do
          advance 1
          let c ← escapedCharacter
          content rounds (c.toString.toUTF8.toList.reverse ++ before)
      | some _ => do
          advance 1
          complain .controlCharacter

def string : Reader String := do
  let bytes ← content ((← get).rest.length + 1) []
  return (String.fromUTF8? ⟨bytes.toArray⟩).getD ""

/-- Passes over a string up to its closing quote; the rounds are bounded as in `content`. -/
def skipContent : Nat → Reader Unit
  | 0 => complain .stringCutShort
  | rounds + 1 => do
      discard (span isPlainByte)
      match ← peek? with
      | none => complain .stringCutShort
      | some '"' => advance 1
      | some '\\' => do
          advance 1
          skipEscape
          skipContent rounds
      | some _ => complain .controlCharacter

def skipString : Reader Unit := do
  skipContent ((← get).rest.length + 1)

end LiteralLang.JsonText.Reader
