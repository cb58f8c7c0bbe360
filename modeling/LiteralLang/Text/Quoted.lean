import LiteralLang.Text.Unprintable
import LiteralLang.Text.Extending

/-!
# Text on one line

Two spellings of arbitrary text that stay on one line and show every character.  A backslash stands
before what would be misread, controls have their letters, and a character without a visible shape
is written as its code point in braces.  `quoted` puts double quotes around the text for log
messages; `escaped` is the bare form of the token listing.
-/

namespace LiteralLang.Text

/-- The letter of a character that is written as a backslash and a letter, in either spelling. -/
def controlLetter? : Char → Option Char
  | '\\' => some '\\'
  | '\n' => some 'n'
  | '\r' => some 'r'
  | '\t' => some 't'
  | '\x00' => some '0'
  | _ => none

/-- A character as its code point in lower-case hexadecimal between braces. -/
def codePointEscape (c : Char) : List Char :=
  '\\' :: 'u' :: '\x7b' :: (Nat.toDigits 16 c.toNat ++ ['\x7d'])

/-- One character on one line.  `isQuote` tells the characters that take a backslash as quotes, and
`alone` whether a character that extends its neighbour is shown by its code point. -/
def spelled (isQuote : Char → Bool) (alone : Bool) (c : Char) : List Char :=
  match controlLetter? c with
  | some letter => ['\\', letter]
  | none =>
      if isQuote c then ['\\', c]
      else if (alone && isExtending c) || isUnprintable c then codePointEscape c
      else [c]

/-- Text between double quotes.  Every character that extends its neighbour is written as its code
point, and the single quote stands for itself. -/
def quoted (text : String) : String :=
  String.ofList ('"' :: (text.toList.flatMap (spelled (· == '"') true) ++ ['"']))

/-- Text without quotes around it.  Both quotes take a backslash, and a character that extends its
neighbour is written as its code point in front only. -/
def escaped (text : String) : String :=
  let isQuote (c : Char) : Bool := c == '"' || c == '\x27'
  match text.toList with
  | [] => ""
  | first :: rest =>
      String.ofList (spelled isQuote true first ++ rest.flatMap (spelled isQuote false))

end LiteralLang.Text
