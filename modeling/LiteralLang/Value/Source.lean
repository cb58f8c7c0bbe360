import LiteralLang.CompileError
import LiteralLang.CompileOptions
import LiteralLang.Text.Hex
import LiteralLang.Value

/-!
# Source text of values

Writing a value as a literal expression that compiles back to it.  The language has no signs, so
only finite numbers with a clear sign have a literal, and arrays are written only as deep as they
compile under the standard options.
-/

namespace LiteralLang

namespace Text

/-- Controls, the characters below the space and those from `0x7F` to `0x9F`. -/
def isControl (c : Char) : Bool :=
  decide (c.toNat < 0x20) || (decide (0x7F ≤ c.toNat) && decide (c.toNat < 0xA0))

/-- A character of a string in source text. -/
def sourceSpelling : Char → List Char
  | '"' => ['\\', '"']
  | '\\' => ['\\', '\\']
  | '\n' => ['\\', 'n']
  | '\r' => ['\\', 'r']
  | '\t' => ['\\', 't']
  | '\x0c' => ['\\', 'f']
  | '\x0b' => ['\\', 'v']
  | c => if isControl c then '\\' :: 'u' :: hexUnit c.toNat else [c]

def sourceString (text : String) : String :=
  String.ofList ('"' :: (text.toList.flatMap sourceSpelling ++ ['"']))

end Text

def Scalar.source : Scalar → Except CompileError String
  | .null => .ok "null"
  | .boolean value => .ok (if value then "true" else "false")
  | .number value =>
      if !value.isFinite || value.negative then .error (.unprintable (.number value))
      else .ok value.displayText
  | .text value => .ok (Text.sourceString value)

namespace Value

mutual

/-- A value as a literal inside the given number of arrays; the first part without a literal form
is reported. -/
def sourceAt (depth : Nat) : Value → Except CompileError String
  | .scalar value => value.source
  | .array elements =>
      if defaultMaxDepth ≤ depth then .error (.unprintable (.nesting defaultMaxDepth))
      else do
        let texts ← sourcesAt (depth + 1) elements
        return "[" ++ ", ".intercalate texts ++ "]"

def sourcesAt (depth : Nat) : List Value → Except CompileError (List String)
  | [] => .ok []
  | element :: rest => do
      let text ← element.sourceAt depth
      let texts ← sourcesAt depth rest
      return text :: texts

end

def source (value : Value) : Except CompileError String := value.sourceAt 0

end Value

end LiteralLang
