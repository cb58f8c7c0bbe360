import LiteralLang.Decimal.Layout
import LiteralLang.Node
import LiteralLang.Text.Hex
import LiteralLang.Text.Units

/-!
# Generated code

The body of a function that returns the value of a tree, for hosts that build a callable from text.
The text becomes live code, so a string may only hold letters, digits and spaces of ASCII as they
are; every other character is written as the escapes of its 16-bit units.
-/

namespace LiteralLang

namespace Text

/-- Characters that stand for themselves in a string of generated code. -/
def isInert (c : Char) : Bool := c.isAlphanum || c == ' '

def unitEscape (unit : Nat) : List Char := '\\' :: 'u' :: hexUnit unit

/-- A character of a string in generated code. -/
def codeSpelling (c : Char) : List Char :=
  if isInert c then [c] else (units c).flatMap unitEscape

/-- A string in generated code. -/
def codeString (text : String) : String :=
  String.ofList ('"' :: (text.toList.flatMap codeSpelling ++ ['"']))

end Text

def Scalar.code : Scalar → String
  | .null => "null"
  | .boolean value => if value then "true" else "false"
  | .number value => value.codeText
  | .text value => Text.codeString value

namespace Node

mutual

/-- The code of a tree: a program returns its body, and the parts of an array stand between brackets
with nothing but commas between them. -/
def code : Node → String
  | .program body => "return " ++ body.code ++ ";"
  | .literal value => value.code
  | .array elements => "[" ++ ",".intercalate (codes elements) ++ "]"

def codes : List Node → List String
  | [] => []
  | element :: rest => element.code :: codes rest

end

end Node

end LiteralLang
