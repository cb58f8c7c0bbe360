import LiteralLang.Decimal.Layout
import LiteralLang.Text.Hex

/-!
# JSON

Documents and their two written forms.  The compact form has no blanks; the indented form has one
item a line, two blanks for each level, and keeps empty containers closed.
-/

namespace LiteralLang

/-- A JSON document.  A `fraction` is a finite number that is not written as an integer. -/
inductive Json where
  | null
  | boolean (value : Bool)
  | integer (value : Int)
  | fraction (value : Binary64)
  | text (value : String)
  | array (items : List Json)
  | object (fields : List (String × Json))

namespace Json

/-! ### Scalars -/

/-- A character of a JSON string: a backslash before quotes and backslashes, a letter for the
controls that have one, and a unicode escape for the others below the space. -/
def spelling : Char → List Char
  | '"' => ['\\', '"']
  | '\\' => ['\\', '\\']
  | '\x08' => ['\\', 'b']
  | '\x0c' => ['\\', 'f']
  | '\n' => ['\\', 'n']
  | '\r' => ['\\', 'r']
  | '\t' => ['\\', 't']
  | c => if c.toNat < 0x20 then '\\' :: 'u' :: Text.hexUnit c.toNat else [c]

/-- A JSON string. -/
def quoted (text : String) : String :=
  String.ofList ('"' :: (text.toList.flatMap spelling ++ ['"']))

def booleanText (value : Bool) : String := if value then "true" else "false"

def integerText (value : Int) : String :=
  (if value < 0 then "-" else "") ++ value.natAbs.repr

/-! ### Documents -/

mutual

def compact : Json → String
  | .null => "null"
  | .boolean value => booleanText value
  | .integer value => integerText value
  | .fraction value => value.dataText
  | .text value => quoted value
  | .array items => "[" ++ ",".intercalate (compactItems items) ++ "]"
  | .object fields => "\x7b" ++ ",".intercalate (compactFields fields) ++ "\x7d"

def compactItems : List Json → List String
  | [] => []
  | item :: rest => item.compact :: compactItems rest

def compactFields : List (String × Json) → List String
  | [] => []
  | (name, value) :: rest => (quoted name ++ ":" ++ value.compact) :: compactFields rest

end

/-- The start of a line inside the given number of containers. -/
def lineStart (level : Nat) : String := String.ofList ('\n' :: List.replicate (2 * level) ' ')

/-- Brackets around items, each on a line of its own. -/
def block (level : Nat) (opening closing : String) : List String → String
  | [] => opening ++ closing
  | items =>
      opening ++ lineStart (level + 1) ++ ("," ++ lineStart (level + 1)).intercalate items
        ++ lineStart level ++ closing

mutual

def indentedAt (level : Nat) : Json → String
  | .null => "null"
  | .boolean value => booleanText value
  | .integer value => integerText value
  | .fraction value => value.dataText
  | .text value => quoted value
  | .array items => block level "[" "]" (indentedItems (level + 1) items)
  | .object fields => block level "\x7b" "\x7d" (indentedFields (level + 1) fields)

def indentedItems (level : Nat) : List Json → List String
  | [] => []
  | item :: rest => item.indentedAt level :: indentedItems level rest

def indentedFields (level : Nat) : List (String × Json) → List String
  | [] => []
  | (name, value) :: rest =>
      (quoted name ++ ": " ++ value.indentedAt level) :: indentedFields level rest

end

def indented (document : Json) : String := document.indentedAt 0

end Json

namespace Binary64

/-- The integer that a number is written as in JSON: it denotes one that is less than
`2 ^ 53` in size, and all of those are exact. -/
def jsonInteger? (x : Binary64) : Option Int :=
  x.integer?.filter fun value => decide (value.natAbs < 0x20000000000000)

/-- A number as a JSON document; a number that is not finite is null. -/
def toJson (x : Binary64) : Json :=
  match x.jsonInteger? with
  | some value => .integer value
  | none => if x.isFinite then .fraction x else .null

end Binary64

end LiteralLang
