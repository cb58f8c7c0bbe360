import LiteralLang.CompileOptions
import LiteralLang.JsonText.Skip

/-!
# Options in JSON text

Options are an object whose field `max_depth` is the bound on array nesting, or a list of at most
that one bound.  A bound that is missing is the standard one; fields of other names are passed over.
-/

namespace LiteralLang

namespace JsonText.Reader

/-- Stops at a value that is not of the wanted kind. -/
def refuse {α : Type} (wanted : Wanted) : Reader α := do
  let number (negative : Bool) : Reader α := do
    match ← numeral negative with
    | .integer value => complain (.wrongKind (.integer value) wanted)
    | .fraction value => complain (.wrongKind (.fraction value) wanted)
  match ← peek? with
  | some 'n' => do
      advance 1
      word ['u', 'l', 'l']
      complain (.wrongKind .null wanted)
  | some 't' => do
      advance 1
      word ['r', 'u', 'e']
      complain (.wrongKind (.boolean true) wanted)
  | some 'f' => do
      advance 1
      word ['a', 'l', 's', 'e']
      complain (.wrongKind (.boolean false) wanted)
  | some '"' => do
      advance 1
      complain (.wrongKind (.text (← string)) wanted)
  | some '-' => do
      advance 1
      number true
  | some '[' => complain (.wrongKind .sequence wanted)
  | some '\x7b' => complain (.wrongKind .map wanted)
  | some c => if c.isDigit then number false else complainAhead .valueWanted
  | none => complainAhead .valueWanted

/-- A bound on array nesting: an integer that is not negative. -/
def bound : Reader Nat := do
  skipBlanks
  let read (negative : Bool) : Reader Nat := do
    match ← numeral negative with
    | .integer value =>
        if value < 0 then complain (.wrongValue (.integer value) .bound) else return value.toNat
    | .fraction value => complain (.wrongKind (.fraction value) .bound)
  match ← peek? with
  | none => complainAhead .valueCutShort
  | some '-' => do
      advance 1
      read true
  | some c => if c.isDigit then read false else refuse .bound

/-- The bound in a list, behind the opening bracket, if there is one. -/
def boundInList : Reader (Option Nat) := do
  skipBlanks
  let found ←
    match ← peek? with
    | none => complainAhead .listCutShort
    | some ']' => pure none
    | some _ => do pure (some (← bound))
  skipBlanks
  match ← peek? with
  | none => complainAhead .listCutShort
  | some ']' => do
      advance 1
      return found
  | some ',' => do
      advance 1
      skipBlanks
      if (← peek?) == some ']' then complainAhead .trailingComma
      else complainAhead .trailingCharacters
  | some _ => complainAhead .trailingCharacters

/-- Reads up to the name of the next field, or to the end of the object, and tells which. -/
def anotherField (isFirst : Bool) : Reader Bool := do
  skipBlanks
  match ← peek? with
  | none => complainAhead .objectCutShort
  | some '\x7d' => return false
  | some '"' => if isFirst then return true else complainAhead .objectEndWanted
  | some ',' => do
      if isFirst then complainAhead .keyWanted
      advance 1
      skipBlanks
      match ← peek? with
      | none => complainAhead .valueCutShort
      | some '"' => return true
      | some '\x7d' => complainAhead .trailingComma
      | some _ => complainAhead .keyWanted
  | some _ => if isFirst then complainAhead .keyWanted else complainAhead .objectEndWanted

def boundName : String := "max_depth"

/-- Stops at a bound that is given twice, behind the end of the object if that comes next. -/
def refuseSecondBound {α : Type} : Reader α := do
  skipBlanks
  if (← peek?) == some '\x7d' then advance 1
  complain (.duplicateField boundName)

/-- The bound among the fields of an object up to its closing bracket.  Every round reads a byte, so
the number of bytes left bounds the rounds. -/
def boundInFields : Nat → Bool → Option Nat → Reader (Option Nat)
  | 0, _, _ => complain .objectCutShort
  | rounds + 1, isFirst, found => do
      if ← anotherField isFirst then
        advance 1
        let name ← string
        if name != boundName then
          colon
          skipValue
          boundInFields rounds false found
        else if found.isSome then refuseSecondBound
        else
          colon
          boundInFields rounds false (some (← bound))
      else
        advance 1
        return found

def options : Reader CompileOptions := do
  skipBlanks
  let found ←
    match ← peek? with
    | none => complainAhead .valueCutShort
    | some '[' => do
        advance 1
        boundInList
    | some '\x7b' => do
        advance 1
        boundInFields ((← get).rest.length + 1) true none
    | some _ => refuse .options
  skipBlanks
  if (← peek?).isSome then complainAhead .trailingCharacters
  return (found.map CompileOptions.mk).getD .standard

end JsonText.Reader

namespace CompileOptions

/-- The options that a text describes. -/
def read (text : String) : Except JsonText.Fault CompileOptions :=
  JsonText.Reader.options.onText text

def toJson (options : CompileOptions) : Json := .object [("max_depth", .integer options.maxDepth)]

end CompileOptions

end LiteralLang
