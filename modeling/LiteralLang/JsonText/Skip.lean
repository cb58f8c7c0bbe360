import LiteralLang.JsonText.Numeral
import LiteralLang.JsonText.Strings

/-!
# Passing over values

Values that nobody asked for are passed over.  The containers they open are kept on a list, the
innermost first, so no nesting is too deep.
-/

namespace LiteralLang.JsonText

inductive Container where
  | list
  | object
  deriving DecidableEq

namespace Container

def closing : Container → Char
  | .list => ']'
  | .object => '\x7d'

def cutShort : Container → Complaint
  | .list => .listCutShort
  | .object => .objectCutShort

def endWanted : Container → Complaint
  | .list => .listEndWanted
  | .object => .objectEndWanted

end Container

namespace Reader

/-- Passes over a value that opens no container and begins with the given character. -/
def skipScalar (first : Char) : Reader Unit := do
  if first == 'n' then
    advance 1
    word ['u', 'l', 'l']
  else if first == 't' then
    advance 1
    word ['r', 'u', 'e']
  else if first == 'f' then
    advance 1
    word ['a', 'l', 's', 'e']
  else if first == '"' then
    advance 1
    skipString
  else if first == '-' then
    advance 1
    skipNumeral
  else if first.isDigit then skipNumeral
  else complainAhead .valueWanted

/-- Passes over the brackets that close containers, to the next item of one that goes on.  The
containers still open are returned, none of them where the outermost is closed.  A comma goes on
only behind an item. -/
def skipClosings (behindItem : Bool) : List Container → Reader (List Container)
  | [] => return []
  | innermost :: outer => do
      skipBlanks
      match ← peek? with
      | none => complainAhead innermost.cutShort
      | some c =>
          if c == ',' && behindItem then
            advance 1
            return innermost :: outer
          else if c == innermost.closing then
            advance 1
            skipClosings true outer
          else if behindItem then complainAhead innermost.endWanted
          else return innermost :: outer

/-- Passes over the name of a field and the colon behind it. -/
def skipName : Reader Unit := do
  skipBlanks
  match ← peek? with
  | some '"' => advance 1
  | some _ => complainAhead .keyWanted
  | none => complainAhead .objectCutShort
  skipString
  colon

/-- Passes over a value inside the given containers and over what is left of them.  Every round
reads a byte, so the number of bytes left bounds the rounds. -/
def skipInside : Nat → List Container → Reader Unit
  | 0, _ => complain .valueCutShort
  | rounds + 1, containers => do
      skipBlanks
      let remaining ←
        match ← peek? with
        | none => complainAhead .valueCutShort
        | some '[' => do
            advance 1
            skipClosings false (.list :: containers)
        | some '\x7b' => do
            advance 1
            skipClosings false (.object :: containers)
        | some first => do
            skipScalar first
            skipClosings true containers
      match remaining with
      | [] => return
      | innermost :: outer => do
          if innermost = .object then skipName
          skipInside rounds (innermost :: outer)

def skipValue : Reader Unit := do
  skipInside ((← get).rest.length + 1) []

end Reader

end LiteralLang.JsonText
