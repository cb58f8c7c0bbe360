import LiteralLang.Pattern.CharSet
import LiteralLang.PatternText.Fault

/-!
# The sets that brackets and classes mean

What a set between brackets, a class or a property means under the flags in force.  Where characters
of all scripts are meant, only what needs no table of them is known; where bytes are meant, a set
has to stay within ASCII.
-/

namespace LiteralLang.PatternText

/-- The flags in force. -/
structure Manner where
  anyCase : Bool
  lines : Bool
  dotAll : Bool
  swapped : Bool
  unicode : Bool
  returns : Bool

namespace Manner

def standard : Manner := ⟨false, false, false, false, true, false⟩

/-- The flags behind a list of them. -/
def changed (manner : Manner) (items : List FlagItem) : Manner where
  anyCase := (flagValue? .anyCase items).getD manner.anyCase
  lines := (flagValue? .lines items).getD manner.lines
  dotAll := (flagValue? .dotAll items).getD manner.dotAll
  swapped := (flagValue? .swapped items).getD manner.swapped
  unicode := (flagValue? .unicode items).getD manner.unicode
  returns := (flagValue? .returns items).getD manner.returns

/-- The greatest code point, or the greatest byte. -/
def greatest (manner : Manner) : Nat := if manner.unicode then 0x10FFFF else 0xFF

end Manner

def digits : List (Nat × Nat) := [(0x30, 0x39)]

def capitals : List (Nat × Nat) := [(0x41, 0x5A)]

def smalls : List (Nat × Nat) := [(0x61, 0x7A)]

def spaces : List (Nat × Nat) := [(0x9, 0xD), (0x20, 0x20)]

/-- What words are made of. -/
def wordParts : List (Nat × Nat) := digits ++ capitals ++ [(0x5F, 0x5F)] ++ smalls

def NamedClass.ranges : NamedClass → List (Nat × Nat)
  | .alnum => digits ++ capitals ++ smalls
  | .alpha => capitals ++ smalls
  | .ascii => [(0x0, 0x7F)]
  | .blank => [(0x9, 0x9), (0x20, 0x20)]
  | .cntrl => [(0x0, 0x1F), (0x7F, 0x7F)]
  | .digit => digits
  | .graph => [(0x21, 0x7E)]
  | .lower => smalls
  | .print => [(0x20, 0x7E)]
  | .punct => [(0x21, 0x2F), (0x3A, 0x40), (0x5B, 0x60), (0x7B, 0x7E)]
  | .space => spaces
  | .upper => capitals
  | .word => wordParts
  | .xdigit => digits ++ [(0x41, 0x46), (0x61, 0x66)]

/-- The characters of ASCII of a class that a letter stands for. -/
def Shorthand.ranges : Shorthand → List (Nat × Nat)
  | .digit => digits
  | .space => spaces
  | .word => wordParts

/-- Characters or ranges are written here, and not only what has a name, an operation or brackets of
its own. -/
def Bracket.writesLetters : Bracket → Bool
  | .letter _ | .range .. => true
  | .union _ parts =>
      parts.any fun part => match part with
        | .letter _ | .range .. => true
        | _ => false
  | _ => false

/-- The name of a property without what does not count: blanks, dashes and underscores, case, and
`is` in front. -/
def propertyName (name : List Char) : String :=
  let lower := name.map Char.toLower
  let bare := if ['i', 's'].isPrefixOf lower then lower.drop 2 else lower
  String.ofList (bare.filter fun c =>
    decide (c.toNat < 128) && c != ' ' && c != '_' && c != '-')

/-- Deciding what is meant under flags that change along the way. -/
abbrev Meaning := StateT Manner (Except Fault)

namespace Meaning

/-- Stops with a complaint about a stretch of the pattern. -/
def refuse {α : Type} (complaint : Complaint) (span : Span) : Meaning α :=
  throw (.misread complaint span none)

/-- No property is known.  Of three names it is known that they do not name one but a value of
one. -/
def property {α : Type} (span : Span) (name : List Char) : Meaning α := do
  if !(← get).unicode then refuse .unicodeHere span
  else if ["cf", "sc", "lc"].contains (propertyName name) then refuse .unknownPropertyValue span
  else refuse .unknownProperty span

/-- The code point or the byte of a character inside brackets. -/
def code (letter : Letter) : Meaning Nat := do
  let number := letter.character.toNat
  if (← get).unicode || decide (number < 128) then return number
  else refuse (if letter.isByte then .bytesHere else .unicodeHere) letter.span

/-- The set with both cases of its letters, where that is asked for. -/
def inCase (span : Span) (hasLetters : Bool) (set : CharSet) : Meaning CharSet := do
  let manner ← get
  if !manner.anyCase then return set
  else if !manner.unicode then return set.withBothCases
  else if hasLetters then refuse .unicodeCase span
  else return set

/-- The set or what is not in it.  Bytes have to stay within ASCII. -/
def negatedIf (span : Span) (negated : Bool) (set : CharSet) : Meaning CharSet := do
  let manner ← get
  let set := if negated then set.complement manner.greatest else set
  if !manner.unicode && !set.isAscii then refuse .bytesHere span
  else return set

def shorthand (span : Span) (negated : Bool) (name : Shorthand) : Meaning CharSet := do
  if (← get).unicode then refuse .unicodeClass span
  else negatedIf span negated (.ofRanges name.ranges)

/-- The set that two sets are made into. -/
def combined (greatest : Nat) (left right : CharSet) : SetOperation → CharSet
  | .intersection => left.inter greatest right
  | .difference => left.diff greatest right
  | .symmetricDifference => left.symmDiff greatest right

mutual

/-- The set of what stands between brackets. -/
def inside : Bracket → Meaning CharSet
  | .nothing _ => return .none
  | .letter letter => return .single (← code letter)
  | .range _ first last => do
      let first ← code first
      let last ← code last
      return .ofRanges [(first, last)]
  | .named span negated name => do
      negatedIf span negated (← inCase span true (.ofRanges name.ranges))
  | .shorthand span negated name => shorthand span negated name
  | .property span name => property span name
  | .union _ parts => together parts
  | .operation _ operation left right => do
      let leftSet ← inside left
      let rightSet ← inside right
      let rightSet ← inCase right.span right.writesLetters rightSet
      let leftSet ← inCase left.span left.writesLetters leftSet
      return combined (← get).greatest leftSet rightSet operation
  | .bracketed span negated inner => do
      let set ← inside inner
      negatedIf span negated (← inCase span inner.writesLetters set)

/-- The set of all that stands side by side. -/
def together : List Bracket → Meaning CharSet
  | [] => return .none
  | part :: rest => do
      let set ← inside part
      return set.union (← together rest)

end

end Meaning

end LiteralLang.PatternText
