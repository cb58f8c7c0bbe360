import LiteralLang.PatternText.Escapes

/-!
# Brackets

Sets of characters between brackets: characters, ranges and classes side by side, further brackets,
and operations between them, which all bind alike and to the left.  What is begun and not yet ended
is kept on a list, the innermost first.
-/

namespace LiteralLang.PatternText

/-- What stands side by side so far, the last first, and its place. -/
structure Gathered where
  span : Span
  parts : List Bracket

namespace Gathered

def none (mark : Mark) : Gathered := ⟨.at mark, []⟩

def add (gathered : Gathered) (part : Bracket) : Gathered :=
  let start := if gathered.parts.isEmpty then part.span.start else gathered.span.start
  ⟨⟨start, part.span.stop⟩, part :: gathered.parts⟩

def toBracket (gathered : Gathered) : Bracket :=
  match gathered.parts with
  | [] => .nothing gathered.span
  | [part] => part
  | parts => .union gathered.span parts.reverse

end Gathered

/-- What is begun between brackets. -/
inductive Begun where
  /-- Brackets that were opened behind other parts. -/
  | brackets (outer : Gathered) (span : Span) (negated : Bool)
  /-- An operation whose left side has been read. -/
  | operation (operation : SetOperation) (left : Bracket)

namespace Begun

/-- The place where the innermost brackets were opened, if any are. -/
def opening? : List Begun → Option Span
  | [] => none
  | .brackets _ span _ :: _ => some span
  | .operation .. :: rest => opening? rest

/-- A part as the right side of the operation that is begun, and what is begun around it. -/
def finishOperation (right : Bracket) : List Begun → Bracket × List Begun
  | .operation sign left :: rest =>
      (.operation ⟨left.span.start, right.span.stop⟩ sign left right, rest)
  | begun => (right, begun)

end Begun

/-- The class of a name. -/
def namedClass? (name : List Char) : Option NamedClass :=
  match String.ofList name with
  | "alnum" => some .alnum
  | "alpha" => some .alpha
  | "ascii" => some .ascii
  | "blank" => some .blank
  | "cntrl" => some .cntrl
  | "digit" => some .digit
  | "graph" => some .graph
  | "lower" => some .lower
  | "print" => some .print
  | "punct" => some .punct
  | "space" => some .space
  | "upper" => some .upper
  | "word" => some .word
  | "xdigit" => some .xdigit
  | _ => none

/-- A named class at the start of a text: whether it is negated, its name, and its length. -/
def namedClassAt? (text : List Char) : Option (Bool × NamedClass × Nat) :=
  match text with
  | '[' :: ':' :: rest =>
      let negated := rest.head? = some '^'
      let rest := if negated then rest.drop 1 else rest
      let name := rest.takeWhile (· != ':')
      if [':', ']'].isPrefixOf (rest.drop name.length) then
        (namedClass? name).map fun named =>
          (negated, named, name.length + if negated then 5 else 4)
      else none
  | _ => none

/-- The character behind a dash, blanks and the start of a comment left aside where blanks are
passed over.  Where nothing else follows them they are not left aside. -/
def behindDash? (spaced : Bool) (text : List Char) : Option Char :=
  if spaced then
    let ahead :=
      match text.dropWhile Text.isBlank with
      | '#' :: comment => comment.dropWhile Text.isBlank
      | other => other
    ahead.head?.or text.head?
  else text.head?

namespace Reader

/-- Stops because brackets are not closed, at the innermost of them. -/
def complainUnclosed {α : Type} (begun : List Begun) : Reader α := do
  complain .unclosedBrackets ((Begun.opening? begun).getD (.at (← here)))

def bracketItem : Reader Written := do
  match ← peek? with
  | some '\\' => escape
  | c => do
      let span ← nextSpan
      advance 1
      return .letter ⟨span, c.getD ' ', false⟩

/-- What an item between brackets stands for. -/
def asBracket : Written → Reader Bracket
  | .letter written => return .letter written
  | .shorthand span negated name => return .shorthand span negated name
  | .property span name => return .property span name
  | other => complain .uselessEscape other.span

/-- The single character that an item between brackets stands for. -/
def asLetter : Written → Reader Letter
  | .letter written => return written
  | other => complain .wideRangeEnd other.span

/-- An item between brackets, or the range that it begins. -/
def bracketRange (begun : List Begun) : Reader Bracket := do
  let first ← bracketItem
  skipBlanks
  let cursor ← get
  match cursor.rest with
  | [] => complainUnclosed begun
  | c :: rest =>
      let next := behindDash? cursor.spaced rest
      if c != '-' || next == some ']' || next == some '-' then asBracket first
      else do
        unless ← step do
          complainUnclosed begun
        let last ← bracketItem
        let span : Span := ⟨first.span.start, last.span.stop⟩
        let first ← asLetter first
        let last ← asLetter last
        if last.character < first.character then complain .reversedRange span
        else return .range span first last

/-- Dashes at the start of brackets that were opened at the given place, which stand for themselves.
Every round reads a character, so their number bounds the rounds. -/
def leadingDashes (start : Mark) (gathered : Gathered) : Nat → Reader Gathered
  | 0 => return gathered
  | rounds + 1 => do
      if (← peek?) == some '-' then
        let gathered := gathered.add (.letter ⟨← nextSpan, '-', false⟩)
        unless ← step do
          complain .unclosedBrackets (.at start)
        leadingDashes start gathered rounds
      else return gathered

/-- Opened brackets behind other parts, and what stands at their start.  A closing bracket there
stands for itself. -/
def openBrackets (outer : Gathered) : Reader (Begun × Gathered) := do
  let start ← here
  unless ← step do
    complain .unclosedBrackets (← since start)
  let negated := (← peek?) == some '^'
  if negated then
    unless ← step do
      complain .unclosedBrackets (← since start)
  let gathered ← leadingDashes start (.none (← here)) (← get).rest.length
  if gathered.parts.isEmpty && (← peek?) == some ']' then
    let gathered := gathered.add (.letter ⟨← nextSpan, ']', false⟩)
    unless ← step do
      complain .unclosedBrackets (← since start)
    return (.brackets outer (← since start) negated, gathered)
  else return (.brackets outer (← since start) negated, gathered)

/-- The operation whose sign comes next. -/
def operation? : Reader (Option SetOperation) := do
  if ← isAt "&&" then return some .intersection
  else if ← isAt "--" then return some .difference
  else if ← isAt "~~" then return some .symmetricDifference
  else return none

/-- The rest of what is begun between brackets, behind what has been gathered.  Every round reads a
character, so their number bounds the rounds. -/
def bracketsRest (begun : List Begun) (gathered : Gathered) : Nat → Reader Written
  | 0 => complainUnclosed begun
  | rounds + 1 => do
      skipBlanks
      match ← peek? with
      | none => complainUnclosed begun
      | some '[' => do
          match namedClassAt? (← get).rest with
          | some (negated, name, length) => do
              let start ← here
              advance length
              bracketsRest begun (gathered.add (.named (← since start) negated name)) rounds
          | none => do
              let (opened, within) ← openBrackets gathered
              bracketsRest (opened :: begun) within rounds
      | some ']' => do
          let (inner, around) := Begun.finishOperation gathered.toBracket begun
          match around with
          | .brackets outer opening negated :: further => do
              advance 1
              let span ← since opening.start
              if further.isEmpty then return .bracketed span negated inner
              else bracketsRest further (outer.add (.bracketed span negated inner)) rounds
          | _ => complainUnclosed begun
      | some _ => do
          match ← operation? with
          | some operation => do
              advance 2
              let (left, around) := Begun.finishOperation gathered.toBracket begun
              bracketsRest (.operation operation left :: around) (.none (← here)) rounds
          | none => bracketsRest begun (gathered.add (← bracketRange begun)) rounds

def brackets : Reader Written := do
  let (opened, within) ← openBrackets (.none (← here))
  bracketsRest [opened] within (← get).rest.length.succ

end Reader

end LiteralLang.PatternText
