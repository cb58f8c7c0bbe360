import LiteralLang.PatternText.Reader
import LiteralLang.Text.Letters

/-!
# Openings of groups

What stands behind an opening parenthesis: the name of a group, flags for a group, or flags for what
follows.
-/

namespace LiteralLang.PatternText

/-- What a parenthesis opens. -/
inductive Opening where
  | group (span : Span) (kind : GroupKind)
  /-- No group: flags for the rest of the group around. -/
  | flags (span : Span) (items : List FlagItem)

/-- The flag of a letter. -/
def flag? : Char → Option Flag
  | 'i' => some .anyCase
  | 'm' => some .lines
  | 's' => some .dotAll
  | 'U' => some .swapped
  | 'u' => some .unicode
  | 'R' => some .returns
  | 'x' => some .spaced
  | _ => none

def isNamePart (isFirst : Bool) (c : Char) : Bool :=
  c == '_' || (if isFirst then Text.isLetter c
    else c == '.' || c == '[' || c == ']' || Text.isLetterOrNumber c)

namespace Reader

/-- The name of a group up to its closing bracket. -/
def groupName : Reader Unit := do
  let start ← here
  let rest := (← get).rest
  let name := rest.takeWhile (· != '>')
  let valid :=
    match name with
    | [] => []
    | c :: more => if isNamePart true c then c :: more.takeWhile (isNamePart false) else []
  if valid.length < name.length then
    advance valid.length
    complain .invalidName (← nextSpan)
  advance name.length
  let span ← since start
  if (← peek?).isNone then complain .unclosedName (.at (← here))
  advance 1
  if name.isEmpty then complain .emptyName (.at start)
  match (← get).names.lookup name with
  | some earlier => throw (.misread .repeatedName span (some earlier))
  | none => modify fun cursor => { cursor with names := (name, span) :: cursor.names }

/-- The flags up to a colon or a closing parenthesis, behind those read so far, which come with
their places, the last first.  Every round reads a character, so their number bounds the rounds. -/
def flagItems (found : List (FlagItem × Span)) : Nat → Reader (List FlagItem)
  | 0 => return []
  | rounds + 1 => do
      let span ← nextSpan
      match ← peek? with
      | none => complain .flagsCutShort span
      | some c => do
          if c == ':' || c == ')' then
            match found with
            | (.negation, dangling) :: _ => complain .danglingNegation dangling
            | _ => return (found.map (·.1)).reverse
          else do
            let (item, complaint) ←
              if c == '-' then pure (FlagItem.negation, Complaint.repeatedNegation)
              else
                match flag? c with
                | some flag => pure (.flag flag, .repeatedFlag)
                | none => complain .unknownFlag span
            match found.lookup item with
            | some earlier => throw (.misread complaint span (some earlier))
            | none => do
                advance 1
                flagItems ((item, span) :: found) rounds

/-- The kind of a group whose place is kept under the next number. -/
def keptGroup : Reader GroupKind := do
  modify fun cursor => { cursor with kept := cursor.kept + 1 }
  return .kept (← get).kept

/-- What an opening parenthesis opens. -/
def opening : Reader Opening := do
  let paren ← nextSpan
  advance 1
  skipBlanks
  for sign in ["?=", "?!", "?<=", "?<!"] do
    if ← isAt sign then
      advance sign.length
      complain .lookAround (← since paren.start)
  let inside ← here
  if (← isAt "?P<") || (← isAt "?<") then
    advance (if ← isAt "?P<" then 3 else 2)
    groupName
    return .group paren (← keptGroup)
  else if ← isAt "?" then
    advance 1
    if (← peek?).isNone then complain .unclosedGroup paren
    let items ← flagItems [] (← get).rest.length.succ
    let closed := (← peek?) == some ')'
    advance 1
    if !closed then return .group paren (.plain items)
    else if items.isEmpty then complain .nothingToRepeat (.at inside)
    else return .flags (← since paren.start) items
  else return .group paren (← keptGroup)

end Reader

end LiteralLang.PatternText
