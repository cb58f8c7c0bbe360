import LiteralLang.PatternText.Fault
import LiteralLang.Text.Blank

/-!
# Readers of written patterns

A reader goes through a pattern from left to right and knows the place it has reached, so that every
complaint can be placed.  Where a flag asks for it, blanks and comments between the parts of a
pattern are passed over.
-/

namespace LiteralLang.PatternText

/-- How far a pattern has been read. -/
structure Cursor where
  mark : Mark
  rest : List Char
  /-- Blanks and comments are passed over. -/
  spaced : Bool
  /-- How many groups so far have their place kept. -/
  kept : Nat
  /-- The names of the groups so far, and where they stand. -/
  names : List (List Char × Span)

def Cursor.start (text : List Char) : Cursor := ⟨.start, text, false, 0, []⟩

abbrev Reader := StateT Cursor (Except Fault)

namespace Reader

/-- Stops with a complaint about a stretch of the pattern. -/
def complain {α : Type} (complaint : Complaint) (span : Span) : Reader α :=
  throw (.misread complaint span none)

/-- The place that is reached. -/
def here : Reader Mark := return (← get).mark

/-- The stretch from a place to the one that is reached. -/
def since (start : Mark) : Reader Span := return ⟨start, ← here⟩

def peek? : Reader (Option Char) := return (← get).rest.head?

def nextSpan : Reader Span := do
  let cursor ← get
  return ⟨cursor.mark, cursor.rest.head?.elim cursor.mark cursor.mark.behind⟩

/-- The pattern goes on with some characters. -/
def isAt (text : String) : Reader Bool := return text.toList.isPrefixOf (← get).rest

/-- Goes on by a number of characters, or to the end. -/
def advance (count : Nat) : Reader Unit :=
  modify fun cursor =>
    { cursor with
      mark := (cursor.rest.take count).foldl Mark.behind cursor.mark
      rest := cursor.rest.drop count }

/-- The place behind blanks and comments, and what follows it.  A comment goes from a number sign to
the end of its line. -/
def behindBlanks (inComment : Bool) (mark : Mark) : List Char → Mark × List Char
  | [] => (mark, [])
  | c :: rest =>
      if inComment then behindBlanks (c != '\n') (mark.behind c) rest
      else if Text.isBlank c then behindBlanks false (mark.behind c) rest
      else if c == '#' then behindBlanks true (mark.behind c) rest
      else (mark, c :: rest)

/-- Passes over blanks and comments where that is asked for. -/
def skipBlanks : Reader Unit :=
  modify fun cursor =>
    if cursor.spaced then
      let (mark, rest) := behindBlanks false cursor.mark cursor.rest
      { cursor with mark, rest }
    else cursor

/-- Goes on by one character and the blanks behind it; `false` at the end. -/
def step : Reader Bool := do
  advance 1
  skipBlanks
  return !(← get).rest.isEmpty

/-- Goes on as long as characters are of a class, and by the blanks behind each of them.  Every
round reads a character, so their number bounds the rounds. -/
def stepWhile (inClass : Char → Bool) : Nat → Reader (List Char)
  | 0 => return []
  | rounds + 1 => do
      match ← peek? with
      | none => return []
      | some c =>
          if inClass c then
            discard step
            return c :: (← stepWhile inClass rounds)
          else return []

/-- The longest run of characters of a class, without the blanks behind each of them. -/
def runOf (inClass : Char → Bool) : Reader (List Char) := do
  stepWhile inClass (← get).rest.length

end Reader

end LiteralLang.PatternText
