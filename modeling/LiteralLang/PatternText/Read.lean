import LiteralLang.PatternText.Brackets
import LiteralLang.PatternText.Groups

/-!
# Reading patterns

A whole pattern.  Its grammar is

* a pattern is sequences with bars between them;
* a sequence is parts one behind the other, each with any number of repetitions behind it;
* a part is a character, a dot, an escape, an anchor, a set between brackets, or a pattern between
  parentheses.

The groups that are open are kept on a list, the innermost first.
-/

namespace LiteralLang.PatternText

/-- The sequence that is being read, and those in front of it in the same group. -/
structure Level where
  /-- The sequences that a bar has ended, the last first. -/
  branches : List Written
  start : Mark
  /-- The parts of the sequence so far, the last first. -/
  parts : List Written
  partsStart : Mark

namespace Level

/-- Nothing, at a place. -/
def none (mark : Mark) : Level := ⟨[], mark, [], mark⟩

def add (level : Level) (part : Written) : Level := { level with parts := part :: level.parts }

def sequence (level : Level) (stop : Mark) : Written :=
  match level.parts with
  | [] => .nothing ⟨level.partsStart, stop⟩
  | [part] => part
  | parts => .sequence ⟨level.partsStart, stop⟩ parts.reverse

def toWritten (level : Level) (stop : Mark) : Written :=
  match level.branches with
  | [] => level.sequence stop
  | branches => .alternation ⟨level.start, stop⟩ (level.sequence stop :: branches).reverse

end Level

structure OpenGroup where
  span : Span
  kind : GroupKind
  /-- Blanks were passed over in front of the group. -/
  spaced : Bool
  outer : Level

namespace Reader

/-- The part that a repetition at the given place is about, and the level without it. -/
def target (level : Level) : Reader (Written × Level) := do
  match level.parts with
  | [] | .flags .. :: _ => complain .nothingToRepeat (.at (← here))
  | part :: parts => return (part, { level with parts })

/-- Passes over the question mark that reverses the preference of a repetition, and says whether it
is there. -/
def preferenceMark : Reader Bool := do
  let marked := (← peek?) == some '?'
  if marked then advance 1
  return marked

/-- A sign of a repetition. -/
def signedRepetition (level : Level) (times : Times) : Reader Level := do
  let (part, level) ← target level
  advance 1
  let marked ← preferenceMark
  return level.add (.repetition (← since part.span.start) part times marked)

/-- A number without a sign that a count may have, or the complaint about it. -/
def count : Reader (Except Fault Nat) := do
  modify fun cursor =>
    let blanks := cursor.rest.takeWhile Text.isBlank
    { cursor with
      mark := blanks.foldl Mark.behind cursor.mark
      rest := cursor.rest.drop blanks.length }
  let start ← here
  let digits ← runOf Char.isDigit
  let span ← since start
  discard (runOf Text.isBlank)
  let number := digits.foldl (fun n d => n * 10 + (d.toNat - '0'.toNat)) 0
  if digits.isEmpty then return .error (.misread .noCount span none)
  else if number < 4294967296 then return .ok number
  else return .error (.misread .numeralTooGreat span none)

/-- A repetition with counts between braces. -/
def countedRepetition (level : Level) : Reader Level := do
  let (part, level) ← target level
  let start ← here
  unless ← step do
    complain .unclosedCount (← since start)
  let least ← count
  if (← peek?).isNone then complain .unclosedCount (← since start)
  let (least, most) ←
    if (← peek?) == some ',' then do
      unless ← step do
        complain .unclosedCount (← since start)
      if (← peek?) == some '\x7d' then pure (← least, none)
      else do
        let least ← least
        let most ← (← count)
        pure (least, some most)
    else do
      let least ← least
      pure (least, some least)
  unless (← peek?) == some '\x7d' do
    complain .unclosedCount (← since start)
  discard step
  let marked ← preferenceMark
  match Times.between? least most with
  | none => complain .reversedCount (← since start)
  | some times => return level.add (.repetition (← since part.span.start) part times marked)

/-- A part that is neither set nor group. -/
def part (c : Char) : Reader Written := do
  if c == '\\' then escape
  else do
    let span ← nextSpan
    advance 1
    match c with
    | '.' => return .dot span
    | '^' => return .anchor span .lineStart
    | '$' => return .anchor span .lineEnd
    | _ => return .letter ⟨span, c, false⟩

/-- The rest of a pattern inside some open groups.  Every round reads a character, so their number
bounds the rounds. -/
def patternRest (groups : List OpenGroup) (level : Level) : Nat → Reader Written
  | 0 => return level.toWritten (← here)
  | rounds + 1 => do
      skipBlanks
      match ← peek? with
      | none =>
          match groups with
          | [] => return level.toWritten (← here)
          | group :: _ => complain .unclosedGroup group.span
      | some '(' => do
          let spaced := (← get).spaced
          match ← opening with
          | .flags span items => do
              modify fun cursor =>
                { cursor with spaced := (flagValue? .spaced items).getD spaced }
              patternRest groups (level.add (.flags span items)) rounds
          | .group span kind => do
              let items :=
                match kind with
                | .plain items => items
                | .kept _ => []
              modify fun cursor =>
                { cursor with spaced := (flagValue? .spaced items).getD spaced }
              patternRest (⟨span, kind, spaced, level⟩ :: groups) (.none (← here)) rounds
      | some ')' => do
          match groups with
          | [] => complain .unopenedGroup (← nextSpan)
          | group :: outer => do
              let inner := level.toWritten (← here)
              modify fun cursor => { cursor with spaced := group.spaced }
              advance 1
              let closed := Written.group (← since group.span.start) group.kind inner
              patternRest outer (group.outer.add closed) rounds
      | some '|' => do
          let branch := level.sequence (← here)
          advance 1
          let behind ← here
          patternRest groups ⟨branch :: level.branches, level.start, [], behind⟩ rounds
      | some '[' => do
          let set ← brackets
          patternRest groups (level.add set) rounds
      | some '?' => do
          let level ← signedRepetition level .optional
          patternRest groups level rounds
      | some '*' => do
          let level ← signedRepetition level (.atLeast 0)
          patternRest groups level rounds
      | some '+' => do
          let level ← signedRepetition level (.atLeast 1)
          patternRest groups level rounds
      | some '\x7b' => do
          let level ← countedRepetition level
          patternRest groups level rounds
      | some c => do
          let read ← part c
          patternRest groups (level.add read) rounds

end Reader

/-- The pattern that a text spells, or the fault in it. -/
def Written.ofText (text : String) : Except Fault Written := do
  let (written, _) ←
    StateT.run (Reader.patternRest [] (.none .start) (text.length + 1)) (.start text.toList)
  match written.tooDeep? 0 with
  | some span => throw (.misread .tooDeep span none)
  | none => return written

end LiteralLang.PatternText
