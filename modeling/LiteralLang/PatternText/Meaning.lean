import LiteralLang.Pattern.Automaton
import LiteralLang.Pattern.Occurrence
import LiteralLang.PatternText.Read
import LiteralLang.PatternText.Sets

/-!
# What written patterns mean

From a written pattern to the pattern that is matched.  Flags hold up to the end of the group in
which they stand, also in the branches behind their own.
-/

namespace LiteralLang.PatternText

namespace Meaning

def letter (written : Letter) : Meaning Pattern := do
  let manner ← get
  let number := written.character.toNat
  if manner.unicode then
    if manner.anyCase then refuse .unicodeCase written.span
    else return .text [written.character]
  else if written.isByte && decide (127 < number) then refuse .bytesHere written.span
  else if manner.anyCase then return .ofSet (CharSet.single number).withBothCases true
  else return .text [written.character]

def dot (span : Span) : Meaning Pattern := do
  let manner ← get
  if !manner.unicode then refuse .bytesHere span
  else
    let ends : List (Nat × Nat) :=
      if manner.dotAll then []
      else if manner.returns then [(0xA, 0xA), (0xD, 0xD)]
      else [(0xA, 0xA)]
    return .ofSet ((CharSet.ofRanges ends).complement manner.greatest) false

/-- One of the characters of a set. -/
def oneOfSet (set : Meaning CharSet) : Meaning Pattern := do
  let characters ← set
  return .ofSet characters (!(← get).unicode)

def look (manner : Manner) : Anchor → Look
  | .textStart => .textStart
  | .textEnd => .textEnd
  | .lineStart =>
      if !manner.lines then .textStart else if manner.returns then .anyLineStart else .lineStart
  | .lineEnd =>
      if !manner.lines then .textEnd else if manner.returns then .anyLineEnd else .lineEnd
  | .wordEdge => if manner.unicode then .unicodeWord else .wordEdge
  | .noWordEdge => if manner.unicode then .unicodeWord else .noWordEdge
  | .wordStart => if manner.unicode then .unicodeWord else .wordStart
  | .wordEnd => if manner.unicode then .unicodeWord else .wordEnd
  | .noWordBefore => if manner.unicode then .unicodeWord else .noWordBefore
  | .noWordBehind => if manner.unicode then .unicodeWord else .noWordBehind

mutual

/-- The pattern that a written one stands for. -/
def pattern : Written → Meaning Pattern
  | .nothing _ => return .empty
  | .flags _ items => do
      modify (·.changed items)
      return .empty
  | .letter written => letter written
  | .dot span => dot span
  | .anchor _ anchor => return .look (look (← get) anchor)
  | .shorthand span negated name => oneOfSet (shorthand span negated name)
  | .property span name => property span name
  | .bracketed span negated inner => oneOfSet (inside (.bracketed span negated inner))
  | .repetition _ inner times marked => do
      let inner ← pattern inner
      return inner.inRow times ((← get).swapped == marked)
  | .group _ (.plain flags) inner => do
      let before ← get
      modify (·.changed flags)
      let inner ← pattern inner
      set before
      return inner
  | .group _ (.kept number) inner => do
      let before ← get
      let inner ← pattern inner
      set before
      return .group number inner
  | .alternation _ branches => return .oneOf (← patterns branches)
  | .sequence _ parts => return .inOrder (← patterns parts)

def patterns : List Written → Meaning (List Pattern)
  | [] => return []
  | first :: rest => do
      let first ← pattern first
      return first :: (← patterns rest)

end

end Meaning

end LiteralLang.PatternText

namespace LiteralLang.Pattern

/-- The pattern that a text spells, or why it cannot be matched.  The automaton that reads forwards
is built first, and words are looked for before the other is. -/
def ofText (text : String) : Except PatternText.Fault Pattern := do
  let written ← PatternText.Written.ofText text
  let (pattern, _) ← (PatternText.Meaning.pattern written).run .standard
  if PatternText.room < Automaton.total .forwards pattern then throw .tooBig
  else if pattern.looksForUnicodeWords then throw .unicodeWords
  else if PatternText.room < Automaton.total .backwards pattern then throw .tooBig
  else return pattern

end LiteralLang.Pattern
