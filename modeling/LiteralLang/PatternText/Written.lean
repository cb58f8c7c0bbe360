import LiteralLang.Pattern.Times

/-!
# Written patterns

Patterns as they are written, with the place of every part, before anything is decided about what
they mean.  `Written.tooDeep?` finds the first part that lies inside too many others.
-/

namespace LiteralLang.PatternText

/-! ### Places -/

/-- A place in a text; lines and columns count from one. -/
structure Mark where
  offset : Nat
  line : Nat
  column : Nat
  deriving DecidableEq

namespace Mark

def start : Mark := ⟨0, 1, 1⟩

/-- The place behind a character. -/
def behind (mark : Mark) (c : Char) : Mark :=
  if c = '\n' then ⟨mark.offset + 1, mark.line + 1, 1⟩
  else ⟨mark.offset + 1, mark.line, mark.column + 1⟩

end Mark

/-- A stretch of a text. -/
structure Span where
  start : Mark
  stop : Mark
  deriving DecidableEq

def Span.at (mark : Mark) : Span := ⟨mark, mark⟩

/-! ### Parts -/

/-- A character that stands for one character. -/
structure Letter where
  span : Span
  character : Char
  /-- Written as `\x` and two hexadecimal digits, so that it may mean a byte. -/
  isByte : Bool

/-- A class of characters with a letter behind a backslash as its name. -/
inductive Shorthand where
  | digit
  | space
  | word

/-- A class of characters of ASCII with a name between colons. -/
inductive NamedClass where
  | alnum
  | alpha
  | ascii
  | blank
  | cntrl
  | digit
  | graph
  | lower
  | print
  | punct
  | space
  | upper
  | word
  | xdigit

/-- A condition on a place. -/
inductive Anchor where
  | lineStart
  | lineEnd
  | textStart
  | textEnd
  | wordEdge
  | noWordEdge
  | wordStart
  | wordEnd
  | noWordBefore
  | noWordBehind

/-- What changes how a pattern is read. -/
inductive Flag where
  | anyCase
  | lines
  /-- The dot also stands for the end of a line. -/
  | dotAll
  /-- The preferences of repetitions are swapped. -/
  | swapped
  | unicode
  | returns
  /-- Blanks and comments are passed over. -/
  | spaced
  deriving DecidableEq

/-- A flag, or the sign that turns off the flags behind it. -/
inductive FlagItem where
  | negation
  | flag (flag : Flag)
  deriving DecidableEq

/-- What a list of flags says about one of them. -/
def flagValue? (flag : Flag) : List FlagItem → Option Bool
  | [] => none
  | .negation :: rest => (flagValue? flag rest).map fun _ => false
  | .flag other :: rest => if other = flag then some true else flagValue? flag rest

/-- A kind of group. -/
inductive GroupKind where
  /-- A group with flags of its own. -/
  | plain (flags : List FlagItem)
  /-- A group whose place is kept under a number. -/
  | kept (number : Nat)

/-- What two sets between brackets are made into. -/
inductive SetOperation where
  | intersection
  | difference
  | symmetricDifference

/-- What stands between brackets. -/
inductive Bracket where
  | nothing (span : Span)
  | letter (written : Letter)
  | range (span : Span) (first last : Letter)
  | named (span : Span) (negated : Bool) (name : NamedClass)
  | shorthand (span : Span) (negated : Bool) (name : Shorthand)
  | property (span : Span) (name : List Char)
  | union (span : Span) (parts : List Bracket)
  | operation (span : Span) (operation : SetOperation) (left right : Bracket)
  | bracketed (span : Span) (negated : Bool) (inner : Bracket)

/-- The place of what stands between brackets. -/
def Bracket.span : Bracket → Span
  | .letter written => written.span
  | .nothing span | .range span .. | .named span .. | .shorthand span .. | .property span ..
  | .union span .. | .operation span .. | .bracketed span .. => span

/-- A written pattern. -/
inductive Written where
  | nothing (span : Span)
  | flags (span : Span) (items : List FlagItem)
  | letter (written : Letter)
  | dot (span : Span)
  | anchor (span : Span) (anchor : Anchor)
  | shorthand (span : Span) (negated : Bool) (name : Shorthand)
  | property (span : Span) (name : List Char)
  | bracketed (span : Span) (negated : Bool) (inner : Bracket)
  /-- A number of times in a row; a question mark behind it reverses its preference. -/
  | repetition (span : Span) (inner : Written) (times : Times) (marked : Bool)
  | group (span : Span) (kind : GroupKind) (inner : Written)
  | alternation (span : Span) (branches : List Written)
  | sequence (span : Span) (parts : List Written)

/-- The place of a written pattern. -/
def Written.span : Written → Span
  | .letter written => written.span
  | .nothing span | .flags span .. | .dot span | .anchor span .. | .shorthand span ..
  | .property span .. | .bracketed span .. | .repetition span .. | .group span ..
  | .alternation span .. | .sequence span .. => span

/-! ### Depth -/

/-- The greatest number of parts that lie inside each other. -/
def deepest : Nat := 250

mutual

/-- The first part between brackets that lies inside too many others, given how many are around. -/
def Bracket.tooDeep? (depth : Nat) : Bracket → Option Span
  | .union span parts =>
      if deepest ≤ depth then some span else Bracket.anyTooDeep? (depth + 1) parts
  | .operation span _ left right =>
      if deepest ≤ depth then some span
      else (left.tooDeep? (depth + 1)).or (right.tooDeep? (depth + 1))
  | .bracketed span _ inner => if deepest ≤ depth then some span else inner.tooDeep? (depth + 1)
  | _ => none

/-- The first of several parts that lies inside too many others, or has one inside that does. -/
def Bracket.anyTooDeep? (depth : Nat) : List Bracket → Option Span
  | [] => none
  | part :: rest => (part.tooDeep? depth).or (Bracket.anyTooDeep? depth rest)

end

mutual

/-- The first part that lies inside too many others, given how many are around. -/
def Written.tooDeep? (depth : Nat) : Written → Option Span
  | .bracketed span _ inner => if deepest ≤ depth then some span else inner.tooDeep? (depth + 1)
  | .repetition span inner _ _ | .group span _ inner =>
      if deepest ≤ depth then some span else inner.tooDeep? (depth + 1)
  | .alternation span parts | .sequence span parts =>
      if deepest ≤ depth then some span else Written.anyTooDeep? (depth + 1) parts
  | _ => none

/-- The first of several parts that lies inside too many others, or has one inside that does. -/
def Written.anyTooDeep? (depth : Nat) : List Written → Option Span
  | [] => none
  | part :: rest => (part.tooDeep? depth).or (Written.anyTooDeep? depth rest)

end

end LiteralLang.PatternText
