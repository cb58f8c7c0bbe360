import LiteralLang.Pattern.CharSet
import LiteralLang.Pattern.Times

/-!
# Patterns

Regular expressions in a normal form.  The functions that put patterns together keep it: nothing
stands inside a sequence that is empty, a sequence, or two texts side by side; no choice stands
inside a choice; a choice among single characters or among sets is a set; and what all branches of a
choice begin with stands in front of it.
-/

namespace LiteralLang

inductive Look where
  | textStart
  | textEnd
  | lineStart
  | lineEnd
  /-- The start of a line, where a carriage return also ends one. -/
  | anyLineStart
  /-- The end of a line, where a carriage return also ends one. -/
  | anyLineEnd
  | wordEdge
  | noWordEdge
  | wordStart
  | wordEnd
  | noWordBefore
  | noWordBehind
  /-- One of the last six for the words of all scripts.  They are not known, so it holds nowhere. -/
  | unicodeWord
  deriving DecidableEq, Repr

/-- A regular expression. -/
inductive Pattern where
  | empty
  /-- Characters one behind the other, at least one. -/
  | text (characters : List Char)
  /-- One character of a set, which may have been given as a set of bytes. -/
  | set (characters : CharSet) (ofBytes : Bool)
  | look (condition : Look)
  | sequence (parts : List Pattern)
  | choice (branches : List Pattern)
  /-- A number of times in a row, and as often as can be where it is eager. -/
  | repeated (inner : Pattern) (times : Times) (eager : Bool)
  /-- What the inner pattern matches, whose place is kept under a number. -/
  | group (number : Nat) (inner : Pattern)
  deriving Repr

namespace Pattern

/-! ### Equality -/

mutual

def same : Pattern → Pattern → Bool
  | .empty, .empty => true
  | .text a, .text b => a == b
  | .set a aBytes, .set b bBytes => a == b && aBytes == bBytes
  | .look a, .look b => a == b
  | .sequence a, .sequence b | .choice a, .choice b => sameAll a b
  | .repeated a aTimes aEager, .repeated b bTimes bEager =>
      aTimes == bTimes && aEager == bEager && same a b
  | .group a aInner, .group b bInner => a == b && same aInner bInner
  | _, _ => false

def sameAll : List Pattern → List Pattern → Bool
  | [], [] => true
  | a :: as, b :: bs => same a b && sameAll as bs
  | _, _ => false

end

/-! ### What patterns read -/

mutual

/-- The pattern reads no character, whatever the text is. -/
def readsNothing : Pattern → Bool
  | .empty | .look _ => true
  | .text _ | .set _ _ => false
  | .sequence parts | .choice parts => allReadNothing parts
  | .repeated inner _ _ | .group _ inner => inner.readsNothing

def allReadNothing : List Pattern → Bool
  | [] => true
  | part :: rest => part.readsNothing && allReadNothing rest

end

mutual

/-- A bound for the number of characters that the pattern reads at least.  There is none where a set
without characters makes it match nowhere. -/
def leastLength? : Pattern → Option Nat
  | .empty | .look _ => some 0
  | .text characters => some characters.length
  | .set characters _ => if characters.ranges.isEmpty then none else some 1
  | .sequence parts => sumOfLeast? parts
  | .choice branches => leastOfLeast? branches
  | .repeated inner times _ => inner.leastLength?.map (· * times.least)
  | .group _ inner => inner.leastLength?

def sumOfLeast? : List Pattern → Option Nat
  | [] => some 0
  | part :: rest => do return (← part.leastLength?) + (← sumOfLeast? rest)

def leastOfLeast? : List Pattern → Option Nat
  | [] => some 0
  | [last] => last.leastLength?
  | branch :: rest => do return min (← branch.leastLength?) (← leastOfLeast? rest)

end

/-! ### Putting patterns together -/

def ofSet (characters : CharSet) (ofBytes : Bool) : Pattern :=
  match characters.ranges with
  | [(first, last)] =>
      if first = last ∧ first.isValidChar then .text [Char.ofNat first]
      else .set characters ofBytes
  | [] => .set characters true
  | _ => .set characters ofBytes

/-- Parts of a sequence with texts side by side made one. -/
def joined : List Pattern → List Pattern
  | [] => []
  | .text front :: rest =>
      match joined rest with
      | .text behind :: more => .text (front ++ behind) :: more
      | parts => .text front :: parts
  | part :: rest => part :: joined rest

/-- The parts of a sequence with what they are parts of left out. -/
def flatParts : Pattern → List Pattern
  | .empty => []
  | .sequence inner => inner
  | other => [other]

/-- Patterns one behind the other. -/
def inOrder (parts : List Pattern) : Pattern :=
  match joined (parts.flatMap flatParts) with
  | [] => .empty
  | [part] => part
  | several => .sequence several

def single? : Pattern → Option CharSet
  | .text [c] => some (CharSet.single c.toNat)
  | _ => none

def set? : Pattern → Option CharSet
  | .set characters _ => some characters
  | _ => none

/-- The set of all characters that a choice is among, if it is one among single characters or one
among sets. -/
def choiceSet? (branches : List Pattern) : Option CharSet :=
  ((branches.mapM single?).or (branches.mapM set?)).map (·.foldr CharSet.union .none)

def parts? : Pattern → Option (List Pattern)
  | .sequence parts => some parts
  | _ => none

/-- How many parts two sequences have in common at their start. -/
def commonLength : List Pattern → List Pattern → Nat
  | a :: as, b :: bs => if same a b then commonLength as bs + 1 else 0
  | _, _ => 0

/-- How many parts all branches have in common at their start, and the parts of each of them. -/
def commonStart? (branches : List Pattern) : Option (Nat × List (List Pattern)) := do
  let sequences ← branches.mapM parts?
  let first ← sequences.head?
  let length := sequences.tail.foldl (fun n other => min n (commonLength first other)) first.length
  if length = 0 then none else some (length, sequences)

/-- The branches of a choice. -/
def flatBranches : Pattern → List Pattern
  | .choice inner => inner
  | other => [other]

/-- A choice among branches that have no start in common. -/
def oneOfApart (branches : List Pattern) : Pattern :=
  match branches.flatMap flatBranches with
  | [branch] => branch
  | several =>
      match choiceSet? several with
      | some characters => ofSet characters false
      | none => .choice several

def oneOf (branches : List Pattern) : Pattern :=
  match oneOfApart branches with
  | .choice several =>
      match commonStart? several with
      | none => .choice several
      | some (length, sequences) =>
          let ends := sequences.map fun parts => inOrder (parts.drop length)
          inOrder ((sequences.headD []).take length ++ [oneOfApart ends])
  | other => other

/-- A pattern several times in a row.  One that reads nothing is tried at most once, and a pattern
that is to be matched not at all or exactly once is no repetition. -/
def inRow (inner : Pattern) (times : Times) (eager : Bool) : Pattern :=
  let times := if inner.readsNothing then times.once else times
  if times.most = some 0 then .empty
  else if times.least = 1 ∧ times.most = some 1 then inner
  else .repeated inner times eager

end Pattern

end LiteralLang
