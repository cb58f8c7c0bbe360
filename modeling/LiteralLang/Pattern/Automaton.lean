import LiteralLang.Pattern
import LiteralLang.Text.Utf8

/-!
# The automata of patterns

How many bytes the automata take that a pattern stands for: one that reads a text forwards and keeps
the places of groups, and one that reads it backwards.  Counted repetitions repeat the states of
what they are about, so a short pattern may take a lot of room.  States that read a character read
its bytes in UTF-8.
-/

namespace LiteralLang

namespace Automaton

def state : Nat := 32

/-- The bytes of an arrow from a state that chooses among several. -/
def arrow : Nat := 4

def range : Nat := 8

/-- The bytes of several states together. -/
def together (bytes : List Nat) : Nat := bytes.foldr (· + ·) 0

inductive Direction where
  | forwards
  | backwards
  deriving DecidableEq

/-- The room of a part of an automaton. -/
structure Room where
  bytes : Nat
  /-- Its last state chooses among several, and needs one arrow more to go on. -/
  endsInChoice : Bool

namespace Room

/-- A part that ends in a state with a single way on. -/
def plain (bytes : Nat) : Room := ⟨bytes, false⟩

/-- The room of a part and of the arrow behind it. -/
def withArrow (room : Room) : Nat := if room.endsInChoice then room.bytes + arrow else room.bytes

/-- Parts one behind the other. -/
def inOrder : List Room → Room
  | [] => plain state
  | [last] => last
  | first :: rest =>
      let behind := inOrder rest
      ⟨first.withArrow + behind.bytes, behind.endsInChoice⟩

/-- A part a number of times in a row. -/
def times (room : Room) : Nat → Room
  | 0 => plain state
  | more + 1 => ⟨more * room.withArrow + room.bytes, room.endsInChoice⟩

/-- A part any number of times from `least` on. -/
def atLeast (room : Room) (readsAlways : Bool) : Nat → Room
  | 0 =>
      if readsAlways then ⟨state + arrow + room.withArrow, true⟩
      else plain (room.withArrow + 3 * state + 4 * arrow)
  | 1 => ⟨room.withArrow + state + arrow, true⟩
  | more + 2 => ⟨(room.times (more + 1)).withArrow + room.withArrow + state + arrow, true⟩

def between (room : Room) (least most : Nat) : Room :=
  if least = 0 ∧ most = 1 then plain (2 * state + 2 * arrow + room.withArrow)
  else if least = most then room.times least
  else
    plain ((room.times least).withArrow + state
      + (most - least) * (state + 2 * arrow + room.withArrow))

def choice (branches : List Room) : Room :=
  plain (2 * state + together (branches.map fun branch => arrow + branch.withArrow))

end Room

/-! ### Texts in a choice -/

/-- Texts that begin at a place, cut at those that end there: the texts in front of the first such
one, those up to the next, and so on, and last those behind all of them.  Further ones that end
there do not count as long as none goes on. -/
def chunks (current : List (List Nat)) (anyGoesOn : Bool) (found : List (List (List Nat))) :
    List (List Nat) → List (List (List Nat))
  | [] => (current.reverse :: found).reverse
  | [] :: rest =>
      if !anyGoesOn && !found.isEmpty then chunks current anyGoesOn found rest
      else chunks [] anyGoesOn (current.reverse :: found) rest
  | text :: rest => chunks (text :: current) true found rest

/-- The bytes that some texts begin with, each once. -/
def heads (texts : List (List Nat)) : List Nat := (texts.filterMap List.head?).eraseDups

/-- What follows a byte in those texts that begin with it. -/
def tails (texts : List (List Nat)) (byte : Nat) : List (List Nat) :=
  texts.filterMap fun text => match text with
    | first :: rest => if first = byte then some rest else none
    | [] => none

/-- The states behind a place at which some texts begin that share their starts, the end left aside.
No text is longer than the bound. -/
def shared : Nat → List (List Nat) → Nat
  | 0, _ => 0
  | bound + 1, texts =>
      if texts.all (·.isEmpty) then 0
      else
        let chunked := chunks [] false [] texts
        let reading := (chunked.map fun chunk => (chunk, heads chunk)).filter (!·.2.isEmpty)
        let states := reading.map fun (chunk, bytes) =>
          state + (if bytes.length = 1 then 0 else range * bytes.length)
            + together (bytes.map fun byte => shared bound (tails chunk byte))
        state + arrow * (reading.length + (chunked.length - 1)) + together states

/-- The room of a choice among texts of bytes, which shares their starts. -/
def textChoice (texts : List (List Nat)) : Room :=
  .plain (state + shared (texts.foldl (fun n text => max n text.length) 0 + 1) texts)

/-! ### Sets -/

/-- Sequences of ranges of bytes that have their first range in common: that range, and what follows
it in each of them. -/
def grouped : List (List (Nat × Nat)) → List ((Nat × Nat) × List (List (Nat × Nat)))
  | [] => []
  | [] :: rest => grouped rest
  | (first :: tail) :: rest =>
      match grouped rest with
      | (other, tails) :: more =>
          if other = first then (first, tail :: tails) :: more
          else (first, [tail]) :: (other, tails) :: more
      | [] => [(first, [tail])]

/-- The different sets of sequences that are left behind some of their ranges, none of them longer
than the bound. -/
def remainders : Nat → List (List (Nat × Nat)) → List (List (List (Nat × Nat)))
  | 0, _ => []
  | bound + 1, sequences =>
      if sequences.all (·.isEmpty) then []
      else sequences :: (grouped sequences).flatMap fun (_, tails) => remainders bound tails

/-- How many ranges two sequences have in common at their start. -/
def commonStart : List (Nat × Nat) → List (Nat × Nat) → Nat
  | a :: as, b :: bs => if a = b then commonStart as bs + 1 else 0
  | _, _ => 0

/-- The states of sequences read backwards, each of which shares its start with the one in front. -/
def backwardsStates (previous : List (Nat × Nat)) : List (List (Nat × Nat)) → Nat
  | [] => 0
  | sequence :: rest =>
      sequence.length - commonStart previous sequence + backwardsStates sequence rest

/-- The room of one character of a set. -/
def ofSet (direction : Direction) (characters : CharSet) : Room :=
  if characters.isAscii then .plain (2 * state + range * characters.ranges.length)
  else
    let sequences := characters.ranges.flatMap fun (first, last) => Text.utf8Sequences first last
    match direction with
    | .forwards =>
        let states := (remainders 4 sequences).eraseDups.map fun left =>
          state + range * (grouped left).length
        .plain (state + together states)
    | .backwards =>
        .plain (2 * state + arrow * sequences.length + state * backwardsStates [] sequences)

/-! ### Patterns -/

/-- The bytes of a text in the order in which they are read. -/
def bytesOf (direction : Direction) (characters : List Char) : List Nat :=
  let bytes := characters.flatMap fun c => Text.utf8Bytes c.toNat
  match direction with
  | .forwards => bytes
  | .backwards => bytes.reverse

/-- The texts of a choice, if it is one among texts alone. -/
def texts? (branches : List Pattern) : Option (List (List Char)) :=
  branches.mapM fun branch => match branch with
    | .text characters => some characters
    | _ => none

mutual

/-- The room of a pattern. -/
def room (direction : Direction) : Pattern → Room
  | .empty | .look _ => .plain state
  | .text characters => .plain (state * (bytesOf direction characters).length)
  | .set characters _ => ofSet direction characters
  | .sequence parts =>
      let rooms := roomEach direction parts
      .inOrder (if direction = .forwards then rooms else rooms.reverse)
  | .choice branches =>
      match texts? branches with
      | some texts => textChoice (texts.map (bytesOf direction))
      | none => .choice (roomEach direction branches)
  | .repeated inner ⟨least, none, _⟩ _ =>
      (room direction inner).atLeast (inner.leastLength?.any (0 < ·)) least
  | .repeated inner ⟨least, some most, _⟩ _ => (room direction inner).between least most
  | .group _ inner =>
      let within := room direction inner
      if direction = .forwards then .plain (within.withArrow + 2 * state) else within

def roomEach (direction : Direction) : List Pattern → List Room
  | [] => []
  | part :: rest => room direction part :: roomEach direction rest

end

/-! ### Whole automata -/

mutual

/-- The condition is met wherever the pattern begins to match. -/
def startsAt (condition : Look) : Pattern → Bool
  | .look other => other == condition
  | .sequence parts => allStartAt condition false parts
  | .choice branches => allStartAt condition true branches
  | .repeated inner times _ => 0 < times.least && startsAt condition inner
  | .group _ inner => startsAt condition inner
  | _ => false

/-- The condition is met wherever each of some branches begins to match, or where some parts do that
stand one behind the other. -/
def allStartAt (condition : Look) (branches : Bool) : List Pattern → Bool
  | [] => branches
  | part :: rest =>
      if branches then startsAt condition part && allStartAt condition branches rest
      else startsAt condition part || (part.readsNothing && allStartAt condition branches rest)

end

mutual

/-- The condition is met wherever the pattern ends to match. -/
def endsAt (condition : Look) : Pattern → Bool
  | .look other => other == condition
  | .sequence parts => lastEndsAt condition parts
  | .choice branches => allEndAt condition branches
  | .repeated inner times _ => 0 < times.least && endsAt condition inner
  | .group _ inner => endsAt condition inner
  | _ => false

def lastEndsAt (condition : Look) : List Pattern → Bool
  | [] => false
  | part :: rest =>
      lastEndsAt condition rest || (Pattern.allReadNothing rest && endsAt condition part)

/-- The condition is met wherever each of some branches ends to match. -/
def allEndAt (condition : Look) : List Pattern → Bool
  | [] => true
  | branch :: rest => endsAt condition branch && allEndAt condition rest

end

/-- The bytes of the automaton of a whole pattern.  In front of it stand states that pass over the
text up to a match, unless it has to begin where the text does; behind it stands the final state. -/
def total (direction : Direction) (pattern : Pattern) : Nat :=
  let within := room direction pattern
  match direction with
  | .forwards =>
      let front := if startsAt .textStart pattern then state else 3 * state + 2 * arrow + range
      front + 2 * state + within.withArrow + state
  | .backwards =>
      let front := if endsAt .textEnd pattern then state else 3 * state + 2 * arrow + range
      front + within.withArrow + state

end Automaton

mutual

/-- The pattern looks for the words of all scripts. -/
def Pattern.looksForUnicodeWords : Pattern → Bool
  | .empty | .text _ | .set _ _ => false
  | .look condition => condition == .unicodeWord
  | .sequence parts | .choice parts => Pattern.anyLooksForUnicodeWords parts
  | .repeated inner _ _ | .group _ inner => inner.looksForUnicodeWords

def Pattern.anyLooksForUnicodeWords : List Pattern → Bool
  | [] => false
  | part :: rest => part.looksForUnicodeWords || Pattern.anyLooksForUnicodeWords rest

end

end LiteralLang
