import LiteralLang.Pattern

/-!
# Where patterns occur

Whether a text has a place where a pattern matches.  Sets of places are numbers, in which the bit of
a place is set if the place is in the set; the place behind `n` characters has bit `n`.  A `Route`
is a pattern with the places of one text at which each of its parts can match, and takes the places
where it starts to those where it ends.  Going through a route again adds nothing once the places
stay the same, so repetitions need no more rounds than there are places.
-/

namespace LiteralLang

/-- The characters on both sides of a place. -/
structure Surroundings where
  before : Option Char
  behind : Option Char

def Look.isWordCharacter (c : Char) : Bool := c.isAlphanum || c == '_'

def Look.holds (look : Look) (place : Surroundings) : Bool :=
  let wordBefore := place.before.any isWordCharacter
  let wordBehind := place.behind.any isWordCharacter
  match look with
  | .textStart => place.before.isNone
  | .textEnd => place.behind.isNone
  | .lineStart => place.before.all (· == '\n')
  | .lineEnd => place.behind.all (· == '\n')
  | .anyLineStart =>
      place.before.all fun c => c == '\n' || (c == '\r' && place.behind != some '\n')
  | .anyLineEnd =>
      place.behind.all fun c => c == '\r' || (c == '\n' && place.before != some '\r')
  | .wordEdge => wordBefore != wordBehind
  | .noWordEdge => wordBefore == wordBehind
  | .wordStart => !wordBefore && wordBehind
  | .wordEnd => wordBefore && !wordBehind
  | .noWordBefore => !wordBefore
  | .noWordBehind => !wordBehind
  | .unicodeWord => false

/-- A set of places in a text. -/
abbrev Places := Nat

namespace Places

/-- The places at which something holds, which is asked of each place in order. -/
def wherever {α : Type} (holds : α → Bool) (places : List α) : Places :=
  places.foldr (fun place set => 2 * set + (holds place).toNat) 0

def exactly (round : Places → Places) : Nat → Places → Places
  | 0, places => places
  | count + 1, places =>
      let next := round places
      if next = places then places else exactly round count next

def atMost (round : Places → Places) : Nat → Places → Places
  | 0, places => places
  | count + 1, places =>
      let next := places ||| round places
      if next = places then places else atMost round count next

end Places

/-- A pattern on one text. -/
inductive Route where
  | stay
  | read (places : Places)
  /-- No character, at one of these places. -/
  | only (places : Places)
  | both (first second : Route)
  | either (first second : Route)
  /-- A number of rounds, and up to a number of further ones. -/
  | rounds (inner : Route) (least further : Nat)

/-- The places where a route ends that starts at some places. -/
def Route.ends : Route → Places → Places
  | .stay, starts => starts
  | .read places, starts => (starts &&& places) <<< 1
  | .only places, starts => starts &&& places
  | .both first second, starts => second.ends (first.ends starts)
  | .either first second, starts => first.ends starts ||| second.ends starts
  | .rounds inner least further, starts =>
      Places.atMost inner.ends further (Places.exactly inner.ends least starts)

namespace Pattern

/-- The characters on both sides of each place of a text. -/
def surroundings (text : List Char) : List Surroundings :=
  List.zipWith Surroundings.mk (none :: text.map some) (text.map some ++ [none])

/-- A character that is read. -/
def readRoute (text : List Char) (c : Char) : Route := .read (Places.wherever (· == c) text)

mutual

/-- The pattern on a text, given what is around each of its places. -/
def route (text : List Char) (around : List Surroundings) : Pattern → Route
  | .empty => .stay
  | .text characters => characters.foldr (fun c rest => .both (readRoute text c) rest) .stay
  | .set characters _ => .read (Places.wherever characters.contains text)
  | .look condition => .only (Places.wherever condition.holds around)
  | .sequence parts => routeOfAll text around parts
  | .choice branches => routeOfAny text around branches
  | .repeated inner times _ =>
      .rounds (inner.route text around) times.least
        (times.most.elim around.length (· - times.least))
  | .group _ inner => inner.route text around

def routeOfAll (text : List Char) (around : List Surroundings) : List Pattern → Route
  | [] => .stay
  | part :: rest => .both (part.route text around) (routeOfAll text around rest)

def routeOfAny (text : List Char) (around : List Surroundings) : List Pattern → Route
  | [] => .only 0
  | branch :: rest => .either (branch.route text around) (routeOfAny text around rest)

end

def occursIn (pattern : Pattern) (text : String) : Bool :=
  let around := surroundings text.toList
  (pattern.route text.toList around).ends (Places.wherever (fun _ => true) around) != 0

end Pattern

end LiteralLang
