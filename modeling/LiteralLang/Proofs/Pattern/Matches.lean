import LiteralLang.Pattern.Occurrence
import Mathlib.Logic.Relation

/-!
# What patterns match

A match is told by the two places of a text between which it stands.  Matches stay in their text and
never go back in it, so a round of a repetition either goes on or does nothing, and rounds that do
nothing can be left out.
-/

namespace LiteralLang

/-- A place in a text: the characters in front of it, the nearest first, and those behind it. -/
structure Cut where
  front : List Char
  behind : List Char

namespace Cut

variable {start middle stop : Cut}

def text (cut : Cut) : List Char := cut.front.reverse ++ cut.behind

def number (cut : Cut) : Nat := cut.front.length

def surroundings (cut : Cut) : Surroundings := ⟨cut.front.head?, cut.behind.head?⟩

/-- The characters stand between the two places. -/
def Reads (characters : List Char) (start stop : Cut) : Prop :=
  start.behind = characters ++ stop.behind ∧ stop.front = characters.reverse ++ start.front

/-- One character of a set stands between the two places. -/
def ReadsOneOf (characters : CharSet) (start stop : Cut) : Prop :=
  ∃ c, characters.contains c = true ∧ Reads [c] start stop

/-- The second place is one of the same text, and not in front of the first. -/
structure UpTo (start stop : Cut) : Prop where
  text_eq : start.text = stop.text
  number_le : start.number ≤ stop.number

theorem UpTo.refl (cut : Cut) : cut.UpTo cut := ⟨rfl, Nat.le_refl _⟩

theorem UpTo.trans (first : start.UpTo middle) (second : middle.UpTo stop) : start.UpTo stop :=
  ⟨first.text_eq.trans second.text_eq, Nat.le_trans first.number_le second.number_le⟩

theorem Reads.upTo {characters : List Char} (reads : Reads characters start stop) :
    start.UpTo stop := by
  obtain ⟨behind, front⟩ := reads
  constructor
  · simp [text, behind, front]
  · simp [number, front]

theorem reads_nil_iff : Reads [] start stop ↔ start = stop := by
  obtain ⟨front, behind⟩ := start
  obtain ⟨otherFront, otherBehind⟩ := stop
  simp [Reads, and_comm, eq_comm]

theorem reads_append (first second : List Char) :
    Reads (first ++ second) = Relation.Comp (Reads first) (Reads second) := by
  funext start stop
  refine propext ⟨?_, ?_⟩
  · rintro ⟨behind, front⟩
    exact ⟨⟨first.reverse ++ start.front, second ++ stop.behind⟩, ⟨by simpa using behind, rfl⟩, rfl,
      by simpa using front⟩
  · rintro ⟨middle, ⟨behind, front⟩, behind', front'⟩
    constructor
    · simp [behind, behind']
    · simp [front, front']

/-- A place of a text is known by its number. -/
theorem eq_of_text_eq {a b : Cut} (text_eq : a.text = b.text) (number_eq : a.number = b.number) :
    a = b := by
  obtain ⟨front, behind⟩ := a
  obtain ⟨otherFront, otherBehind⟩ := b
  obtain ⟨fronts, behinds⟩ := List.append_inj text_eq (by simpa [number] using number_eq)
  rw [List.reverse_inj] at fronts
  exact congrArg₂ Cut.mk fronts behinds

theorem number_le (cut : Cut) : cut.number ≤ cut.text.length := by
  simp [number, text]

end Cut

/-- The number of times is among those. -/
def Times.Allows (times : Times) (count : Nat) : Prop :=
  times.least ≤ count ∧ ∀ most ∈ times.most, count ≤ most

/-- A number of rounds, each of which begins where the one in front of it has ended. -/
inductive Rounds (round : Cut → Cut → Prop) : Nat → Cut → Cut → Prop where
  | none (place : Cut) : Rounds round 0 place place
  | more {count : Nat} {start middle stop : Cut} :
      round start middle → Rounds round count middle stop → Rounds round (count + 1) start stop

/-- One of the numbers of rounds that are allowed. -/
def AllowedRounds (times : Times) (round : Cut → Cut → Prop) (start stop : Cut) : Prop :=
  ∃ count, times.Allows count ∧ Rounds round count start stop

namespace Rounds

variable {round : Cut → Cut → Prop} {first second : Nat} {start middle stop : Cut}

theorem zero_iff : Rounds round 0 start stop ↔ start = stop := by
  constructor
  · rintro ⟨⟩
    rfl
  · rintro rfl
    exact none start

theorem succ_iff : Rounds round (first + 1) start stop ↔
    ∃ middle, round start middle ∧ Rounds round first middle stop := by
  constructor
  · rintro (_ | ⟨one, rest⟩)
    exact ⟨_, one, rest⟩
  · rintro ⟨middle, one, rest⟩
    exact more one rest

theorem add_iff : Rounds round (first + second) start stop ↔
    ∃ middle, Rounds round first start middle ∧ Rounds round second middle stop := by
  induction first generalizing start with
  | zero => simp [zero_iff]
  | succ first ih =>
    rw [Nat.add_right_comm, succ_iff]
    simp only [ih, succ_iff]
    constructor
    · rintro ⟨place, one, middle, rest, others⟩
      exact ⟨middle, ⟨place, one, rest⟩, others⟩
    · rintro ⟨middle, ⟨place, one, rest⟩, others⟩
      exact ⟨place, one, middle, rest, others⟩

theorem upTo (onwards : ∀ start stop, round start stop → start.UpTo stop)
    (rounds : Rounds round first start stop) : start.UpTo stop := by
  induction rounds with
  | none place => exact .refl place
  | more one _ ih => exact (onwards _ _ one).trans ih

theorem eq_of (stays : ∀ start stop, round start stop → start = stop)
    (rounds : Rounds round first start stop) : start = stop := by
  induction rounds with
  | none => rfl
  | more one _ ih => exact (stays _ _ one).trans ih

/-- Rounds that do not go on can be made any number of times. -/
theorem again (stays : ∀ start stop, round start stop → start = stop)
    (rounds : Rounds round (first + 1) start stop) (count : Nat) :
    Rounds round (count + 1) start stop := by
  obtain ⟨middle, one, rest⟩ := succ_iff.mp rounds
  obtain rfl := stays _ _ one
  obtain rfl := rest.eq_of stays
  induction count with
  | zero => exact more one (none start)
  | succ count ih => exact more one ih

/-- Some rounds, in each of which nothing may be done, are at most as many. -/
theorem or_eq_iff {most : Nat} :
    Rounds (fun start stop => start = stop ∨ round start stop) most start stop ↔
      ∃ count ≤ most, Rounds round count start stop := by
  induction most generalizing start with
  | zero => simp [zero_iff]
  | succ most ih =>
    simp only [succ_iff, ih]
    constructor
    · rintro ⟨middle, rfl | one, count, bounded, rounds⟩
      · exact ⟨count, Nat.le_succ_of_le bounded, rounds⟩
      · exact ⟨count + 1, Nat.succ_le_succ bounded, more one rounds⟩
    · rintro ⟨count, bounded, _ | ⟨one, rounds⟩⟩
      · exact ⟨_, .inl rfl, 0, Nat.zero_le _, none _⟩
      · exact ⟨_, .inr one, _, Nat.le_of_succ_le_succ bounded, rounds⟩

/-- No more rounds are needed than there are characters to go on by. -/
theorem exists_le (onwards : ∀ start stop, round start stop → start.UpTo stop)
    (rounds : Rounds round first start stop) :
    ∃ fewer, fewer + start.number ≤ stop.number ∧ Rounds round fewer start stop := by
  induction rounds with
  | none place => exact ⟨0, Nat.le_of_eq (Nat.zero_add _), none place⟩
  | @more count start middle stop one rest ih =>
    obtain ⟨fewer, bounded, others⟩ := ih
    obtain ⟨text_eq, number_le⟩ := onwards _ _ one
    -- A round that does not go on can be left out.
    by_cases stays : start.number = middle.number
    · rw [Cut.eq_of_text_eq text_eq stays]
      exact ⟨fewer, bounded, others⟩
    · exact ⟨fewer + 1, by omega, more one others⟩

end Rounds

namespace Pattern

mutual

/-- The pattern matches what stands between two places of a text. -/
def Matches : Pattern → Cut → Cut → Prop
  | .empty => Eq
  | .text characters => Cut.Reads characters
  | .set characters _ => Cut.ReadsOneOf characters
  | .look condition => fun start stop =>
      condition.holds start.surroundings = true ∧ start = stop
  | .sequence parts => MatchInOrder parts
  | .choice branches => OneMatches branches
  | .repeated inner times _ => AllowedRounds times inner.Matches
  | .group _ inner => inner.Matches

/-- The patterns match one behind the other. -/
def MatchInOrder : List Pattern → Cut → Cut → Prop
  | [] => Eq
  | part :: rest => Relation.Comp part.Matches (MatchInOrder rest)

/-- One of the patterns matches. -/
def OneMatches : List Pattern → Cut → Cut → Prop
  | [] => fun _ _ => False
  | branch :: rest => fun start stop => branch.Matches start stop ∨ OneMatches rest start stop

end

mutual

theorem Matches.upTo : ∀ {pattern : Pattern} {start stop : Cut},
    pattern.Matches start stop → start.UpTo stop
  | .empty, start, _, .refl _ => .refl start
  | .text _, _, _, matched => Cut.Reads.upTo matched
  | .set _ _, _, _, ⟨_, _, reads⟩ => reads.upTo
  | .look _, start, _, ⟨_, .refl _⟩ => .refl start
  | .sequence _, _, _, matched => MatchInOrder.upTo matched
  | .choice _, _, _, matched => OneMatches.upTo matched
  | .repeated _ _ _, _, _, ⟨_, _, rounds⟩ => rounds.upTo fun _ _ => Matches.upTo
  | .group _ inner, start, stop, matched =>
      Matches.upTo (show inner.Matches start stop from matched)

theorem MatchInOrder.upTo : ∀ {parts : List Pattern} {start stop : Cut},
    MatchInOrder parts start stop → start.UpTo stop
  | [], start, _, .refl _ => .refl start
  | _ :: _, _, _, ⟨_, one, rest⟩ => (Matches.upTo one).trans (MatchInOrder.upTo rest)

theorem OneMatches.upTo : ∀ {branches : List Pattern} {start stop : Cut},
    OneMatches branches start stop → start.UpTo stop
  | _ :: _, _, _, .inl matched => Matches.upTo matched
  | _ :: _, _, _, .inr matched => OneMatches.upTo matched

end

end Pattern

end LiteralLang
