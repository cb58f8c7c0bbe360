import LiteralLang.Proofs.Pattern.Matches
import Mathlib.Data.Nat.Bitwise

/-!
# Patterns occur where they match

A set of places as a number shows the places of a text that have some property.  Each part of a
route takes the places with a property to those that a match reaches from them.  A repetition stops
when a round adds nothing, or after as many further rounds as there are places, and both are enough.
-/

namespace LiteralLang

/-- The places that a step reaches from some places. -/
def Reached (step : Cut → Cut → Prop) (starts : Cut → Prop) (stop : Cut) : Prop :=
  ∃ start, starts start ∧ step start stop

namespace Places

variable {text : List Char} {places : Places} {here there : Cut → Prop}
variable {round : Places → Places} {step : Cut → Cut → Prop}

theorem testBit_wherever {α : Type} (holds : α → Bool) (list : List α) (n : Nat) :
    (wherever holds list).testBit n = list[n]?.any holds := by
  have bit (set : Nat) (b : Bool) : 2 * set + b.toNat = Nat.bit b set := (Nat.bit_val b set).symm
  induction list generalizing n with
  | nil => simp [wherever]
  | cons first rest ih =>
    change (2 * wherever holds rest + (holds first).toNat).testBit n = _
    rw [bit]
    cases n with
    | zero => simp
    | succ n => simpa [Nat.testBit_bit_succ] using ih n

/-- The numbers are those of the places of the text with the property. -/
def Shows (text : List Char) (places : Places) (property : Cut → Prop) : Prop :=
  ∀ n, places.testBit n = true ↔ ∃ cut, cut.text = text ∧ cut.number = n ∧ property cut

theorem Shows.testBit_number (shows : Shows text places here) {cut : Cut}
    (text_eq : cut.text = text) : places.testBit cut.number = true ↔ here cut := by
  rw [shows cut.number]
  constructor
  · rintro ⟨other, otherText, number, holds⟩
    rwa [← Cut.eq_of_text_eq (otherText.trans text_eq.symm) number]
  · intro holds
    exact ⟨cut, text_eq, rfl, holds⟩

theorem Shows.congr (shows : Shows text places here)
    (same : ∀ cut, cut.text = text → (here cut ↔ there cut)) : Shows text places there := by
  intro n
  rw [shows n]
  refine exists_congr fun cut => and_congr_right fun text_eq => and_congr_right fun _ => ?_
  exact same cut text_eq

theorem Shows.or {others : Places} (shows : Shows text places here)
    (shows' : Shows text others there) :
    Shows text (places ||| others) fun cut => here cut ∨ there cut := by
  intro n
  rw [Nat.testBit_or, Bool.or_eq_true, shows n, shows' n, ← exists_or]
  refine exists_congr fun cut => ?_
  tauto

/-- The function takes the places with any property to those that the step reaches from them. -/
def Carries (text : List Char) (round : Places → Places) (step : Cut → Cut → Prop) : Prop :=
  ∀ ⦃places here⦄, Shows text places here → Shows text (round places) (Reached step here)

theorem Carries.congr {other : Cut → Cut → Prop} (carries : Carries text round step)
    (same : ∀ start stop, stop.text = text → (step start stop ↔ other start stop)) :
    Carries text round other := by
  intro places here shows
  refine (carries shows).congr fun stop text_eq => exists_congr fun start => ?_
  rw [same start stop text_eq]

theorem carries_id : Carries text id Eq := by
  intro places here shows
  refine shows.congr fun cut _ => ?_
  simp [Reached]

theorem Carries.comp {next : Places → Places} {after : Cut → Cut → Prop}
    (carries : Carries text round step) (carries' : Carries text next after) :
    Carries text (fun places => next (round places)) (Relation.Comp step after) := by
  intro places here shows
  refine (carries' (carries shows)).congr fun stop _ => ?_
  constructor
  · rintro ⟨middle, ⟨start, holds, first⟩, second⟩
    exact ⟨start, holds, middle, first, second⟩
  · rintro ⟨start, holds, middle, first, second⟩
    exact ⟨middle, ⟨start, holds, first⟩, second⟩

theorem Carries.or {next : Places → Places} {other : Cut → Cut → Prop}
    (carries : Carries text round step) (carries' : Carries text next other) :
    Carries text (fun places => round places ||| next places)
      fun start stop => step start stop ∨ other start stop := by
  intro places here shows
  refine ((carries shows).or (carries' shows)).congr fun stop _ => ?_
  simp only [Reached, and_or_left, exists_or]

/-! ### Single steps -/

/-- The character behind a place. -/
theorem getElem?_number {cut : Cut} (text_eq : cut.text = text) :
    text[cut.number]? = cut.behind.head? := by
  simp [← text_eq, Cut.text, Cut.number, List.getElem?_append_right, List.head?_eq_getElem?]

theorem carries_read (holds : Char → Bool) :
    Carries text (fun starts => (starts &&& wherever holds text) <<< 1)
      fun start stop => ∃ c, holds c = true ∧ Cut.Reads [c] start stop := by
  intro places here shows n
  rw [Nat.testBit_shiftLeft]
  cases n with
  | zero =>
    refine ⟨fun bit => by simp at bit, ?_⟩
    rintro ⟨stop, _, number, start, _, c, _, _, front⟩
    simp [Cut.number, front] at number
  | succ n =>
    simp only [ge_iff_le, Nat.le_add_left, decide_true, Bool.true_and, Nat.add_sub_cancel,
      Nat.testBit_and, testBit_wherever, Bool.and_eq_true]
    constructor
    · rintro ⟨bit, atPlace⟩
      obtain ⟨⟨front, behind⟩, text_eq, rfl, holdsHere⟩ := (shows n).mp bit
      rw [getElem?_number text_eq] at atPlace
      cases behind with
      | nil => simp at atPlace
      | cons c behind =>
        exact ⟨⟨c :: front, behind⟩, by simpa [Cut.text] using text_eq, rfl, ⟨front, c :: behind⟩,
          holdsHere, c, by simpa using atPlace, rfl, rfl⟩
    · rintro ⟨stop, text_eq, number, start, holdsHere, c, member, reads⟩
      have startText : start.text = text := reads.upTo.text_eq.trans text_eq
      have startNumber : start.number = n := by
        simpa [Cut.number, reads.2] using number
      subst startNumber
      refine ⟨(shows.testBit_number startText).mpr holdsHere, ?_⟩
      rw [getElem?_number startText, reads.1]
      exact member

theorem getElem?_surroundings {cut : Cut} (text_eq : cut.text = text) :
    (Pattern.surroundings text)[cut.number]? = some cut.surroundings := by
  subst text_eq
  rw [Pattern.surroundings, List.getElem?_zipWith]
  obtain ⟨front, behind⟩ := cut
  cases front <;> cases behind <;> simp [Cut.text, Cut.number, Cut.surroundings]

theorem length_surroundings (text : List Char) :
    (Pattern.surroundings text).length = text.length + 1 := by
  simp [Pattern.surroundings]

theorem carries_only (holds : Surroundings → Bool) :
    Carries text (· &&& wherever holds (Pattern.surroundings text))
      fun start stop => holds start.surroundings = true ∧ start = stop := by
  intro places here shows n
  rw [Nat.testBit_and, testBit_wherever, Bool.and_eq_true, shows n]
  constructor
  · rintro ⟨⟨cut, text_eq, rfl, holdsHere⟩, condition⟩
    rw [getElem?_surroundings text_eq] at condition
    exact ⟨cut, text_eq, rfl, cut, holdsHere, condition, rfl⟩
  · rintro ⟨cut, text_eq, rfl, _, holdsHere, condition, rfl⟩
    rw [getElem?_surroundings text_eq]
    exact ⟨⟨_, text_eq, rfl, holdsHere⟩, condition⟩

theorem carries_nowhere : Carries text (· &&& 0) fun _ _ => False := by
  intro places here shows n
  simp [Reached]

/-! ### Rounds -/

/-- The first of some rounds. -/
theorem reached_succ_iff {count : Nat} {stop : Cut} :
    Reached (Rounds step (count + 1)) here stop ↔
      Reached (Rounds step count) (Reached step here) stop := by
  simp only [Reached, Rounds.succ_iff]
  constructor
  · rintro ⟨start, holds, middle, first, rest⟩
    exact ⟨middle, ⟨start, holds, first⟩, rest⟩
  · rintro ⟨middle, ⟨start, holds, first⟩, rest⟩
    exact ⟨start, holds, middle, first, rest⟩

theorem reached_zero_iff {stop : Cut} : Reached (Rounds step 0) here stop ↔ here stop := by
  simp [Reached, Rounds.zero_iff]

/-- Where a round does not change the places, no number of rounds does. -/
theorem Carries.shows_of_eq (carries : Carries text round step) (same : round places = places)
    (shows : Shows text places here) (count : Nat) :
    Shows text places (Reached (Rounds step count) here) := by
  induction count generalizing here with
  | zero => exact shows.congr fun _ _ => reached_zero_iff.symm
  | succ count ih =>
    have next : Shows text places (Reached step here) := same ▸ carries shows
    exact (ih next).congr fun _ _ => reached_succ_iff.symm

theorem Carries.exactly (carries : Carries text round step) (count : Nat) :
    Carries text (exactly round count) (Rounds step count) := by
  induction count with
  | zero => exact fun _ _ shows => shows.congr fun _ _ => reached_zero_iff.symm
  | succ count ih =>
    intro places here shows
    rw [Places.exactly]
    split
    · next same => exact carries.shows_of_eq same shows (count + 1)
    · exact (ih (carries shows)).congr fun _ _ => reached_succ_iff.symm

theorem atMost_eq_exactly (round : Places → Places) (most : Nat) :
    atMost round most = exactly (fun places => places ||| round places) most := by
  induction most with
  | zero => rfl
  | succ most ih =>
    funext places
    rw [atMost, exactly, ih]

theorem Carries.atMost (carries : Carries text round step) (most : Nat) :
    Carries text (atMost round most)
      fun start stop => ∃ count ≤ most, Rounds step count start stop := by
  rw [atMost_eq_exactly]
  exact ((carries_id.or carries).exactly most).congr fun _ _ _ => Rounds.or_eq_iff

end Places

namespace Pattern

open Places

variable {text : List Char}

theorem carries_text (characters : List Char) :
    Carries text
      (characters.foldr (fun c rest => Route.both (readRoute text c) rest) .stay).ends
      (Cut.Reads characters) := by
  induction characters with
  | nil => exact carries_id.congr fun _ _ _ => Cut.reads_nil_iff.symm
  | cons c rest ih =>
    refine ((carries_read (· == c)).comp ih).congr fun start stop _ => ?_
    rw [← List.singleton_append, Cut.reads_append]
    simp only [beq_iff_eq, exists_eq_left]

/-- The numbers of further rounds of a route are enough for all numbers of times. -/
theorem carries_rounds {inner : Route} {round : Cut → Cut → Prop}
    (carries : Carries text inner.ends round)
    (onwards : ∀ start stop, round start stop → start.UpTo stop) (times : Times) :
    Carries text
      (Route.rounds inner times.least
        (times.most.elim (surroundings text).length (· - times.least))).ends
      (AllowedRounds times round) := by
  refine ((carries.exactly times.least).comp (carries.atMost _)).congr fun start stop text_eq => ?_
  obtain ⟨least, most, ordered⟩ := times
  constructor
  · rintro ⟨middle, first, further, bounded, rest⟩
    refine ⟨least + further, ⟨Nat.le_add_right _ _, ?_⟩, Rounds.add_iff.mpr ⟨middle, first, rest⟩⟩
    rintro most rfl
    have : least ≤ most := by simpa using ordered
    simp only [Option.elim_some] at bounded
    omega
  · rintro ⟨count, ⟨enough, bounded⟩, rounds⟩
    obtain ⟨further, rfl⟩ := Nat.exists_eq_add_of_le enough
    obtain ⟨middle, first, rest⟩ := Rounds.add_iff.mp rounds
    refine ⟨middle, first, ?_⟩
    cases most with
    | some most =>
      have : least + further ≤ most := bounded most rfl
      exact ⟨further, by simp only [Option.elim_some]; omega, rest⟩
    | none =>
      -- The rest may have more rounds than the route makes, but fewer do as well.
      obtain ⟨fewer, number_le, rest⟩ := rest.exists_le onwards
      have : stop.number ≤ text.length := text_eq ▸ stop.number_le
      refine ⟨fewer, ?_, rest⟩
      simp only [Option.elim_none, length_surroundings]
      omega

mutual

theorem route_carries : ∀ pattern : Pattern,
    Carries text (pattern.route text (surroundings text)).ends pattern.Matches
  | .empty => carries_id
  | .text characters => carries_text characters
  | .set characters _ => carries_read characters.contains
  | .look condition => carries_only condition.holds
  | .sequence parts => routeOfAll_carries parts
  | .choice branches => routeOfAny_carries branches
  | .repeated inner times _ => carries_rounds (route_carries inner) (fun _ _ => Matches.upTo) times
  | .group _ inner => route_carries inner

theorem routeOfAll_carries : ∀ parts : List Pattern,
    Carries text (routeOfAll text (surroundings text) parts).ends (MatchInOrder parts)
  | [] => carries_id
  | part :: rest => (route_carries part).comp (routeOfAll_carries rest)

theorem routeOfAny_carries : ∀ branches : List Pattern,
    Carries text (routeOfAny text (surroundings text) branches).ends (OneMatches branches)
  | [] => carries_nowhere
  | branch :: rest => (route_carries branch).or (routeOfAny_carries rest)

end

/-- All places of a text. -/
theorem shows_everywhere (text : List Char) :
    Shows text (wherever (fun _ => true) (surroundings text)) fun _ => True := by
  intro n
  rw [testBit_wherever]
  constructor
  · intro bit
    have bounded : n < (surroundings text).length := by
      by_contra beyond
      simp [List.getElem?_eq_none (Nat.le_of_not_lt beyond)] at bit
    rw [length_surroundings] at bounded
    exact ⟨⟨(text.take n).reverse, text.drop n⟩, by simp [Cut.text],
      by simp [Cut.number, Nat.le_of_lt_succ bounded], trivial⟩
  · rintro ⟨cut, text_eq, rfl, _⟩
    rw [getElem?_surroundings text_eq]
    rfl

/-- A pattern occurs in a text exactly if it matches between two places of the text. -/
theorem occursIn_iff_matches (pattern : Pattern) (text : String) :
    pattern.occursIn text = true ↔
      ∃ start stop : Cut, start.text = text.toList ∧ stop.text = text.toList ∧
        pattern.Matches start stop := by
  have shows := route_carries pattern (shows_everywhere text.toList)
  rw [occursIn, bne_iff_ne]
  constructor
  · intro found
    obtain ⟨n, bit⟩ := Nat.exists_testBit_of_ne_zero found
    obtain ⟨stop, stopText, _, start, _, matched⟩ := (shows n).mp bit
    exact ⟨start, stop, matched.upTo.text_eq.trans stopText, stopText, matched⟩
  · rintro ⟨start, stop, _, stopText, matched⟩ nowhere
    have bit := (shows.testBit_number stopText).mpr ⟨start, trivial, matched⟩
    simp [nowhere] at bit

end Pattern

end LiteralLang
