import LiteralLang.Proofs.Token.Faults

/-!
# Misspelled numbers

What becomes of the run of number characters that the scanner comes to where a number begins.  If an
exponent mark or a sign in it is misplaced, the run is refused up to the first that is, as it stands
in the source.  Otherwise the run is a number if the grammar of numerals allows it, and if not, it
is refused as a whole, in lower case.
-/

namespace LiteralLang

open Lexeme (BeginsNumber isNumberPart isExponentMark isSign isMisplaced misplaced?)
open Scan (Reads GoesOn)

/-- At the offset the text has an exponent mark without a sign or a digit behind it, or a sign that
does not stand between an exponent mark and a digit. -/
inductive MisplacedAt : (text : List Char) → (offset : Nat) → Prop
  | mark {front c behind} : isExponentMark c = true →
      behind.head?.any (fun d => isSign d || d.isDigit) = false →
      MisplacedAt (front ++ c :: behind) front.length
  | sign {front c behind} : isSign c = true →
      front.getLast?.any isExponentMark = false ∨ behind.head?.any Char.isDigit = false →
      MisplacedAt (front ++ c :: behind) front.length

/-- The offset is the first one from `start` on, and in front of `stop`, where a character of the
text is misplaced. -/
structure FirstMisplaced (text : List Char) (start stop offset : Nat) : Prop where
  inside : start ≤ offset ∧ offset < stop
  misplaced : MisplacedAt text offset
  earlier : ∀ i, start ≤ i → i < offset → ¬ MisplacedAt text i

/-- The scanner of the source comes to a number at the offset, behind the tokens found before: all
of the characters from there on that can be part of a number are the run. -/
structure NumberAt (source : String) (tokens : List Token) (offset : Nat)
    (run behind : List Char) : Prop where
  accepted : Reads 0 source.toList tokens offset (run ++ behind)
  begins : BeginsNumber (run ++ behind)
  inside : ∀ c ∈ run, isNumberPart c = true
  maximal : behind.head?.any isNumberPart = false

variable {front run behind word : List Char} {c : Char} {source : String} {tokens : List Token}
  {offset : Nat} {fault : CompileError}

/-! ### Misplaced characters -/

theorem misplacedAt_iff : MisplacedAt (front ++ c :: behind) front.length ↔
    isMisplaced front.getLast? c behind.head? = true := by
  rw [isMisplaced, Bool.or_eq_true, Bool.and_eq_true, Bool.and_eq_true, Bool.not_eq_true',
    Bool.not_eq_true', Bool.and_eq_false_iff]
  constructor
  · intro misplaced
    generalize whole : front ++ c :: behind = text at misplaced
    generalize place : front.length = offset at misplaced
    cases misplaced with
    | mark isMark follows =>
      obtain ⟨rfl, same⟩ := List.append_inj whole place
      obtain ⟨rfl, rfl⟩ := List.cons.inj same
      exact Or.inl ⟨isMark, follows⟩
    | sign isSign apart =>
      obtain ⟨rfl, same⟩ := List.append_inj whole place
      obtain ⟨rfl, rfl⟩ := List.cons.inj same
      exact Or.inr ⟨isSign, apart⟩
  · rintro (⟨isMark, follows⟩ | ⟨isSign, apart⟩)
    · exact .mark isMark follows
    · exact .sign isSign apart

/-- A character behind the run is as good as none: it is neither a sign nor a digit. -/
theorem isMisplaced_behind {previous : Option Char} {next : Option Char}
    (maximal : next.any isNumberPart = false) :
    isMisplaced previous c next = isMisplaced previous c none := by
  cases next with
  | none => rfl
  | some d =>
    simp only [Option.any_some, isNumberPart, Bool.or_eq_false_iff] at maximal
    obtain ⟨⟨⟨noDigit, -⟩, -⟩, noSign⟩ := maximal
    simp [isMisplaced, noDigit, noSign]

/-- The scanner looks no further than the run. -/
theorem isMisplaced_head? {previous : Option Char}
    (maximal : behind.head?.any isNumberPart = false) :
    isMisplaced previous c (run ++ behind).head? = isMisplaced previous c run.head? := by
  cases run with
  | nil => exact isMisplaced_behind maximal
  | cons d run => rfl

/-- In the run the same characters are misplaced as in the whole text. -/
theorem isMisplaced_run (maximal : behind.head?.any isNumberPart = false) :
    isMisplaced front.getLast? c run.head? = true ↔
      MisplacedAt (front ++ c :: (run ++ behind)) front.length := by
  rw [misplacedAt_iff, isMisplaced_head? maximal]

theorem FirstMisplaced.unique {text : List Char} {start stop other : Nat}
    (first : FirstMisplaced text start stop offset)
    (second : FirstMisplaced text start stop other) :
    offset = other := by
  rcases Nat.lt_trichotomy offset other with before | same | behind
  · exact absurd first.misplaced (second.earlier offset first.inside.1 before)
  · exact same
  · exact absurd second.misplaced (first.earlier other second.inside.1 behind)

theorem FirstMisplaced.of_succ {text : List Char} {start stop : Nat}
    (later : FirstMisplaced text (start + 1) stop offset) (placed : ¬ MisplacedAt text start) :
    FirstMisplaced text start stop offset := by
  obtain ⟨⟨above, below⟩, misplaced, earlier⟩ := later
  refine ⟨⟨Nat.le_of_succ_le above, below⟩, misplaced, ?_⟩
  intro i reached before
  rcases Nat.eq_or_lt_of_le reached with rfl | further
  · exact placed
  · exact earlier i further before

/-- The part of a run that is refused ends with the first misplaced character. -/
theorem exists_firstMisplaced (maximal : behind.head?.any isNumberPart = false)
    (found : misplaced? front.getLast? run = some word) :
    ∃ offset, FirstMisplaced (front ++ (run ++ behind)) front.length (front.length + run.length)
      offset ∧ word = run.take (offset + 1 - front.length) := by
  induction run generalizing front word with
  | nil => simp [misplaced?] at found
  | cons c run ih =>
    rw [misplaced?] at found
    split at found
    case isTrue misplaced =>
      obtain rfl := Option.some.inj found
      refine ⟨front.length, ⟨⟨by omega, by simp⟩, (isMisplaced_run maximal).mp misplaced, ?_⟩,
        by simp⟩
      intro i above below
      omega
    case isFalse placed =>
      obtain ⟨later, foundLater, rfl⟩ := Option.map_eq_some_iff.mp found
      rw [isMisplaced_run maximal] at placed
      have last : (front ++ [c]).getLast? = some c := List.getLast?_concat
      rw [← last] at foundLater
      obtain ⟨offset, first, rfl⟩ := ih foundLater
      rw [List.append_assoc, List.singleton_append, List.length_append, List.length_singleton,
        Nat.add_assoc, Nat.add_comm 1] at first
      have above := first.inside.1
      refine ⟨offset, first.of_succ placed, ?_⟩
      rw [List.length_append, List.length_singleton, Nat.add_sub_add_right,
        Nat.succ_sub (by omega), List.take_succ_cons]

/-- A run of which nothing is refused has no misplaced character. -/
theorem not_misplacedAt_of_none (maximal : behind.head?.any isNumberPart = false)
    (sound : misplaced? front.getLast? run = none) :
    ∀ i, front.length ≤ i → i < front.length + run.length →
      ¬ MisplacedAt (front ++ (run ++ behind)) i := by
  induction run generalizing front with
  | nil =>
    intro i above below
    simp at below
    omega
  | cons c run ih =>
    rw [misplaced?] at sound
    split at sound
    case isTrue => simp at sound
    case isFalse placed =>
      rw [isMisplaced_run maximal] at placed
      have last : (front ++ [c]).getLast? = some c := List.getLast?_concat
      rw [Option.map_eq_none_iff, ← last] at sound
      intro i above below
      rcases Nat.eq_or_lt_of_le above with rfl | further
      · exact placed
      · have later := ih sound i
        rw [List.length_append, List.length_singleton, List.append_assoc] at later
        rw [List.length_cons] at below
        exact later further (by omega)

/-! ### Runs of the scanner -/

namespace NumberAt

variable (number : NumberAt source tokens offset run behind)
include number

theorem exists_front :
    ∃ front, source.toList = front ++ (run ++ behind) ∧ offset = front.length := by
  obtain ⟨front, whole, place⟩ := number.accepted.exists_front
  rw [Nat.zero_add] at place
  exact ⟨front, whole, place⟩

theorem exists_cons : ∃ c part, run = c :: part ∧ BeginsNumber (c :: (part ++ behind)) := by
  have begins := number.begins
  cases run with
  | cons c part => exact ⟨c, part, rfl, begins⟩
  | nil =>
    -- the first character of a number can be part of one
    have maximal := number.maximal
    cases behind with
    | nil => cases begins
    | cons c behind =>
      rw [List.head?_cons, Option.any_some] at maximal
      rcases BeginsNumber.plain begins with digit | rfl
      · rw [Lexeme.isNumberPart_of_isDigit digit] at maximal
        contradiction
      · contradiction

/-- The scanner stops with the fault of the run, if there is one. -/
theorem tokenize_eq_error (refused : Lexeme.number run = .error fault) :
    tokenize source = .error fault := by
  obtain ⟨c, part, rfl, begins⟩ := number.exists_cons
  have inside : ∀ d ∈ part, isNumberPart d = true := by
    intro d member
    exact number.inside d (List.mem_cons_of_mem c member)
  have stops : lexeme offset c (part ++ behind) = .error fault := by
    rw [begins.lexeme_eq, Lexeme.ofNumber, Text.takeWhile_append_eq inside number.maximal, refused]
  exact Scan.tokenize_eq_error_iff.mpr
    ⟨tokens, offset, c, part ++ behind, number.accepted, begins.not_isSpace, stops⟩

/-- The scanner goes on behind the run, if it is a numeral. -/
theorem goesOn {d : Decimal} (numeral : Numeral run d) :
    GoesOn source (tokens ++ [⟨String.ofList (run.map Char.toLower), some (.number d.nearest),
      offset⟩]) (offset + run.length) behind :=
  (number.accepted.append (Reads.single (.number numeral number.maximal))).goesOn

/-- What stands in front of the run does not matter to its first character. -/
theorem misplaced?_eq (previous : Option Char) : misplaced? none run = misplaced? previous run := by
  obtain ⟨c, part, rfl, begins⟩ := number.exists_cons
  rw [misplaced?, misplaced?, Lexeme.isMisplaced_of_plain begins.plain,
    Lexeme.isMisplaced_of_plain begins.plain]

/-- The scanner refuses the run up to its first misplaced character. -/
theorem tokenize_of_firstMisplaced {place : Nat}
    (first : FirstMisplaced source.toList offset (offset + run.length) place) :
    tokenize source = .error
      (.invalidNumber (String.ofList ((source.toList.drop offset).take (place + 1 - offset)))) := by
  have below := first.inside.2
  rw [number.accepted.drop_eq, List.take_append_of_le_length (by omega)]
  obtain ⟨front, whole, rfl⟩ := number.exists_front
  rw [whole] at first
  apply number.tokenize_eq_error
  rw [Lexeme.number, number.misplaced?_eq front.getLast?]
  cases found : misplaced? front.getLast? run with
  | none =>
    have placed := not_misplacedAt_of_none number.maximal found
    exact absurd first.misplaced (placed place first.inside.1 below)
  | some word =>
    obtain ⟨other, second, rfl⟩ := exists_firstMisplaced number.maximal found
    rw [first.unique second]

/-- A run without a misplaced character is refused as a whole, if it is no numeral. -/
theorem tokenize_of_not_numeral
    (placed : ∀ i, offset ≤ i → i < offset + run.length → ¬ MisplacedAt source.toList i)
    (noNumeral : ∀ d, ¬ Numeral run d) :
    tokenize source = .error (.numberFormat (String.ofList (run.map Char.toLower))) := by
  obtain ⟨front, whole, rfl⟩ := number.exists_front
  rw [whole] at placed
  apply number.tokenize_eq_error
  rw [Lexeme.number, number.misplaced?_eq front.getLast?]
  cases found : misplaced? front.getLast? run with
  | some word =>
    obtain ⟨place, first, -⟩ := exists_firstMisplaced number.maximal found
    exact absurd first.misplaced (placed place first.inside.1 first.inside.2)
  | none =>
    cases spelled : Decimal.ofText? (run.map Char.toLower) with
    | some d => exact absurd (numeral_of_ofText? spelled) (noNumeral d)
    | none => simp only [spelled]

end NumberAt

/-- Where the scanner comes to a number, the number characters from there on decide.  If one of them
is misplaced, the source is refused with the text up to the first that is.  Otherwise, if they are a
numeral, its token is found and the scanner goes on right behind them, and if not, the source is
refused with all of them in lower case.  A fault of a number comes from no other place. -/
theorem tokenize_at_number (source : String) :
    (∀ (tokens : List Token) (offset : Nat) (run behind : List Char),
      NumberAt source tokens offset run behind →
      (∀ place, FirstMisplaced source.toList offset (offset + run.length) place →
        tokenize source = .error (.invalidNumber
          (String.ofList ((source.toList.drop offset).take (place + 1 - offset))))) ∧
      ((∀ i, offset ≤ i → i < offset + run.length → ¬ MisplacedAt source.toList i) →
        (∀ d, Numeral run d →
          GoesOn source (tokens ++ [⟨String.ofList (run.map Char.toLower),
            some (.number d.nearest), offset⟩]) (offset + run.length) behind) ∧
        ((∀ d, ¬ Numeral run d) →
          tokenize source = .error (.numberFormat (String.ofList (run.map Char.toLower)))))) ∧
    ∀ fault, tokenize source = .error fault → fault.OfNumber →
      ∃ tokens offset run behind, NumberAt source tokens offset run behind := by
  constructor
  · intro tokens offset run behind number
    refine ⟨fun place first => number.tokenize_of_firstMisplaced first, ?_⟩
    intro placed
    exact ⟨fun d numeral => number.goesOn numeral, number.tokenize_of_not_numeral placed⟩
  · intro fault refused kind
    obtain ⟨tokens, offset, rest, accepted, begins⟩ :=
      exists_beginsNumber_of_tokenize refused kind
    have parts : rest.takeWhile isNumberPart ++ rest.dropWhile isNumberPart = rest :=
      List.takeWhile_append_dropWhile
    refine ⟨tokens, offset, rest.takeWhile isNumberPart, rest.dropWhile isNumberPart,
      ?_, ?_, ?_, ?_⟩
    · rwa [parts]
    · rwa [parts]
    · intro c member
      exact List.mem_takeWhile_imp member
    · exact Text.head?_dropWhile_any isNumberPart rest

/-- A sign behind the exponent is the first fault of one number, and a second exponent mark, which
is not misplaced, makes all of another one a fault. -/
theorem tokenize_at_number_sign_and_second_mark :
    (FirstMisplaced "[1E5-3,".toList 1 6 4 ∧
      tokenize "[1E5-3," = .error (.invalidNumber "1E5-")) ∧
    tokenize "1E5E5" = .error (.numberFormat "1e5e5") := by
  constructor
  · have opening : Reads 0 "[1E5-3,".toList [⟨"[", none, 0⟩] 1 "1E5-3,".toList :=
      Reads.single (.punctuation (Or.inl rfl))
    have number : NumberAt "[1E5-3," [⟨"[", none, 0⟩] 1 "1E5-3".toList [','] :=
      ⟨opening, .digit rfl, List.all_eq_true.mp rfl, rfl⟩
    have sign : MisplacedAt "[1E5-3,".toList 4 :=
      @MisplacedAt.sign "[1E5".toList '-' "3,".toList rfl (Or.inl rfl)
    have first : FirstMisplaced "[1E5-3,".toList 1 6 4 := by
      refine ⟨by decide, sign, ?_⟩
      intro i above below
      have inFront : i = 1 ∨ i = 2 ∨ i = 3 := by omega
      rcases inFront with rfl | rfl | rfl
      · exact (@misplacedAt_iff "[".toList "E5-3,".toList '1').not.mpr (by decide)
      · exact (@misplacedAt_iff "[1".toList "5-3,".toList 'E').not.mpr (by decide)
      · exact (@misplacedAt_iff "[1E".toList "-3,".toList '5').not.mpr (by decide)
    exact ⟨first, ((tokenize_at_number "[1E5-3,").1 _ _ _ _ number).1 4 first⟩
  · have number : NumberAt "1E5E5" [] 0 "1E5E5".toList [] :=
      ⟨.done, .digit rfl, List.all_eq_true.mp rfl, rfl⟩
    have placed := @not_misplacedAt_of_none [] "1E5E5".toList [] rfl rfl
    refine (((tokenize_at_number "1E5E5").1 _ _ _ _ number).2 placed).2 ?_
    intro d numeral
    have spelled : Decimal.ofText? ("1E5E5".toList.map Char.toLower) = some d := numeral.read
    rw [show Decimal.ofText? ("1E5E5".toList.map Char.toLower) = none by decide +kernel] at spelled
    contradiction

end LiteralLang
