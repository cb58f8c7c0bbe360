import LiteralLang.Proofs.Token.Cursor.Moves

/-!
# Indices in range

The invariant of all states that the scan of a source comes to: the index lies in the source and
fits what the cursor is in the middle of.  So every step has a result, and the index is further on
each time the cursor is back between two lexemes.
-/

namespace LiteralLang.Cursor

variable {chars : List Char} {index index' first offset : Nat} {task task' : Task}
  {state later : Cursor} {opened : OpenString}

/-! ### The invariant -/

/-- Where the lexeme begins that the cursor is in the middle of, or the index, if it is in none. -/
def Task.begin (index : Nat) : Task → Nat
  | .between => index
  | .number start _ | .word start _ => start
  | .string opened _ | .escape opened | .unicode opened | .behindHigh opened _ _
  | .secondUnicode opened _ _ => opened.start

/-- The index fits what the cursor is in the middle of. -/
def Fits (chars : List Char) (index : Nat) : Task → Prop
  | .between => True
  | .number start _ => start ≤ index ∧ chars[start]?.filter Lexeme.isNumberPart ≠ none
  | .word start _ => start ≤ index ∧ chars[start]?.filter Lexeme.isWordPart ≠ none
  | .string opened _ | .escape opened => opened.start < index
  | .unicode opened => opened.start < index ∧ chars[index]? = some 'u'
  | .behindHigh opened _ high => opened.start < index ∧ Text.isHighSurrogate high = true
  | .secondUnicode opened _ high =>
      opened.start < index ∧ chars[index]? = some 'u' ∧ Text.isHighSurrogate high = true

structure Sound (chars : List Char) (index : Nat) (task : Task) : Prop where
  index_le : index ≤ chars.length
  fits : Fits chars index task

theorem lt_of_current {c : Char} (current : chars[index]? = some c) : index < chars.length :=
  (List.getElem?_eq_some_iff.mp current).1

theorem filter_ne_none {p : Char → Bool} {c : Char} (current : chars[index]? = some c)
    (part : p c = true) : chars[index]?.filter p ≠ none := by
  rw [current, Option.filter_some_pos part]
  exact Option.some_ne_none c

/-- A lexeme ends behind its first character. -/
theorem lt_of_filter_eq_none {p : Char → Bool} (above : first ≤ index)
    (begins : chars[first]?.filter p ≠ none) (stops : chars[index]?.filter p = none) :
    first < index := by
  apply Nat.lt_of_le_of_ne above
  rintro rfl
  exact begins stops

theorem Sound.of_moves (sound : Sound chars index task)
    (moves : Moves chars index task index' task') : Sound chars index' task' := by
  obtain ⟨index_le, fits⟩ := sound
  cases moves with
  | passed inText => exact ⟨inText, trivial⟩
  | number current part | word current part =>
    exact ⟨index_le, Nat.le_refl index, filter_ne_none current part⟩
  | quote current => exact ⟨lt_of_current current, Nat.lt_add_one index⟩
  | numberPart current | wordPart current =>
    exact ⟨lt_of_current current, Nat.le_succ_of_le fits.1, fits.2⟩
  | numberEnd | wordEnd => exact ⟨index_le, trivial⟩
  | stringEnd current => exact ⟨lt_of_current current, trivial⟩
  | backslash current | raw current | letter current =>
    exact ⟨lt_of_current current, Nat.lt_succ_of_lt fits⟩
  | unicode current => exact ⟨index_le, fits, current⟩
  | unit inText | pair inText => exact ⟨inText, Nat.lt_add_right 5 fits.1⟩
  | high inText isHigh => exact ⟨inText, Nat.lt_add_right 5 fits.1, isHigh⟩
  | alone => exact ⟨index_le, fits.1⟩
  | second backslash current =>
    exact ⟨lt_of_current backslash, Nat.lt_succ_of_lt fits.1, current, fits.2⟩

theorem Sound.of_reached (reached : Reached chars state) :
    Sound chars state.index state.task := by
  induction reached with
  | refl => exact ⟨Nat.zero_le _, trivial⟩
  | tail _ next ih => exact ih.of_moves (moves_of_next next)

/-! ### Progress -/

/-- No move goes back behind the begin of a lexeme, and the end of one is behind it. -/
theorem Sound.begin_of_moves (sound : Sound chars index task)
    (moves : Moves chars index task index' task') :
    task.begin index ≤ task'.begin index' ∧ (task' = .between → task.begin index < index') := by
  have fits := sound.fits
  cases moves with
  | passed => exact ⟨Nat.le_succ index, fun _ => Nat.lt_add_one index⟩
  | numberEnd stops | wordEnd stops =>
    have further := lt_of_filter_eq_none fits.1 fits.2 stops
    exact ⟨Nat.le_of_lt further, fun _ => further⟩
  | stringEnd =>
    exact ⟨Nat.le_succ_of_le (Nat.le_of_lt fits), fun _ => Nat.lt_succ_of_lt fits⟩
  -- all other moves stay in a lexeme, or begin one where they are
  | _ => exact ⟨Nat.le_refl _, nofun⟩

theorem begin_of_run (reached : Reached chars state)
    (run : Relation.TransGen (Next chars) state later) :
    state.task.begin state.index ≤ later.task.begin later.index ∧
      (later.task = .between → state.task.begin state.index < later.index) := by
  induction run with
  | single next => exact (Sound.of_reached reached).begin_of_moves (moves_of_next next)
  | tail run next ih =>
    have between := Sound.of_reached (reached.trans run.to_reflTransGen)
    obtain ⟨onward, further⟩ := between.begin_of_moves (moves_of_next next)
    exact ⟨ih.1.trans onward, fun ends => Nat.lt_of_le_of_lt ih.1 (further ends)⟩

/-! ### Steps -/

theorem defined_named (state : Cursor) (opened : OpenString) (character : Option Char)
    (offset : Nat) (shown : List Char) :
    Defined (named state opened character offset shown) := by
  cases character with
  | none => exact .throw _
  | some c => exact .pure _

/-- A high and a low surrogate always stand for a character. -/
theorem pair_in_range {high low : Nat} (isHigh : Text.isHighSurrogate high = true)
    (isLow : Text.isLowSurrogate low = true) :
    0xD800 ≤ high ∧ 0xDC00 ≤ low ∧
      ∃ code c, combined high low = pure code ∧ character? code = some c := by
  rw [Text.isHighSurrogate_iff] at isHigh
  rw [Text.isLowSurrogate_iff] at isLow
  exact ⟨isHigh.1, isLow.1, _, _, combined_eq isHigh.1 isLow.1, character?_combined isHigh isLow⟩

section

variable {found : List Token} {events : List LogEvent}

theorem defined_between : Defined (step chars ⟨index, found, events, .between⟩) := by
  unfold step betweenStep
  dsimp only
  split
  · exact .pure _
  · exact .ite (.pure _)
      (.ite (.pure _) (.ite (.pure _) (.ite (.pure _) (.ite (.pure _) (.throw _)))))

theorem defined_number {start : Nat} {text : List Char} (above : start ≤ index) :
    Defined (step chars ⟨index, found, events, .number start text⟩) := by
  simp only [step, numberStep]
  split
  case h_1 =>
    unfold endOfNumber
    split
    · exact .pure _
    · exact .throw _
  case h_2 c current =>
    have inText := lt_of_current (Option.filter_eq_some_iff.mp current).1
    refine .ite (.bind (defined_slice ?_ ?_) (fun _ _ => .throw _)) (.pure _)
    · dsimp only
      omega
    · dsimp only
      omega

theorem defined_word {start : Nat} {text : List Char} :
    Defined (step chars ⟨index, found, events, .word start text⟩) := by
  simp only [step, wordStep]
  split <;> exact .pure _

theorem defined_string {atOther : Bool} :
    Defined (step chars ⟨index, found, events, .string opened atOther⟩) := by
  simp only [step, stringStep]
  split
  · exact .throw _
  · exact .ite (.pure _) (.ite (.pure _) (.pure _))

theorem defined_escape : Defined (step chars ⟨index, found, events, .escape opened⟩) := by
  simp only [step, escapeStep]
  split
  · exact .throw _
  · exact .ite (.pure _) (.pure _)

theorem defined_unicode (behind : opened.start < index) (current : chars[index]? = some 'u') :
    Defined (step chars ⟨index, found, events, .unicode opened⟩) := by
  refine .bind (defined_difference (Nat.lt_of_le_of_lt (Nat.zero_le _) behind)) ?_
  intro offset _
  refine .bind (defined_readUnit (lt_of_current current)) ?_
  intro read _
  exact .ite (.pure _) (defined_named _ _ _ _ _)

theorem defined_behindHigh {high : Nat} :
    Defined (step chars ⟨index, found, events, .behindHigh opened offset high⟩) :=
  .ite (.pure _) (defined_named _ _ _ _ _)

theorem defined_secondUnicode {high : Nat} (behind : opened.start < index)
    (current : chars[index]? = some 'u') (isHigh : Text.isHighSurrogate high = true) :
    Defined (step chars ⟨index, found, events, .secondUnicode opened offset high⟩) := by
  refine .bind (defined_difference (Nat.lt_of_le_of_lt (Nat.zero_le _) behind)) ?_
  intro secondOffset _
  refine .bind (defined_readUnit (lt_of_current current)) ?_
  rintro ⟨low, after⟩ _
  dsimp only
  split
  case isTrue isLow =>
    obtain ⟨-, -, code, c, joined, -⟩ := pair_in_range isHigh isLow
    rw [joined]
    exact defined_named _ _ _ _ _
  case isFalse => exact .throw _

end

/-- The step from a sound state has a result. -/
theorem Sound.defined_step (sound : Sound chars state.index state.task) :
    Defined (step chars state) := by
  obtain ⟨index, found, events, task⟩ := state
  have fits := sound.fits
  cases task with
  | between => exact defined_between
  | number start text => exact defined_number fits.1
  | word start text => exact defined_word
  | string opened atOther => exact defined_string
  | escape opened => exact defined_escape
  | unicode opened => exact defined_unicode fits.1 fits.2
  | behindHigh opened offset high => exact defined_behindHigh
  | secondUnicode opened offset high => exact defined_secondUnicode fits.1 fits.2.1 fits.2.2

/-! ### The whole scan -/

/-- The digits of a unicode escape are read next. -/
def Task.ReadsDigits : Task → Prop
  | .unicode _ | .secondUnicode _ _ _ => True
  | _ => False

/-- All indices that matter in the state are in range. -/
structure InRange (chars : List Char) (state : Cursor) : Prop where
  index_le : state.index ≤ chars.length
  step_defined : Defined (step chars state)
  /-- What is shown of a number with a misplaced character at the index. -/
  number : ∀ start text, state.task = .number start text → state.index < chars.length →
    start < min (state.index + 1) chars.length ∧
      min (state.index + 1) chars.length ≤ chars.length
  /-- The backslash of an escape, its digits, and what is behind them. -/
  digits : state.task.ReadsDigits →
    1 ≤ state.index ∧
      (state.index + 1 ≤ min (state.index + 1 + 4) chars.length ∧
        min (state.index + 1 + 4) chars.length ≤ chars.length) ∧
      ∀ offset unit behind,
        (readUnit chars state.index offset).run = some (.ok (unit, behind)) →
          behind ≤ chars.length
  /-- A low surrogate that is read next. -/
  pair : ∀ opened offset high low, state.task = .secondUnicode opened offset high →
    Text.isLowSurrogate low = true →
      0xD800 ≤ high ∧ 0xDC00 ≤ low ∧
        ∃ code c, combined high low = pure code ∧ character? code = some c

theorem Sound.readsDigits (sound : Sound chars index task) (reads : task.ReadsDigits) :
    1 ≤ index ∧ index < chars.length := by
  have fits := sound.fits
  cases task with
  | unicode opened => exact ⟨Nat.one_le_of_lt fits.1, lt_of_current fits.2⟩
  | secondUnicode opened offset high => exact ⟨Nat.one_le_of_lt fits.1, lt_of_current fits.2.1⟩
  | _ => exact absurd reads id

theorem Sound.inRange (sound : Sound chars state.index state.task) : InRange chars state where
  index_le := sound.index_le
  step_defined := sound.defined_step
  number := by
    intro start text inside inText
    have fits := sound.fits
    rw [inside] at fits
    have above : start ≤ state.index := fits.1
    omega
  digits := by
    intro reads
    obtain ⟨positive, inText⟩ := sound.readsDigits reads
    exact ⟨positive, by omega, fun _ _ _ read => (readUnit_eq_ok read).2⟩
  pair := by
    intro opened offset high low inside isLow
    have fits := sound.fits
    rw [inside] at fits
    exact pair_in_range fits.2.2 isLow

/-- In every state that the scan of a source comes to all indices are in range, and each time it is
back between two lexemes the index is further on.  Digits always name a unit.  So the steps come to
an end without a panic, which is the tokens of the source or its fault. -/
theorem tokenize_in_range (source : String) :
    (∀ state, Reached source.toList state →
      InRange source.toList state ∧
        ∀ later, Relation.TransGen (Next source.toList) state later →
          state.task = .between → later.task = .between → state.index < later.index) ∧
    (∀ digits, IsDigits digits → ∃ unit, Text.hexUnit? digits = some unit) ∧
    ∃ events, ∀ logged,
      Ends source.toList .start logged ↔ logged = ⟨events, tokenize source⟩ := by
  refine ⟨?_, fun digits => exists_unit_of_isDigits, ends_iff source⟩
  intro state reached
  refine ⟨(Sound.of_reached reached).inRange, ?_⟩
  intro later run starts ends
  have further := (begin_of_run reached run).2 ends
  rwa [starts] at further

/-- Behind a blank a source is cut off inside the second escape of a pair, whose `u` the cursor has
come to. -/
theorem tokenize_in_range_cut_off :
    (Reached " \"é\\uD83D\\uDE".toList ⟨10, [], [], .secondUnicode ⟨'"', 1, ['é']⟩ 3 0xD83D⟩ ∧
      InRange " \"é\\uD83D\\uDE".toList
        ⟨10, [], [], .secondUnicode ⟨'"', 1, ['é']⟩ 3 0xD83D⟩) ∧
    (Relation.TransGen (Next " \"é\\uD83D\\uDE".toList) .start ⟨1, [], [], .between⟩ ∧ 0 < 1) ∧
    (IsDigits "D83D".toList ∧ ∃ unit, Text.hexUnit? "D83D".toList = some unit) ∧
    ∃ events, Ends " \"é\\uD83D\\uDE".toList .start
      ⟨events, .error (.invalidUnicodeEscape 9 "DE")⟩ := by
  obtain ⟨states, units, events, ends⟩ := tokenize_in_range " \"é\\uD83D\\uDE"
  have refused : tokenize " \"é\\uD83D\\uDE" = .error (.invalidUnicodeEscape 9 "DE") := by
    decide +kernel
  rw [refused] at ends
  have blank : Next " \"é\\uD83D\\uDE".toList .start ⟨1, [], [], .between⟩ := rfl
  have quote : Next " \"é\\uD83D\\uDE".toList ⟨1, [], [], .between⟩
      ⟨2, [], [], .string ⟨'"', 1, []⟩ false⟩ := rfl
  have raw : Next " \"é\\uD83D\\uDE".toList ⟨2, [], [], .string ⟨'"', 1, []⟩ false⟩
      ⟨3, [], [], .string ⟨'"', 1, ['é']⟩ false⟩ := rfl
  have backslash : Next " \"é\\uD83D\\uDE".toList ⟨3, [], [], .string ⟨'"', 1, ['é']⟩ false⟩
      ⟨4, [], [], .escape ⟨'"', 1, ['é']⟩⟩ := rfl
  have high : Next " \"é\\uD83D\\uDE".toList ⟨4, [], [], .unicode ⟨'"', 1, ['é']⟩⟩
      ⟨9, [], [], .behindHigh ⟨'"', 1, ['é']⟩ 3 0xD83D⟩ := by
    have named : Text.hexUnit? ("D83D\\uDE".toList.take 4) = some 0xD83D := by decide
    have read := @readUnit_eq " \"é\\uD83D\\uDE".toList "D83D\\uDE".toList 4 rfl 3
    rw [named] at read
    simp only [Next, step, unicodeStep, difference_succ, pure_bind, read]
    rfl
  have opened := (Relation.ReflTransGen.single blank).tail quote
  have reached := (((((opened.tail raw).tail backslash).tail rfl).tail high).tail rfl)
  exact ⟨⟨reached, (states _ reached).1⟩,
    ⟨.single blank, (states _ .refl).2 _ (.single blank) rfl rfl⟩,
    ⟨by decide, units _ (by decide)⟩, ⟨events, (ends _).mpr rfl⟩⟩

end LiteralLang.Cursor
