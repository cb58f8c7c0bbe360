import LiteralLang.Proofs.Token.Cursor.Scan

/-!
# Moves of the cursor

A step has a result if no piece that it takes lies outside of the characters and it subtracts
nothing from a smaller number.  `Moves` says what it then does to the index and to what the cursor
is in the middle of.
-/

namespace LiteralLang.Cursor

variable {α β : Type} {chars digits piece : List Char} {index first behind offset unit : Nat}
  {state later : Cursor} {value : β} {opened : OpenString}

/-! ### Results of checked computations -/

/-- No index is out of range: there is a value or a fault. -/
def Defined (checked : Checked α) : Prop := ∃ result, checked.run = some result

theorem Defined.pure (value : α) : Defined (pure value : Checked α) := ⟨.ok value, rfl⟩

theorem Defined.throw (fault : CompileError) : Defined (throw fault : Checked α) :=
  ⟨.error fault, rfl⟩

theorem run_bind_eq_ok {checked : Checked α} {next : α → Checked β} :
    (checked >>= next).run = some (.ok value) ↔
      ∃ between, checked.run = some (.ok between) ∧ (next between).run = some (.ok value) := by
  rw [ExceptT.run_bind]
  constructor
  · intro both
    obtain ⟨result, first, second⟩ := Option.bind_eq_some_iff.mp both
    cases result with
    | error fault => exact absurd second (by simp)
    | ok between => exact ⟨between, first, second⟩
  · rintro ⟨between, first, second⟩
    exact Option.bind_eq_some_iff.mpr ⟨.ok between, first, second⟩

theorem Defined.bind {checked : Checked α} {next : α → Checked β} (first : Defined checked)
    (second : ∀ between, checked.run = some (.ok between) → Defined (next between)) :
    Defined (checked >>= next) := by
  obtain ⟨result, run⟩ := first
  rw [Defined, ExceptT.run_bind, run]
  cases result with
  | error fault => exact ⟨.error fault, rfl⟩
  | ok between => exact second between run

theorem Defined.ite {p : Prop} [Decidable p] {yes no : Checked α} (first : Defined yes)
    (second : Defined no) : Defined (if p then yes else no) := by
  split
  · exact first
  · exact second

theorem not_run_throw (fault : CompileError) (value : α) :
    (throw fault : Checked α).run ≠ some (.ok value) := by
  simp

theorem run_return {outcome other : Outcome} :
    (return outcome : Checked Outcome).run = some (.ok other) ↔ outcome = other := by
  simp

theorem slice_eq_ok (read : (slice chars first behind).run = some (.ok piece)) :
    first ≤ behind ∧ behind ≤ chars.length ∧ piece.length = behind - first := by
  rw [slice] at read
  split at read
  case isTrue inside =>
    have same : (chars.take behind).drop first = piece := by simpa using read
    rw [← same, List.length_drop, List.length_take, Nat.min_eq_left inside.2]
    exact ⟨inside.1, inside.2, rfl⟩
  case isFalse => contradiction

theorem difference_eq_ok {a b d : Nat} (read : (difference a b).run = some (.ok d)) :
    b ≤ a ∧ d = a - b := by
  rw [difference] at read
  split at read
  case isTrue inside => exact ⟨inside, by simpa using read.symm⟩
  case isFalse => contradiction

theorem defined_slice (ordered : first ≤ behind) (inside : behind ≤ chars.length) :
    Defined (slice chars first behind) := by
  rw [slice, if_pos ⟨ordered, inside⟩]
  exact .pure _

theorem defined_difference {a b : Nat} (ordered : b ≤ a) : Defined (difference a b) := by
  rw [difference, if_pos ordered]
  exact .pure _

/-! ### Units -/

/-- Four bytes of digits always name a unit. -/
theorem exists_unit_of_isDigits (all : IsDigits digits) :
    ∃ unit, Text.hexUnit? digits = some unit :=
  Text.exists_hexUnit?_iff.mpr (isDigits_iff.mp all)

/-- The digits of a unit end in the characters. -/
theorem readUnit_eq_ok (read : (readUnit chars index offset).run = some (.ok (unit, behind))) :
    behind = index + 5 ∧ behind ≤ chars.length := by
  obtain ⟨digits, sliced, read⟩ := run_bind_eq_ok.mp read
  obtain ⟨-, inside, long⟩ := slice_eq_ok sliced
  split at read
  case isTrue all =>
    have four : digits.length = 4 := (isDigits_iff.mp all).1
    obtain ⟨unit', named⟩ := exists_unit_of_isDigits all
    rw [named] at read
    have same : (unit', index + 5) = (unit, behind) := by simpa using read
    obtain ⟨-, rfl⟩ := Prod.mk.inj same
    -- a piece that the end of the characters cuts short has fewer than four of them
    omega
  case isFalse => exact absurd read (not_run_throw _ _)

theorem defined_readUnit (current : index < chars.length) :
    Defined (readUnit chars index offset) := by
  apply Defined.bind
  · apply defined_slice <;> omega
  · intro digits sliced
    split
    case isTrue =>
      split
      · exact .pure _
      · exact .throw _
    case isFalse => exact .throw _

/-! ### Moves -/

/-- What a step does to the index and to what the cursor is in the middle of. -/
inductive Moves (chars : List Char) : Nat → Task → Nat → Task → Prop
  /-- A blank or a token of one character is passed. -/
  | passed {i : Nat} : i < chars.length → Moves chars i .between (i + 1) .between
  | number {i : Nat} {c : Char} : chars[i]? = some c → Lexeme.isNumberPart c = true →
      Moves chars i .between i (.number i [])
  | word {i : Nat} {c : Char} : chars[i]? = some c → Lexeme.isWordPart c = true →
      Moves chars i .between i (.word i [])
  | quote {i : Nat} {c : Char} : chars[i]? = some c → Lexeme.isQuote c = true →
      Moves chars i .between (i + 1) (.string ⟨c, i, []⟩ false)
  | numberPart {i start : Nat} {text : List Char} {c : Char} :
      chars[i]? = some c → Lexeme.isNumberPart c = true →
      Moves chars i (.number start text) (i + 1) (.number start (text ++ [c.toLower]))
  | numberEnd {i start : Nat} {text : List Char} :
      chars[i]?.filter Lexeme.isNumberPart = none → Moves chars i (.number start text) i .between
  | wordPart {i start : Nat} {text : List Char} {c : Char} :
      chars[i]? = some c → Lexeme.isWordPart c = true →
      Moves chars i (.word start text) (i + 1) (.word start (text ++ [c]))
  | wordEnd {i start : Nat} {text : List Char} :
      chars[i]?.filter Lexeme.isWordPart = none → Moves chars i (.word start text) i .between
  | stringEnd {i : Nat} {opened : OpenString} {atOther : Bool} :
      chars[i]? = some opened.quote → Moves chars i (.string opened atOther) (i + 1) .between
  | backslash {i : Nat} {opened : OpenString} {atOther : Bool} :
      chars[i]? = some '\\' → Moves chars i (.string opened atOther) (i + 1) (.escape opened)
  | raw {i : Nat} {opened : OpenString} {atOther : Bool} {c : Char} : chars[i]? = some c →
      Moves chars i (.string opened atOther) (i + 1)
        (.string (opened.push c) (Lexeme.isQuote c))
  | letter {i : Nat} {opened : OpenString} {c : Char} : chars[i]? = some c →
      Moves chars i (.escape opened) (i + 1) (.string (opened.push (Lexeme.escaped c)) false)
  | unicode {i : Nat} {opened : OpenString} : chars[i]? = some 'u' →
      Moves chars i (.escape opened) i (.unicode opened)
  | unit {i : Nat} {opened : OpenString} {c : Char} : i + 5 ≤ chars.length →
      Moves chars i (.unicode opened) (i + 5) (.string (opened.push c) false)
  | high {i high : Nat} {opened : OpenString} :
      i + 5 ≤ chars.length → Text.isHighSurrogate high = true →
      Moves chars i (.unicode opened) (i + 5) (.behindHigh opened (i - 1) high)
  | alone {i offset high : Nat} {opened : OpenString} {c : Char} : character? high = some c →
      Moves chars i (.behindHigh opened offset high) i (.string (opened.push c) false)
  | second {i offset high : Nat} {opened : OpenString} :
      chars[i]? = some '\\' → chars[i + 1]? = some 'u' →
      Moves chars i (.behindHigh opened offset high) (i + 1) (.secondUnicode opened offset high)
  | pair {i offset high : Nat} {opened : OpenString} {c : Char} : i + 5 ≤ chars.length →
      Moves chars i (.secondUnicode opened offset high) (i + 5) (.string (opened.push c) false)

theorem named_eq_ok {character : Option Char} {shown : List Char}
    (goesOn : (named state opened character offset shown).run = some (.ok (.goesOn later))) :
    ∃ c, character = some c ∧
      later = { state with task := .string (opened.push c) false } := by
  cases character with
  | none => exact absurd goesOn (not_run_throw _ _)
  | some c =>
    refine ⟨c, rfl, ?_⟩
    simpa [named] using goesOn.symm

theorem goesOn_inj {between : Cursor}
    (next : (return .goesOn between : Checked Outcome).run = some (.ok (.goesOn later))) :
    between = later :=
  Outcome.goesOn.inj (run_return.mp next)

section

variable {found : List Token} {events : List LogEvent}

theorem moves_of_between (next : Next chars ⟨index, found, events, .between⟩ later) :
    Moves chars index .between later.index later.task := by
  simp only [Next, step, betweenStep] at next
  split at next
  case h_1 => exact absurd (run_return.mp next) (by simp)
  case h_2 c current =>
    have inText : index < chars.length := (List.getElem?_eq_some_iff.mp current).1
    split at next
    case isTrue =>
      obtain rfl := goesOn_inj next
      exact .passed inText
    case isFalse =>
      split at next
      case isTrue begins =>
        obtain rfl := goesOn_inj next
        simp only [Bool.or_eq_true, Bool.and_eq_true, beq_iff_eq] at begins
        exact .number current (isNumberPart_of_plain (begins.imp_right And.left))
      case isFalse =>
        split at next
        case isTrue opens =>
          obtain rfl := goesOn_inj next
          exact .quote current opens
        case isFalse =>
          split at next
          case isTrue =>
            obtain rfl := goesOn_inj next
            exact .passed inText
          case isFalse =>
            split at next
            case isTrue begins =>
              obtain rfl := goesOn_inj next
              exact .word current (isWordPart_of_isWordStart begins)
            case isFalse => exact absurd next (not_run_throw _ _)

theorem moves_of_number {start : Nat} {text : List Char}
    (next : Next chars ⟨index, found, events, .number start text⟩ later) :
    Moves chars index (.number start text) later.index later.task := by
  simp only [Next, step, numberStep] at next
  split at next
  case h_1 stops =>
    unfold endOfNumber at next
    split at next
    case h_1 =>
      obtain rfl := goesOn_inj next
      exact .numberEnd stops
    case h_2 => exact absurd next (not_run_throw _ _)
  case h_2 c current =>
    obtain ⟨current, part⟩ := Option.filter_eq_some_iff.mp current
    split at next
    case isTrue =>
      obtain ⟨text, -, refused⟩ := run_bind_eq_ok.mp next
      exact absurd refused (not_run_throw _ _)
    case isFalse =>
      obtain rfl := goesOn_inj next
      exact .numberPart current part

theorem moves_of_word {start : Nat} {text : List Char}
    (next : Next chars ⟨index, found, events, .word start text⟩ later) :
    Moves chars index (.word start text) later.index later.task := by
  simp only [Next, step, wordStep] at next
  split at next
  case h_1 stops =>
    obtain rfl := goesOn_inj next
    exact .wordEnd stops
  case h_2 c current =>
    obtain ⟨current, part⟩ := Option.filter_eq_some_iff.mp current
    obtain rfl := goesOn_inj next
    exact .wordPart current part

theorem moves_of_string {atOther : Bool}
    (next : Next chars ⟨index, found, events, .string opened atOther⟩ later) :
    Moves chars index (.string opened atOther) later.index later.task := by
  simp only [Next, step, stringStep] at next
  split at next
  case h_1 => exact absurd next (not_run_throw _ _)
  case h_2 c current =>
    split at next
    case isTrue closing =>
      obtain rfl := goesOn_inj next
      rw [closing] at current
      exact .stringEnd current
    case isFalse =>
      split at next
      case isTrue backslash =>
        obtain rfl := goesOn_inj next
        rw [backslash] at current
        exact .backslash current
      case isFalse =>
        obtain rfl := goesOn_inj next
        exact .raw current

theorem moves_of_escape (next : Next chars ⟨index, found, events, .escape opened⟩ later) :
    Moves chars index (.escape opened) later.index later.task := by
  simp only [Next, step, escapeStep] at next
  split at next
  case h_1 => exact absurd next (not_run_throw _ _)
  case h_2 c current =>
    split at next
    case isTrue isU =>
      obtain rfl := goesOn_inj next
      rw [isU] at current
      exact .unicode current
    case isFalse =>
      obtain rfl := goesOn_inj next
      exact .letter current

theorem moves_of_unicode (next : Next chars ⟨index, found, events, .unicode opened⟩ later) :
    Moves chars index (.unicode opened) later.index later.task := by
  obtain ⟨offset, distance, next⟩ := run_bind_eq_ok.mp next
  obtain ⟨-, rfl⟩ := difference_eq_ok distance
  obtain ⟨⟨unit, behind⟩, read, next⟩ := run_bind_eq_ok.mp next
  obtain ⟨rfl, inText⟩ := readUnit_eq_ok read
  dsimp only at next
  split at next
  case isTrue isHigh =>
    obtain rfl := goesOn_inj next
    exact .high inText isHigh
  case isFalse =>
    obtain ⟨c, -, rfl⟩ := named_eq_ok next
    exact .unit inText

theorem moves_of_behindHigh {high : Nat}
    (next : Next chars ⟨index, found, events, .behindHigh opened offset high⟩ later) :
    Moves chars index (.behindHigh opened offset high) later.index later.task := by
  simp only [Next, step, behindHighStep] at next
  split at next
  case isTrue escape =>
    obtain rfl := goesOn_inj next
    exact .second escape.1 escape.2
  case isFalse =>
    obtain ⟨c, stands, rfl⟩ := named_eq_ok next
    exact .alone stands

theorem moves_of_secondUnicode {high : Nat}
    (next : Next chars ⟨index, found, events, .secondUnicode opened offset high⟩ later) :
    Moves chars index (.secondUnicode opened offset high) later.index later.task := by
  obtain ⟨secondOffset, -, next⟩ := run_bind_eq_ok.mp next
  obtain ⟨⟨low, behind⟩, read, next⟩ := run_bind_eq_ok.mp next
  obtain ⟨rfl, inText⟩ := readUnit_eq_ok read
  dsimp only at next
  split at next
  case isTrue =>
    obtain ⟨code, -, next⟩ := run_bind_eq_ok.mp next
    obtain ⟨c, -, rfl⟩ := named_eq_ok next
    exact .pair inText
  case isFalse => exact absurd next (not_run_throw _ _)

end

/-- Every step is one of the moves. -/
theorem moves_of_next (next : Next chars state later) :
    Moves chars state.index state.task later.index later.task := by
  obtain ⟨index, found, events, task⟩ := state
  cases task with
  | between => exact moves_of_between next
  | number start text => exact moves_of_number next
  | word start text => exact moves_of_word next
  | string opened atOther => exact moves_of_string next
  | escape opened => exact moves_of_escape next
  | unicode opened => exact moves_of_unicode next
  | behindHigh opened offset high => exact moves_of_behindHigh next
  | secondUnicode opened offset high => exact moves_of_secondUnicode next

end LiteralLang.Cursor
