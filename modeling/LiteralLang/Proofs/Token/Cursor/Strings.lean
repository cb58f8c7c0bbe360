import LiteralLang.Proofs.Text.Classes
import LiteralLang.Proofs.Token.Cursor.Follows

/-!
# Following the readers of strings

The cursor reads a unicode escape from its `u` on, by the digits behind it, and those of a second
escape where the first is a high surrogate.  A string is read item by item to its closing quote.
-/

namespace LiteralLang.Cursor

variable {chars rest text digits decoded : List Char} {c quote : Char}
  {index offset start unit high low : Nat} {found : List Token} {events : List LogEvent}
  {opened : OpenString} {atOther : Bool}

/-! ### Indices -/

theorem difference_succ (offset : Nat) : difference (offset + 1) 1 = return offset :=
  if_pos (Nat.le_add_left 1 offset)

theorem At.exists_cons_cons {d : Char} (here : At chars index rest)
    (first : chars[index]? = some c) (second : chars[index + 1]? = some d) :
    ∃ behind, rest = c :: d :: behind := by
  rw [here.current, List.head?_eq_some_iff] at first
  obtain ⟨tail, rfl⟩ := first
  rw [here.tail.current, List.head?_eq_some_iff] at second
  obtain ⟨behind, rfl⟩ := second
  exact ⟨behind, rfl⟩

/-! ### Digits -/

/-- Digits are one byte long each, so four bytes are four digits. -/
theorem isDigits_iff : IsDigits digits ↔ Text.IsHexUnit digits := by
  apply and_congr_left
  intro all
  have ascii : ∀ c ∈ (String.ofList digits).toList, c.toNat ≤ 0x7E := by
    intro c member
    rw [String.toList_ofList] at member
    exact Nat.le_trans (all c member).toNat_le (by decide)
  rw [Text.utf8ByteSize_eq_length ascii, String.length_ofList]

theorem readUnit_eq (here : At chars index ('u' :: text)) (offset : Nat) :
    readUnit chars index offset =
      match Text.hexUnit? (text.take 4) with
      | some unit => return (unit, index + 5)
      | none => throw (.invalidUnicodeEscape offset (String.ofList (text.take 4))) := by
  have inText := here.lt
  have after := here.tail
  have long := after.length_add inText
  have stop : min (index + 1 + 4) chars.length = index + 1 + (text.take 4).length := by
    rw [List.length_take]
    omega
  rw [← List.take_append_drop 4 text] at after
  rw [readUnit, stop, after.slice_eq inText]
  cases read : Text.hexUnit? (text.take 4) with
  | none =>
    have noDigits := isDigits_iff.not.mpr (Text.hexUnit?_eq_none_iff.mp read)
    simp only [pure_bind, if_neg noDigits]
  | some unit =>
    have digits := isDigits_iff.mpr (Text.exists_hexUnit?_iff.mp ⟨unit, read⟩)
    simp only [pure_bind, if_pos digits, read]

/-! ### Characters of code points -/

theorem character?_of_surrogate (surrogate : 0xD800 ≤ unit ∧ unit < 0xE000) :
    character? unit = none := by
  apply if_neg
  rw [Nat.isValidChar]
  omega

theorem character?_of_not_surrogate (small : unit < 0x10000)
    (noSurrogate : unit < 0xD800 ∨ 0xE000 ≤ unit) : character? unit = some (Char.ofNat unit) := by
  apply if_pos
  rw [Nat.isValidChar]
  omega

theorem combined_eq (isHigh : 0xD800 ≤ high) (isLow : 0xDC00 ≤ low) :
    combined high low = return 0x10000 + (high - 0xD800) * 0x400 + (low - 0xDC00) := by
  rw [combined, difference, difference, if_pos isHigh, if_pos isLow]
  simp only [pure_bind, Nat.shiftLeft_eq]

/-- A high and a low surrogate stand for a character. -/
theorem character?_combined (isHigh : 0xD800 ≤ high ∧ high < 0xDC00)
    (isLow : 0xDC00 ≤ low ∧ low < 0xE000) :
    character? (0x10000 + (high - 0xD800) * 0x400 + (low - 0xDC00)) =
      some (Text.ofPair high low) := by
  apply if_pos
  rw [Nat.isValidChar]
  omega

/-! ### Unicode escapes -/

/-- The state behind a unicode escape of the string. -/
def behindEscape (found : List Token) (events : List LogEvent) (opened : OpenString)
    (offset : Nat) : Char × Nat → Cursor
  | (c, length) => ⟨offset + 2 + length, found, events, .string (opened.push c) false⟩

/-- Behind the digits of a high surrogate the cursor reads the escape of a low one. -/
theorem follows_behindHigh (here : At chars (offset + 1) ('u' :: text))
    (read : Text.hexUnit? (text.take 4) = some high) (isHigh : Text.isHighSurrogate high = true) :
    Follows chars ⟨offset + 6, found, events, .behindHigh opened offset high⟩
      (Lexeme.unicodeEscape offset text) (behindEscape found events opened offset) := by
  have after : At chars (offset + 6) (text.drop 4) := here.tail.drop 4
  have highRange := Text.isHighSurrogate_iff.mp isHigh
  rw [Lexeme.unicodeEscape, read]
  simp only [isHigh, if_true]
  split
  case h_1 second escape =>
    rw [escape] at after
    have next : Next chars ⟨offset + 6, found, events, .behindHigh opened offset high⟩
        ⟨offset + 7, found, events, .secondUnicode opened offset high⟩ := by
      have seen : chars[offset + 6]? = some '\\' ∧ chars[offset + 6 + 1]? = some 'u' :=
        ⟨after.current, after.tail.current⟩
      simp only [Next, step, behindHighStep, if_pos seen]
      rfl
    refine .of_next next rfl ?_
    have digits := readUnit_eq after.tail (offset + 6)
    cases lowRead : Text.hexUnit? (second.take 4) with
    | none =>
      apply Ends.fault
      simp only [step, secondUnicodeStep, difference_succ, pure_bind, digits, lowRead]
      rfl
    | some low =>
      simp only [lowRead] at digits ⊢
      split
      case isTrue isLow =>
        have lowRange := Text.isLowSurrogate_iff.mp isLow
        apply Relation.ReflTransGen.single
        simp only [Next, step, secondUnicodeStep, difference_succ, pure_bind, digits, isLow,
          if_true, combined_eq highRange.1 lowRange.1, character?_combined highRange lowRange]
        rfl
      case isFalse noLow =>
        apply Ends.fault
        simp only [step, secondUnicodeStep, difference_succ, pure_bind, digits, if_neg noLow]
        rfl
  case h_2 noEscape =>
    have unseen : ¬ (chars[offset + 6]? = some '\\' ∧ chars[offset + 6 + 1]? = some 'u') := by
      rintro ⟨first, second⟩
      obtain ⟨behind, escape⟩ := after.exists_cons_cons first second
      exact noEscape behind escape
    have noCharacter : character? high = none := character?_of_surrogate (by omega)
    apply Ends.fault
    simp only [step, behindHighStep, if_neg unseen, noCharacter]
    rfl

/-- From its `u` on a unicode escape is read. -/
theorem follows_unicodeEscape (here : At chars (offset + 1) ('u' :: text)) :
    Follows chars ⟨offset + 1, found, events, .unicode opened⟩ (Lexeme.unicodeEscape offset text)
      (behindEscape found events opened offset) := by
  have digits := readUnit_eq here offset
  cases read : Text.hexUnit? (text.take 4) with
  | none =>
    rw [Lexeme.unicodeEscape, read]
    apply Ends.fault
    simp only [step, unicodeStep, difference_succ, pure_bind, digits, read]
    rfl
  | some unit =>
    rw [read] at digits
    by_cases isHigh : Text.isHighSurrogate unit = true
    · have next : Next chars ⟨offset + 1, found, events, .unicode opened⟩
          ⟨offset + 6, found, events, .behindHigh opened offset unit⟩ := by
        simp only [Next, step, unicodeStep, difference_succ, pure_bind, digits, if_pos isHigh]
        rfl
      exact .of_next next rfl (follows_behindHigh here read isHigh)
    · rw [Lexeme.unicodeEscape, read]
      simp only [if_neg isHigh]
      split
      case isTrue isLow =>
        have noCharacter : character? unit = none := by
          have range := Text.isLowSurrogate_iff.mp isLow
          exact character?_of_surrogate (by omega)
        apply Ends.fault
        simp only [step, unicodeStep, difference_succ, pure_bind, digits, if_neg isHigh,
          noCharacter]
        rfl
      case isFalse noLow =>
        have basic : character? unit = some (Char.ofNat unit) := by
          obtain ⟨-, -, -, -, -, small⟩ := Text.exists_digits_of_hexUnit? read
          rw [Text.isHighSurrogate_iff] at isHigh
          rw [Text.isLowSurrogate_iff] at noLow
          exact character?_of_not_surrogate small (by omega)
        apply Relation.ReflTransGen.single
        simp only [Next, step, unicodeStep, difference_succ, pure_bind, digits, if_neg isHigh,
          basic]
        rfl

/-! ### Strings -/

/-- The state behind a string. -/
def behindString (found : List Token) (events : List LogEvent) (start : Nat) :
    List Char × Nat → Cursor
  | (decoded, behind) =>
      ⟨behind,
        ⟨String.ofList decoded, some (.text (String.ofList decoded)), start⟩ :: found,
        .stringToken (String.ofList decoded) start :: events, .between⟩

theorem next_backslash (here : At chars index ('\\' :: rest)) (different : '\\' ≠ quote) :
    Next chars ⟨index, found, events, .string ⟨quote, start, decoded⟩ atOther⟩
      ⟨index + 1, found, events, .escape ⟨quote, start, decoded⟩⟩ := by
  simp only [Next, step, stringStep, here.current, List.head?_cons, if_neg different, if_true]
  rfl

/-- A backslash in front of a `u` leads to a unicode escape. -/
theorem follows_backslash (here : At chars index ('\\' :: 'u' :: text)) (different : '\\' ≠ quote) :
    Follows chars ⟨index, found, events, .string ⟨quote, start, decoded⟩ atOther⟩
      (Lexeme.unicodeEscape index text)
      (behindEscape found events ⟨quote, start, decoded⟩ index) := by
  have next : Next chars ⟨index + 1, found, events, .escape ⟨quote, start, decoded⟩⟩
      ⟨index + 1, found, events, .unicode ⟨quote, start, decoded⟩⟩ := by
    simp only [Next, step, escapeStep, here.tail.current, List.head?_cons, if_true]
    rfl
  exact .of_next (next_backslash here different) rfl
    (.of_next next rfl (follows_unicodeEscape here.tail))

/-- The rest of a string is read to its closing quote. -/
theorem follows_stringRest (here : At chars index text) :
    Follows chars ⟨index, found, events, .string ⟨quote, start, decoded⟩ atOther⟩
      (Lexeme.stringRest quote start decoded atOther index text)
      (behindString found events start) := by
  fun_induction Lexeme.stringRest quote start decoded atOther index text with
  | case1 decoded atOther index =>
    apply Ends.fault
    simp only [step, stringStep, here.current, List.head?_nil]
    rfl
  | case2 decoded atOther index rest =>
    apply Relation.ReflTransGen.single
    simp only [Next, step, stringStep, here.current, List.head?_cons, if_true]
    rfl
  | case3 decoded atOther index different =>
    refine .of_next (next_backslash here different) rfl (Ends.fault ?_)
    simp only [step, escapeStep, here.tail.current, List.head?_nil]
    rfl
  | case4 decoded atOther index text fault escape different =>
    have refused := @follows_backslash chars text decoded quote index start found events atOther
      here different
    rw [escape] at refused
    exact refused
  | case5 decoded atOther index text named length escape different ih =>
    have reached := @follows_backslash chars text decoded quote index start found events atOther
      here different
    rw [escape] at reached
    exact .of_reach reached rfl (ih (here.tail.tail.drop length))
  | case6 decoded atOther index letter text notU different ih =>
    have next : Next chars ⟨index + 1, found, events, .escape ⟨quote, start, decoded⟩⟩
        ⟨index + 2, found, events,
          .string ⟨quote, start, Lexeme.escaped letter :: decoded⟩ false⟩ := by
      simp only [Next, step, escapeStep, here.tail.current, List.head?_cons, if_neg notU]
      rfl
    exact .of_next (next_backslash here different) rfl (.of_next next rfl (ih here.tail.tail))
  | case7 decoded atOther index c text notQuote notBackslash ih =>
    have next : Next chars ⟨index, found, events, .string ⟨quote, start, decoded⟩ atOther⟩
        ⟨index + 1, found, events,
          .string ⟨quote, start, c :: decoded⟩ (Lexeme.isQuote c)⟩ := by
      simp only [Next, step, stringStep, here.current, List.head?_cons, if_neg notQuote,
        if_neg notBackslash]
      rfl
    exact .of_next next rfl (ih here.tail)

end LiteralLang.Cursor
