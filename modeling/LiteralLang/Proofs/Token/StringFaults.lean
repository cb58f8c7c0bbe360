import LiteralLang.Proofs.Token.Faults

/-!
# Faulty strings

What becomes of a string, told by its text.  Items are read from the opening quote on, up to the
first thing that is none.  If that is the same quote, the string ends there, and if it is a unicode
escape that names no character, the escape is the fault.  Where the text ends instead, the last item
decides: a quote of the other style that stands for itself is taken for an attempt to close the
string.
-/

namespace LiteralLang

namespace Lexeme

/-- What is wrong with a unicode escape whose backslash is at `place`, given what follows its `u`:
the offset and the text that are reported. -/
inductive EscapeFault (place : Nat) : (following : List Char) → (offset : Nat) →
    (shown : List Char) → Prop
  /-- There are no four hexadecimal digits. -/
  | digits {following} : ¬ Text.IsHexUnit (following.take 4) →
      EscapeFault place following place (following.take 4)
  | low {digits unit rest} : Text.hexUnit? digits = some unit →
      Text.isLowSurrogate unit = true →
      EscapeFault place (digits ++ rest) place (digits.map Char.toUpper)
  /-- A high surrogate without an escape right behind it. -/
  | high {digits unit rest} : Text.hexUnit? digits = some unit →
      Text.isHighSurrogate unit = true → (∀ second, rest ≠ '\\' :: 'u' :: second) →
      EscapeFault place (digits ++ rest) place (digits.map Char.toUpper)
  /-- The escape behind a high surrogate has no four hexadecimal digits. -/
  | secondDigits {digits unit second} : Text.hexUnit? digits = some unit →
      Text.isHighSurrogate unit = true → ¬ Text.IsHexUnit (second.take 4) →
      EscapeFault place (digits ++ '\\' :: 'u' :: second) (place + 6) (second.take 4)
  /-- The escape behind a high surrogate names no low one. -/
  | secondUnit {first high second unit rest} : Text.hexUnit? first = some high →
      Text.isHighSurrogate high = true → Text.hexUnit? second = some unit →
      Text.isLowSurrogate unit = false →
      EscapeFault place (first ++ '\\' :: 'u' :: (second ++ rest)) place
        (first.map Char.toUpper ++ '\\' :: 'u' :: second.map Char.toUpper)

/-- What becomes of the string that begins with the quote at `start`, given the text behind that
quote: the meaning of the string and the offset behind it, or the fault. -/
inductive StringOutcome (quote : Char) (start : Nat) : (text : List Char) →
    Except CompileError (List Char × Nat) → Prop
  | closed {items meaning rest} : StringItems quote items meaning →
      StringOutcome quote start (items ++ quote :: rest)
        (.ok (meaning, start + 1 + items.length + 1))
  | escape {items meaning following offset shown} : StringItems quote items meaning →
      EscapeFault (start + 1 + items.length) following offset shown →
      StringOutcome quote start (items ++ '\\' :: 'u' :: following)
        (.error (.invalidUnicodeEscape offset (String.ofList shown)))
  /-- The last item is the other quote, standing for itself. -/
  | mismatched {items meaning other} : StringItems quote items meaning → isQuote other = true →
      other ≠ quote →
      StringOutcome quote start (items ++ [other]) (.error (.mismatchedQuote quote other start))
  | empty : StringOutcome quote start [] (.error (.unclosedString start))
  /-- The last item is any other character, or an escape. -/
  | unclosed {items meaning item c} : StringItems quote items meaning → StringItem quote item c →
      (∀ other, isQuote other = true → item ≠ [other]) →
      StringOutcome quote start (items ++ item) (.error (.unclosedString start))
  /-- The text ends behind a backslash. -/
  | backslash {items meaning} : StringItems quote items meaning →
      StringOutcome quote start (items ++ ['\\']) (.error (.unclosedString start))

/-- No item begins the text: it is empty or a backslash, or begins with the closing quote or with a
unicode escape that has a fault. -/
inductive NoItem (quote : Char) (place : Nat) : List Char → Prop
  | nil : NoItem quote place []
  | backslash : NoItem quote place ['\\']
  | closing {rest} : NoItem quote place (quote :: rest)
  | escape {following offset shown} : EscapeFault place following offset shown →
      NoItem quote place ('\\' :: 'u' :: following)

variable {quote c : Char} {following shown items meaning text item : List Char}
  {place offset start : Nat} {fault : CompileError}
  {outcome : Except CompileError (List Char × Nat)}

/-! ### Escapes -/

/-- A unicode escape with a fault is refused with it. -/
theorem EscapeFault.unicodeEscape_eq (wrong : EscapeFault place following offset shown) :
    unicodeEscape place following =
      .error (.invalidUnicodeEscape offset (String.ofList shown)) := by
  cases wrong with
  | digits noUnit => rw [unicodeEscape, Text.hexUnit?_eq_none_iff.mpr noUnit]
  | @low digits unit rest read isLow =>
    obtain ⟨taken, -⟩ := take_append_of_hexUnit? read rest
    have noHigh : Text.isHighSurrogate unit = false := by
      rw [Text.isLowSurrogate_iff] at isLow
      rw [← Bool.not_eq_true, Text.isHighSurrogate_iff]
      omega
    rw [unicodeEscape, taken, read]
    simp only [noHigh, isLow, Bool.false_eq_true, if_false, if_true, Text.map_toUpper_hexUnit read]
  | @high digits unit rest read isHigh alone =>
    obtain ⟨taken, dropped⟩ := take_append_of_hexUnit? read rest
    rw [unicodeEscape, taken, dropped, read]
    simp only [isHigh, if_true, Text.map_toUpper_hexUnit read]
  | @secondDigits digits unit second read isHigh noUnit =>
    obtain ⟨taken, dropped⟩ := take_append_of_hexUnit? read ('\\' :: 'u' :: second)
    rw [unicodeEscape, taken, dropped, read]
    simp only [isHigh, if_true, Text.hexUnit?_eq_none_iff.mpr noUnit]
  | @secondUnit first high second unit rest read isHigh read' noLow =>
    obtain ⟨taken, dropped⟩ := take_append_of_hexUnit? read ('\\' :: 'u' :: (second ++ rest))
    obtain ⟨taken', -⟩ := take_append_of_hexUnit? read' rest
    rw [unicodeEscape, taken, dropped, read]
    simp only [isHigh, if_true, taken', read', noLow, Bool.false_eq_true, if_false,
      Text.map_toUpper_hexUnit read, Text.map_toUpper_hexUnit read']

/-- A unicode escape that is refused has a fault. -/
theorem exists_escapeFault (refused : unicodeEscape place following = .error fault) :
    ∃ offset shown, EscapeFault place following offset shown := by
  have parts : following.take 4 ++ following.drop 4 = following := List.take_append_drop 4 following
  unfold unicodeEscape at refused
  split at refused
  case h_1 noUnit => exact ⟨_, _, .digits (Text.hexUnit?_eq_none_iff.mp noUnit)⟩
  case h_2 unit read =>
    dsimp only at refused
    split at refused
    case isTrue isHigh =>
      split at refused
      case h_1 second behindDigits =>
        rw [behindDigits] at parts
        rw [← parts]
        split at refused
        case h_1 noUnit =>
          exact ⟨_, _, .secondDigits read isHigh (Text.hexUnit?_eq_none_iff.mp noUnit)⟩
        case h_2 low read' =>
          split at refused
          case isTrue => cases refused
          case isFalse noLow =>
            rw [← List.take_append_drop 4 second]
            exact ⟨_, _, .secondUnit read isHigh read' (Bool.eq_false_iff.mpr noLow)⟩
      case h_2 alone =>
        rw [← parts]
        exact ⟨_, _, .high read isHigh alone⟩
    case isFalse =>
      split at refused
      case isTrue isLow =>
        rw [← parts]
        exact ⟨_, _, .low read isLow⟩
      case isFalse => cases refused

/-! ### Outcomes -/

theorem StringItems.eq_nil_or_last (shape : StringItems quote items meaning) :
    items = [] ∨ ∃ front before item c, items = front ++ item ∧ StringItems quote front before ∧
      StringItem quote item c := by
  induction shape with
  | nil => exact Or.inl rfl
  | @cons item c items meaning first _ ih =>
    right
    rcases ih with rfl | ⟨front, before, last, d, rfl, shape, isItem⟩
    · exact ⟨[], [], item, c, by simp, .nil, first⟩
    · exact ⟨item ++ front, c :: before, last, d, by simp, .cons first shape, isItem⟩

/-- A text that ends behind an item leaves the string open, or closed by the wrong quote. -/
theorem stringRest_ends (notEscape : quote ≠ '\\') (shape : StringItems quote items meaning)
    (last : StringItem quote item c) :
    stringRest quote start [] false offset (items ++ item) =
      .error (if isQuoteItem item
        then .mismatchedQuote quote (if quote = '"' then '\x27' else '"') start
        else .unclosedString start) := by
  obtain ⟨atOther, front⟩ := @exists_stringRest_append quote items meaning [] start offset false
    notEscape shape item
  have behind := @stringRest_item quote c item [] (meaning.reverse ++ []) start
    (offset + items.length) atOther notEscape last
  rw [List.append_nil item] at behind
  rw [front, behind, stringRest]

theorem not_isQuoteItem (plain : ∀ other, isQuote other = true → item ≠ [other]) :
    isQuoteItem item = false := by
  unfold isQuoteItem
  split
  case h_1 other =>
    rw [Bool.eq_false_iff]
    intro isQuote
    exact plain other isQuote rfl
  case h_2 => rfl

/-- The string comes to the outcome with which its text is read. -/
theorem StringOutcome.stringRest_eq (opens : isQuote quote = true)
    (comes : StringOutcome quote start text outcome) :
    stringRest quote start [] false (start + 1) text = outcome := by
  have notEscape : quote ≠ '\\' := by
    rintro rfl
    exact absurd opens (by decide)
  cases comes with
  | closed shape => exact stringRest_items notEscape shape _
  | @escape items meaning following offset shown shape wrong =>
    obtain ⟨atOther, same⟩ := exists_stringRest_append notEscape shape ('\\' :: 'u' :: following)
    rw [same, stringRest.eq_def]
    simp only [if_neg notEscape.symm, if_true, wrong.unicodeEscape_eq]
  | @mismatched items meaning other shape isQuote different =>
    have raw : StringItem quote [other] other := by
      refine .raw different ?_
      rintro rfl
      exact absurd isQuote (by decide)
    have otherQuote : (if quote = '"' then '\x27' else '"') = other := by
      rcases isQuote_iff.mp opens with rfl | rfl <;> rcases isQuote_iff.mp isQuote with rfl | rfl
      · contradiction
      · rfl
      · rfl
      · contradiction
    rw [stringRest_ends notEscape shape raw, otherQuote, isQuoteItem, if_pos isQuote]
  | empty => rw [stringRest]; rfl
  | unclosed shape last plain =>
    rw [stringRest_ends notEscape shape last, not_isQuoteItem plain]
    rfl
  | @backslash items meaning shape =>
    obtain ⟨atOther, same⟩ := exists_stringRest_append notEscape shape ['\\']
    rw [same, stringRest.eq_def]
    simp only [if_neg notEscape.symm, if_true]

/-- The text at the offset is items up to where no further item begins. -/
def HasItems (quote : Char) (place : Nat) (text : List Char) : Prop :=
  ∃ items meaning rest, text = items ++ rest ∧ StringItems quote items meaning ∧
    NoItem quote (place + items.length) rest

theorem NoItem.hasItems (ends : NoItem quote place text) : HasItems quote place text :=
  ⟨[], [], text, rfl, .nil, ends⟩

theorem HasItems.cons (first : StringItem quote item c)
    (later : HasItems quote (place + item.length) text) : HasItems quote place (item ++ text) := by
  obtain ⟨items, meaning, rest, rfl, shape, ends⟩ := later
  rw [Nat.add_assoc, ← List.length_append] at ends
  exact ⟨item ++ items, c :: meaning, rest, (List.append_assoc ..).symm, .cons first shape, ends⟩

theorem hasItems (quote : Char) (place : Nat) (text : List Char) : HasItems quote place text := by
  -- an item takes one character or more, and the text behind it is shorter
  induction long : text.length using Nat.strong_induction_on generalizing place text with
  | h n ih =>
    subst long
    cases text with
    | nil => exact NoItem.nil.hasItems
    | cons d text =>
      by_cases closes : d = quote
      · subst closes
        exact NoItem.closing.hasItems
      · by_cases backslash : d = '\\'
        · subst backslash
          cases text with
          | nil => exact NoItem.backslash.hasItems
          | cons letter text =>
            by_cases unicode : letter = 'u'
            · subst unicode
              cases read : unicodeEscape place text with
              | error fault =>
                obtain ⟨offset, shown, wrong⟩ := exists_escapeFault read
                exact (NoItem.escape wrong).hasItems
              | ok named =>
                obtain ⟨spelled, rest, rfl, -, first⟩ := exists_item_of_unicodeEscape quote read
                have shorter : rest.length < ('\\' :: 'u' :: (spelled ++ rest)).length := by
                  simp only [List.length_cons, List.length_append]
                  omega
                exact .cons first (ih _ shorter _ rest rfl)
            · have shorter : text.length < ('\\' :: letter :: text).length := by
                simp only [List.length_cons]
                omega
              exact .cons (.escape unicode) (ih _ shorter _ text rfl)
        · exact .cons (.raw closes backslash) (ih _ (Nat.lt_succ_self _) _ text rfl)

/-- Every string comes to an outcome. -/
theorem exists_stringOutcome (quote : Char) (start : Nat) (text : List Char) :
    ∃ outcome, StringOutcome quote start text outcome := by
  obtain ⟨items, meaning, rest, rfl, shape, ends⟩ := hasItems quote (start + 1) text
  cases ends with
  | backslash => exact ⟨_, .backslash shape⟩
  | closing => exact ⟨_, .closed shape⟩
  | escape wrong => exact ⟨_, .escape shape wrong⟩
  | nil =>
    rw [List.append_nil]
    rcases shape.eq_nil_or_last with rfl | ⟨front, before, item, c, rfl, frontShape, last⟩
    · exact ⟨_, .empty⟩
    · by_cases other : ∃ other, isQuote other = true ∧ item = [other]
      · obtain ⟨other, isQuote, rfl⟩ := other
        cases last with
        | raw different _ => exact ⟨_, .mismatched frontShape isQuote different⟩
      · refine ⟨_, .unclosed frontShape last ?_⟩
        intro quote isQuote same
        exact other ⟨quote, isQuote, same⟩

/-- The string is read with its outcome. -/
theorem stringOutcome_iff (opens : isQuote quote = true) :
    StringOutcome quote start text outcome ↔
      stringRest quote start [] false (start + 1) text = outcome := by
  constructor
  · exact StringOutcome.stringRest_eq opens
  · rintro rfl
    obtain ⟨other, comes⟩ := exists_stringOutcome quote start text
    rwa [comes.stringRest_eq opens]

end Lexeme

/-! ### Runs of the scanner -/

open Lexeme (isQuote StringItems StringOutcome stringOutcome_iff)
open Scan (Reads GoesOn)

variable {source : String} {tokens : List Token} {start : Nat} {quote : Char}
  {text items meaning rest : List Char} {fault : CompileError}

/-- The scanner stops with the fault of a string. -/
theorem tokenize_of_stringFault (accepted : Reads 0 source.toList tokens start (quote :: text))
    (opens : isQuote quote = true) (wrong : StringOutcome quote start text (.error fault)) :
    tokenize source = .error fault := by
  have stops : lexeme start quote text = .error fault := by
    rw [Lexeme.lexeme_of_isQuote opens, Lexeme.ofQuote, wrong.stringRest_eq opens]
  exact Scan.tokenize_eq_error_iff.mpr
    ⟨tokens, start, quote, text, accepted, Lexeme.not_isSpace_of_isQuote opens, stops⟩

/-- A string is read as a token, and the run goes on behind its closing quote. -/
theorem reads_of_string
    (accepted : Reads 0 source.toList tokens start (quote :: (items ++ quote :: rest)))
    (opens : isQuote quote = true) (shape : StringItems quote items meaning) :
    Reads 0 source.toList (tokens ++ [⟨String.ofList meaning,
      some (.text (String.ofList meaning)), start⟩]) (start + 1 + items.length + 1) rest := by
  have whole : quote :: (items ++ quote :: rest) = quote :: (items ++ [quote]) ++ rest := by simp
  have length : start + (quote :: (items ++ [quote])).length = start + 1 + items.length + 1 := by
    rw [List.length_cons, List.length_append, List.length_singleton]
    omega
  rw [whole] at accepted
  have run := accepted.append (Reads.single (.string opens shape))
  rwa [length] at run

/-- Where the scanner comes to a quote, the items behind it decide, and they leave one outcome.  The
source is refused with the first fault among them, or with one that says how the text ends, and
otherwise the token of the string is found and the scanner goes on behind its closing quote.  A
fault of a string comes from no other place. -/
theorem tokenize_at_quote (source : String) :
    (∀ (tokens : List Token) (start : Nat) (quote : Char) (text : List Char),
      Reads 0 source.toList tokens start (quote :: text) → isQuote quote = true →
      (∃ outcome, ∀ other, StringOutcome quote start text other ↔ other = outcome) ∧
      (∀ fault, StringOutcome quote start text (.error fault) → tokenize source = .error fault) ∧
      ∀ meaning behind, StringOutcome quote start text (.ok (meaning, behind)) →
        GoesOn source (tokens ++ [⟨String.ofList meaning, some (.text (String.ofList meaning)),
          start⟩]) behind (source.toList.drop behind)) ∧
    ∀ fault, tokenize source = .error fault → fault.OfString →
      ∃ tokens start quote text, Reads 0 source.toList tokens start (quote :: text) ∧
        isQuote quote = true := by
  constructor
  · intro tokens start quote text accepted opens
    refine ⟨⟨Lexeme.stringRest quote start [] false (start + 1) text, ?_⟩, ?_, ?_⟩
    · intro other
      rw [stringOutcome_iff opens, eq_comm]
    · intro fault wrong
      exact tokenize_of_stringFault accepted opens wrong
    · intro meaning behind closes
      cases closes with
      | closed shape =>
        have run := reads_of_string accepted opens shape
        rw [run.drop_eq]
        exact run.goesOn
  · intro fault refused kind
    exact exists_isQuote_of_tokenize refused kind

/-- The second half of a surrogate pair is the first fault of one string, and another one, which has
none, ends in a quote of the other style. -/
theorem tokenize_at_quote_second_escape_and_mismatch :
    tokenize "[\"a\\uD83D\\u00T0\"" = .error (.invalidUnicodeEscape 9 "00T0") ∧
    tokenize "\"ab\x27" = .error (.mismatchedQuote '"' '\x27' 0) := by
  have letter (c : Char) (other : c ≠ '"') (plain : c ≠ '\\') : Lexeme.StringItem '"' [c] c :=
    .raw other plain
  constructor
  · have opening : Reads 0 "[\"a\\uD83D\\u00T0\"".toList [⟨"[", none, 0⟩] 1
        "\"a\\uD83D\\u00T0\"".toList :=
      Reads.single (.punctuation (Or.inl rfl))
    have front : StringItems '"' "a".toList "a".toList :=
      .cons (letter 'a' (by decide) (by decide)) .nil
    have high : Text.hexUnit? "D83D".toList = some 0xD83D := by decide
    have second : ¬ Text.IsHexUnit ("00T0\"".toList.take 4) :=
      Text.hexUnit?_eq_none_iff.mp (by decide)
    have wrong : StringOutcome '"' 1 "a\\uD83D\\u00T0\"".toList
        (.error (.invalidUnicodeEscape 9 "00T0")) :=
      .escape front (.secondDigits high (by decide) second)
    exact ((tokenize_at_quote _).1 _ _ _ _ opening rfl).2.1 _ wrong
  · have front : StringItems '"' "ab".toList "ab".toList :=
      .cons (letter 'a' (by decide) (by decide)) (.cons (letter 'b' (by decide) (by decide)) .nil)
    have wrong : StringOutcome '"' 0 "ab\x27".toList (.error (.mismatchedQuote '"' '\x27' 0)) :=
      .mismatched front rfl (by decide)
    exact ((tokenize_at_quote "\"ab\x27").1 [] 0 '"' _ .done rfl).2.1 _ wrong

end LiteralLang
