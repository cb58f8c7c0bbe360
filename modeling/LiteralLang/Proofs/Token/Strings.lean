import LiteralLang.Node.Code
import LiteralLang.Proofs.Token.Classes
import LiteralLang.Proofs.Text.Units
import LiteralLang.Token.Lexeme
import LiteralLang.Value.Source

/-!
# Strings in source text

The grammar of what stands between the quotes of a string.  `StringItem` relates one item, which is
a character or an escape, to the character that it stands for, and `StringItems` a whole text to its
meaning.  The scanner reads exactly these texts, up to the first quote that is no item, and both
ways of writing a string, in printed source and in generated code, give items of the given meaning.
-/

namespace LiteralLang.Lexeme

/-- One item of a string between the given quotes, and the character that it stands for. -/
inductive StringItem (quote : Char) : (item : List Char) → (meaning : Char) → Prop
  | raw {c} : c ≠ quote → c ≠ '\\' → StringItem quote [c] c
  /-- A letter with a meaning of its own, or any other character, which stands for itself. -/
  | escape {c} : c ≠ 'u' → StringItem quote ['\\', c] ((escapes.lookup c).getD c)
  /-- Four digits of a unit that is no surrogate. -/
  | unicode {digits unit} : Text.hexUnit? digits = some unit →
      Text.isHighSurrogate unit = false → Text.isLowSurrogate unit = false →
      StringItem quote ('\\' :: 'u' :: digits) (Char.ofNat unit)
  /-- A high surrogate and the low one right behind it. -/
  | pair {first second high low} : Text.hexUnit? first = some high →
      Text.isHighSurrogate high = true → Text.hexUnit? second = some low →
      Text.isLowSurrogate low = true →
      StringItem quote ('\\' :: 'u' :: (first ++ '\\' :: 'u' :: second)) (Text.ofPair high low)

/-- The items of a string one after the other, and the text that they stand for. -/
inductive StringItems (quote : Char) : (items meaning : List Char) → Prop
  | nil : StringItems quote [] []
  | cons {item c items meaning} : StringItem quote item c → StringItems quote items meaning →
      StringItems quote (item ++ items) (c :: meaning)

variable {quote c : Char} {item items meaning text decoded result : List Char}
  {start offset length behind : Nat} {atOther : Bool}

/-- Items of single characters, written one after the other. -/
theorem StringItems.flatMap {spelling : Char → List Char}
    (each : ∀ c, StringItem quote (spelling c) c) (text : List Char) :
    StringItems quote (text.flatMap spelling) text := by
  induction text with
  | nil => exact .nil
  | cons c text ih =>
    rw [List.flatMap_cons]
    exact .cons (each c) ih

/-! ### Unicode escapes -/

theorem StringItem.unicode_cases (shape : StringItem quote ('\\' :: 'u' :: text) c) :
    (∃ unit, Text.hexUnit? text = some unit ∧ Text.isHighSurrogate unit = false ∧
      Text.isLowSurrogate unit = false ∧ c = Char.ofNat unit) ∨
    ∃ first second high low, text = first ++ '\\' :: 'u' :: second ∧
      Text.hexUnit? first = some high ∧ Text.isHighSurrogate high = true ∧
      Text.hexUnit? second = some low ∧ Text.isLowSurrogate low = true ∧
      c = Text.ofPair high low := by
  generalize spelled : '\\' :: 'u' :: text = item at shape
  cases shape with
  | raw => simp at spelled
  | escape notU =>
    obtain ⟨rfl, -⟩ : 'u' = _ ∧ text = [] := by simpa using spelled
    exact absurd rfl notU
  | unicode read noHigh noLow =>
    simp only [List.cons.injEq, true_and] at spelled
    subst spelled
    exact Or.inl ⟨_, read, noHigh, noLow, rfl⟩
  | pair readHigh high readLow low =>
    simp only [List.cons.injEq, true_and] at spelled
    subst spelled
    exact Or.inr ⟨_, _, _, _, rfl, readHigh, high, readLow, low, rfl⟩

theorem take_append_of_hexUnit? {digits : List Char} {unit : Nat}
    (read : Text.hexUnit? digits = some unit) (rest : List Char) :
    (digits ++ rest).take 4 = digits ∧ (digits ++ rest).drop 4 = rest := by
  have four := Text.length_of_hexUnit? read
  exact ⟨List.take_left' four, List.drop_left' four⟩

/-- An item that is a unicode escape is read, and nothing behind it is taken. -/
theorem unicodeEscape_of_item {spelled rest : List Char}
    (shape : StringItem quote ('\\' :: 'u' :: spelled) c) :
    unicodeEscape offset (spelled ++ rest) = .ok (c, spelled.length) := by
  rcases shape.unicode_cases with ⟨unit, read, noHigh, noLow, meaning⟩ |
    ⟨first, second, high, low, rfl, read, isHigh, read', isLow, meaning⟩
  · obtain ⟨taken, -⟩ := take_append_of_hexUnit? read rest
    rw [unicodeEscape, taken, read, meaning]
    simp only [noHigh, noLow, Bool.false_eq_true, if_false, Text.length_of_hexUnit? read]
  · rw [List.append_assoc, List.cons_append, List.cons_append]
    obtain ⟨taken, dropped⟩ :=
      take_append_of_hexUnit? read ('\\' :: 'u' :: (second ++ rest))
    obtain ⟨taken', -⟩ := take_append_of_hexUnit? read' rest
    rw [unicodeEscape, taken, dropped, read, meaning]
    simp only [isHigh, isLow, if_true, taken', read', List.length_append, List.length_cons,
      Text.length_of_hexUnit? read, Text.length_of_hexUnit? read']

/-- What was read as a unicode escape is an item. -/
theorem exists_item_of_unicodeEscape (quote : Char)
    (read : unicodeEscape offset text = .ok (c, length)) :
    ∃ spelled rest, text = spelled ++ rest ∧ spelled.length = length ∧
      StringItem quote ('\\' :: 'u' :: spelled) c := by
  unfold unicodeEscape at read
  split at read
  case h_1 => simp at read
  case h_2 unit unitRead =>
    have four := Text.length_of_hexUnit? unitRead
    have parts : text.take 4 ++ text.drop 4 = text := List.take_append_drop 4 text
    dsimp only at read
    split at read
    case isTrue high =>
      split at read
      case h_1 second behindDigits =>
        split at read
        case h_1 => simp at read
        case h_2 low lowRead =>
          split at read
          case isTrue isLow =>
            obtain ⟨rfl, rfl⟩ := Prod.mk.inj (Except.ok.inj read)
            have four' := Text.length_of_hexUnit? lowRead
            refine ⟨text.take 4 ++ '\\' :: 'u' :: second.take 4, second.drop 4, ?_, ?_,
              .pair unitRead high lowRead isLow⟩
            · rw [List.append_assoc, List.cons_append, List.cons_append,
                List.take_append_drop, ← behindDigits, parts]
            · rw [List.length_append, List.length_cons, List.length_cons, four, four']
          case isFalse => simp at read
      case h_2 => simp at read
    case isFalse noHigh =>
      split at read
      case isTrue => simp at read
      case isFalse noLow =>
        obtain ⟨rfl, rfl⟩ := Prod.mk.inj (Except.ok.inj read)
        exact ⟨text.take 4, text.drop 4, parts.symm, four,
          .unicode unitRead (Bool.eq_false_iff.mpr noHigh) (Bool.eq_false_iff.mpr noLow)⟩

/-! ### The scan of a string -/

/-- The item is a quote that stands for itself. -/
def isQuoteItem : List Char → Bool
  | [c] => isQuote c
  | _ => false

theorem add_length_escape (offset : Nat) (digits : List Char) :
    offset + 2 + digits.length = offset + ('\\' :: 'u' :: digits).length := by
  rw [List.length_cons, List.length_cons]
  omega

/-- One item is read, and the scan goes on behind it. -/
theorem stringRest_item (notEscape : quote ≠ '\\') (shape : StringItem quote item c) :
    stringRest quote start decoded atOther offset (item ++ text) =
      stringRest quote start (c :: decoded) (isQuoteItem item) (offset + item.length) text := by
  cases shape with
  | raw notQuote notBackslash =>
    rw [List.singleton_append, stringRest.eq_def]
    simp only [if_neg notQuote, if_neg notBackslash]
    rfl
  | @escape letter notU =>
    rw [List.cons_append, List.singleton_append, stringRest.eq_def]
    simp only [if_neg notEscape.symm, if_true, escaped_eq]
    rfl
  | @unicode digits unit read noHigh noLow =>
    have escape : unicodeEscape offset (digits ++ text) = .ok (Char.ofNat unit, digits.length) :=
      unicodeEscape_of_item (.unicode read noHigh noLow : StringItem quote _ _)
    rw [List.cons_append, List.cons_append, stringRest.eq_def]
    simp only [if_neg notEscape.symm, if_true, escape, List.drop_left]
    rw [add_length_escape]
    rfl
  | @pair first second high low read isHigh read' isLow =>
    have escape : unicodeEscape offset (first ++ '\\' :: 'u' :: second ++ text) =
        .ok (Text.ofPair high low, (first ++ '\\' :: 'u' :: second).length) :=
      unicodeEscape_of_item (.pair read isHigh read' isLow : StringItem quote _ _)
    rw [List.cons_append, List.cons_append, stringRest.eq_def]
    simp only [if_neg notEscape.symm, if_true, escape, List.drop_left]
    rw [add_length_escape]
    rfl

/-- Items are read one after the other, and the scan goes on behind them. -/
theorem exists_stringRest_append (notEscape : quote ≠ '\\')
    (shape : StringItems quote items meaning) (rest : List Char) :
    ∃ atOther', stringRest quote start decoded atOther offset (items ++ rest) =
      stringRest quote start (meaning.reverse ++ decoded) atOther' (offset + items.length)
        rest := by
  induction shape generalizing decoded atOther offset with
  | nil => exact ⟨atOther, rfl⟩
  | @cons item c items meaning first _ ih =>
    obtain ⟨atOther', same⟩ := @ih (c :: decoded) (offset + item.length) (isQuoteItem item)
    refine ⟨atOther', ?_⟩
    rw [List.append_assoc, stringRest_item notEscape first, same, List.reverse_cons,
      List.append_assoc, List.singleton_append, List.length_append, Nat.add_assoc offset]

/-- Items up to the closing quote are read to the end of the string. -/
theorem stringRest_items (notEscape : quote ≠ '\\') (shape : StringItems quote items meaning)
    (rest : List Char) :
    stringRest quote start decoded atOther offset (items ++ quote :: rest) =
      .ok (decoded.reverse ++ meaning, offset + items.length + 1) := by
  obtain ⟨atOther', same⟩ := exists_stringRest_append notEscape shape (quote :: rest)
  rw [same, stringRest.eq_def]
  simp

/-- The text is items up to a closing quote, which is where the scan stops with the given result. -/
def ClosesAt (quote : Char) (decoded : List Char) (offset : Nat) (text result : List Char)
    (behind : Nat) : Prop :=
  ∃ items meaning rest, text = items ++ quote :: rest ∧ StringItems quote items meaning ∧
    result = decoded.reverse ++ meaning ∧ behind = offset + items.length + 1

theorem ClosesAt.cons (first : StringItem quote item c)
    (later : ClosesAt quote (c :: decoded) (offset + item.length) text result behind) :
    ClosesAt quote decoded offset (item ++ text) result behind := by
  obtain ⟨items, meaning, rest, rfl, shape, rfl, rfl⟩ := later
  refine ⟨item ++ items, c :: meaning, rest, by rw [List.append_assoc], .cons first shape, ?_, ?_⟩
  · rw [List.reverse_cons, List.append_assoc, List.singleton_append]
  · rw [List.length_append]
    omega

/-- What was read as a string is items up to the closing quote. -/
theorem closesAt_of_stringRest
    (read : stringRest quote start decoded atOther offset text = .ok (result, behind)) :
    ClosesAt quote decoded offset text result behind := by
  fun_induction stringRest quote start decoded atOther offset text with
  | case1 => simp at read
  | case2 =>
    obtain ⟨rfl, rfl⟩ := Prod.mk.inj (Except.ok.inj read)
    exact ⟨[], [], _, rfl, .nil, by simp, rfl⟩
  | case3 => simp at read
  | case4 => simp at read
  | case5 decoded atOther offset text named length escape _ ih =>
    obtain ⟨spelled, rest, rfl, rfl, first⟩ := exists_item_of_unicodeEscape quote escape
    have later := ih read
    rw [List.drop_left, Nat.add_assoc, Nat.add_comm 2] at later
    exact ClosesAt.cons first later
  | case6 decoded atOther offset letter text notU _ ih =>
    have later := ih read
    rw [escaped_eq] at later
    exact ClosesAt.cons (.escape notU) later
  | case7 decoded atOther offset c text notQuote notBackslash ih =>
    exact ClosesAt.cons (.raw notQuote notBackslash) (ih read)

/-! ### Written strings -/

theorem StringItem.hexUnit (quote : Char) (basic : c.toNat < 0x10000) :
    StringItem quote (Text.unitEscape c.toNat) c := by
  obtain ⟨noHigh, noLow⟩ := Text.not_surrogate_toNat c
  have item : StringItem quote ('\\' :: 'u' :: Text.hexUnit c.toNat) (Char.ofNat c.toNat) :=
    .unicode (Text.hexUnit?_hexUnit basic) noHigh noLow
  rwa [Char.ofNat_toNat] at item

/-- A character in generated code is one item. -/
theorem StringItem.codeSpelling (c : Char) : StringItem '"' (Text.codeSpelling c) c := by
  unfold Text.codeSpelling
  split
  case isTrue inert =>
    refine .raw ?_ ?_ <;> rintro rfl <;> exact absurd inert (by decide)
  case isFalse =>
    by_cases basic : c.toNat < 0x10000
    · rw [Text.units_eq_single basic, List.flatMap_singleton]
      exact .hexUnit '"' basic
    · obtain ⟨high, low, pair, isHigh, isLow, same⟩ := Text.units_eq_pair basic
      have highRange := Text.isHighSurrogate_iff.mp isHigh
      have lowRange := Text.isLowSurrogate_iff.mp isLow
      have item : StringItem '"' _ (Text.ofPair high low) :=
        .pair (Text.hexUnit?_hexUnit (by omega)) isHigh (Text.hexUnit?_hexUnit (by omega)) isLow
      rw [same] at item
      rw [pair]
      exact item

/-- A character in printed source is one item. -/
theorem StringItem.sourceSpelling (c : Char) : StringItem '"' (Text.sourceSpelling c) c := by
  unfold Text.sourceSpelling
  split
  case h_8 notQuote notBackslash _ _ _ _ _ =>
    split
    case isTrue control =>
      refine .hexUnit '"' ?_
      simp only [Text.isControl, Bool.or_eq_true, Bool.and_eq_true, decide_eq_true_eq] at control
      omega
    case isFalse => exact .raw notQuote notBackslash
  all_goals exact .escape (by decide)

end LiteralLang.Lexeme
