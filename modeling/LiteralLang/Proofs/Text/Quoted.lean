import LiteralLang.Proofs.Text.Classes
import LiteralLang.Text.Hex
import LiteralLang.Text.Quoted

/-!
# Reading escaped text

Escaped text stays on its line and can be read back: `firstShown?` takes the first character that it
shows off the text, however the character is spelled, so texts that are escaped alike are the same.
Text between quotes also tells where it ends.
-/

namespace LiteralLang.Text

/-! ### Numbers -/

/-- The number that hexadecimal digits write. -/
def hexNumber (digits : List Char) : Nat :=
  digits.foldl (fun number digit => number * 16 + (hexDigit? digit).getD 0) 0

theorem hexDigit?_digitChar {n : Nat} (small : n < 16) : hexDigit? n.digitChar = some n := by
  have all : ∀ n < 16, hexDigit? n.digitChar = some n := by decide
  exact all n small

theorem hexNumber_toDigits (n : Nat) : hexNumber (Nat.toDigits 16 n) = n := by
  induction n using Nat.strong_induction_on with
  | h n ih =>
    rw [Nat.toDigits_eq_if (by decide)]
    split
    case isTrue small => simp [hexNumber, hexDigit?_digitChar small]
    case isFalse large =>
      have front : hexNumber (Nat.toDigits 16 (n / 16)) = n / 16 := ih (n / 16) (by omega)
      rw [hexNumber] at front ⊢
      rw [List.foldl_append, front, List.foldl_cons, List.foldl_nil,
        hexDigit?_digitChar (Nat.mod_lt n (by decide)), Option.getD_some]
      omega

theorem exists_digitChar_of_mem {n : Nat} {c : Char} (member : c ∈ Nat.toDigits 16 n) :
    ∃ d, c = Nat.digitChar d := by
  induction n using Nat.strong_induction_on with
  | h n ih =>
    rw [Nat.toDigits_eq_if (by decide)] at member
    split at member
    case isTrue => exact ⟨n, List.mem_singleton.mp member⟩
    case isFalse large =>
      rcases List.mem_append.mp member with front | last
      · exact ih (n / 16) (by omega) front
      · exact ⟨n % 16, List.mem_singleton.mp last⟩

/-- The decimal digits of a number tell it. -/
theorem repr_injective : Function.Injective Nat.repr := by
  intro n n' same
  have digits := congrArg String.toList same
  rw [Nat.toList_repr, Nat.toList_repr] at digits
  have value := congrArg (Nat.ofDigitChars 10 · 0) digits
  simpa only [Nat.ofDigitChars_ten_toDigits] using value

/-! ### Spellings -/

/-- The ways in which a character is spelled: by a letter, with a backslash in front of it, by its
code point, or as it is. -/
inductive Spelling : Char → List Char → Prop
  | letter {c letter} : controlLetter? c = some letter → Spelling c ['\\', letter]
  | quote {c} : c = '"' ∨ c = '\x27' → Spelling c ['\\', c]
  | codePoint {c} : Spelling c (codePointEscape c)
  | raw {c} : controlLetter? c = none → Spelling c [c]

/-- A text, and what is written for it: a spelling for each character. -/
inductive Escaped : (text written : List Char) → Prop
  | nil : Escaped [] []
  | cons {c text item written} : Spelling c item → Escaped text written →
      Escaped (c :: text) (item ++ written)

variable {c : Char} {item text text' written written' : List Char}

theorem Spelling.spelled {isQuote : Char → Bool} (quotes : isQuote c → c = '"' ∨ c = '\x27')
    (alone : Bool) : Spelling c (spelled isQuote alone c) := by
  rw [Text.spelled]
  split
  case h_1 letter isLetter => exact .letter isLetter
  case h_2 plain =>
    split
    case isTrue quote => exact .quote (quotes quote)
    case isFalse =>
      split
      case isTrue => exact .codePoint
      case isFalse => exact .raw plain

theorem escaped_toList (text : String) : Escaped text.toList (escaped text).toList := by
  have quotes : ∀ c : Char, (c == '"' || c == '\x27') = true → c = '"' ∨ c = '\x27' := by
    intro c isQuote
    rwa [Bool.or_eq_true, beq_iff_eq, beq_iff_eq] at isQuote
  rw [escaped]
  cases text.toList with
  | nil => exact .nil
  | cons first rest =>
    rw [String.toList_ofList]
    refine .cons (.spelled (quotes first) true) ?_
    induction rest with
    | nil => exact .nil
    | cons c rest ih =>
      rw [List.flatMap_cons]
      exact .cons (.spelled (quotes c) false) ih

/-! ### Lines -/

theorem Spelling.newline_not_mem (shape : Spelling c item) : '\n' ∉ item := by
  cases shape with
  | letter isLetter =>
    unfold controlLetter? at isLetter
    split at isLetter <;> cases isLetter <;> decide
  | quote isQuote => rcases isQuote with rfl | rfl <;> decide
  | codePoint =>
    intro member
    simp only [codePointEscape, List.mem_cons, List.mem_append, List.not_mem_nil, or_false]
      at member
    rcases member with same | same | same | digit | same
    case inr.inr.inr.inl =>
      obtain ⟨d, same⟩ := exists_digitChar_of_mem digit
      exact Nat.digitChar_ne '\n' rfl same.symm
    all_goals exact absurd same (by decide)
  | raw plain =>
    rw [List.mem_singleton]
    rintro rfl
    exact absurd plain (by decide)

theorem Escaped.newline_not_mem (escaped : Escaped text written) : '\n' ∉ written := by
  induction escaped with
  | nil => exact List.not_mem_nil
  | cons shape _ ih =>
    rw [List.mem_append, not_or]
    exact ⟨shape.newline_not_mem, ih⟩

/-! ### Reading back -/

/-- The first character that escaped text shows, and the text behind it. -/
def firstShown? : List Char → Option (Char × List Char)
  | [] => none
  | '\\' :: 'n' :: rest => some ('\n', rest)
  | '\\' :: 'r' :: rest => some ('\r', rest)
  | '\\' :: 't' :: rest => some ('\t', rest)
  | '\\' :: '0' :: rest => some ('\x00', rest)
  | '\\' :: 'u' :: '\x7b' :: rest =>
      some (Char.ofNat (hexNumber (rest.takeWhile (· != '\x7d'))),
        (rest.dropWhile (· != '\x7d')).tail)
  | '\\' :: c :: rest => some (c, rest)
  | c :: rest => some (c, rest)

theorem firstShown?_of_ne (notBackslash : c ≠ '\\') (rest : List Char) :
    firstShown? (c :: rest) = some (c, rest) := by
  unfold firstShown?
  split <;> simp_all

theorem firstShown?_codePoint (c : Char) (rest : List Char) :
    firstShown? (codePointEscape c ++ rest) = some (c, rest) := by
  have inside : ∀ d ∈ Nat.toDigits 16 c.toNat, (d != '\x7d') = true := by
    intro d member
    obtain ⟨n, rfl⟩ := exists_digitChar_of_mem member
    exact bne_iff_ne.mpr (Nat.digitChar_ne '\x7d' rfl)
  have shape : codePointEscape c ++ rest =
      '\\' :: 'u' :: '\x7b' :: (Nat.toDigits 16 c.toNat ++ '\x7d' :: rest) := by
    simp [codePointEscape]
  rw [shape, firstShown?, takeWhile_append_eq inside rfl, dropWhile_append_eq inside rfl,
    hexNumber_toDigits, Char.ofNat_toNat, List.tail_cons]

/-- However a character is spelled, it is what is read first. -/
theorem Spelling.firstShown?_append (shape : Spelling c item) (rest : List Char) :
    firstShown? (item ++ rest) = some (c, rest) := by
  cases shape with
  | letter isLetter =>
    unfold controlLetter? at isLetter
    split at isLetter <;> cases isLetter <;> rfl
  | quote isQuote => rcases isQuote with rfl | rfl <;> rfl
  | codePoint => exact firstShown?_codePoint c rest
  | raw plain =>
    refine firstShown?_of_ne ?_ rest
    rintro rfl
    exact absurd plain (by decide)

theorem Escaped.unique (escaped : Escaped text written) (escaped' : Escaped text' written')
    (same : written = written') : text = text' := by
  induction escaped generalizing text' written' with
  | nil =>
    cases escaped' with
    | nil => rfl
    | @cons c' text' item' behind' shape' _ =>
      have read := shape'.firstShown?_append behind'
      rw [← same] at read
      cases read
  | @cons c text item behind shape _ ih =>
    have read := shape.firstShown?_append behind
    cases escaped' with
    | nil =>
      rw [same] at read
      cases read
    | @cons c' text' item' behind' shape' later' =>
      rw [same, shape'.firstShown?_append, Option.some.injEq, Prod.mk.injEq] at read
      obtain ⟨rfl, rfl⟩ := read
      rw [ih later' rfl]

/-- No quote stands for itself between the quotes. -/
theorem exists_spelled_eq_cons (c : Char) :
    ∃ d more, spelled (· == '"') true c = d :: more ∧ d ≠ '"' := by
  rw [Text.spelled]
  split
  case h_1 letter _ => exact ⟨'\\', [letter], rfl, by decide⟩
  case h_2 =>
    split
    case isTrue => exact ⟨'\\', [c], rfl, by decide⟩
    case isFalse noQuote =>
      split
      case isTrue => exact ⟨'\\', _, rfl, by decide⟩
      case isFalse => exact ⟨c, [], rfl, fun same => noQuote (beq_iff_eq.mpr same)⟩

theorem flatMap_spelled_append_inj {rest rest' : List Char}
    (same : text.flatMap (spelled (· == '"') true) ++ '"' :: rest =
      text'.flatMap (spelled (· == '"') true) ++ '"' :: rest') : text = text' ∧ rest = rest' := by
  have shape (c : Char) : Spelling c (Text.spelled (· == '"') true c) := by
    refine .spelled ?_ true
    intro isQuote
    exact Or.inl (beq_iff_eq.mp isQuote)
  induction text generalizing text' with
  | nil =>
    cases text' with
    | nil => exact ⟨rfl, (List.cons.inj same).2⟩
    | cons c' text' =>
      obtain ⟨d, more, begins, noQuote⟩ := exists_spelled_eq_cons c'
      rw [List.flatMap_cons, begins] at same
      exact absurd (List.cons.inj same).1.symm noQuote
  | cons c text ih =>
    cases text' with
    | nil =>
      obtain ⟨d, more, begins, noQuote⟩ := exists_spelled_eq_cons c
      rw [List.flatMap_cons, begins] at same
      exact absurd (List.cons.inj same).1 noQuote
    | cons c' text' =>
      have read := congrArg firstShown? same
      rw [List.flatMap_cons, List.flatMap_cons, List.append_assoc, List.append_assoc,
        (shape c).firstShown?_append, (shape c').firstShown?_append, Option.some.injEq,
        Prod.mk.injEq] at read
      obtain ⟨rfl, behind⟩ := read
      obtain ⟨rfl, later⟩ := ih behind
      exact ⟨rfl, later⟩

theorem toList_quoted (text : String) : (quoted text).toList =
    '"' :: (text.toList.flatMap (spelled (· == '"') true) ++ ['"']) := by
  rw [quoted, String.toList_ofList]

/-- Text between quotes can be read off the front: it tells where it ends. -/
theorem quoted_append_inj {text text' : String} {rest rest' : List Char}
    (same : (quoted text).toList ++ rest = (quoted text').toList ++ rest') :
    text = text' ∧ rest = rest' := by
  rw [toList_quoted, toList_quoted, List.cons_append, List.cons_append, List.append_assoc,
    List.append_assoc] at same
  obtain ⟨texts, behind⟩ := flatMap_spelled_append_inj (List.cons.inj same).2
  exact ⟨String.toList_inj.mp texts, behind⟩

/-- Texts that are escaped alike are the same. -/
theorem escaped_injective : Function.Injective escaped := by
  intro text text' same
  rw [← String.toList_inj]
  exact (escaped_toList text).unique (escaped_toList text') (congrArg String.toList same)

end LiteralLang.Text
