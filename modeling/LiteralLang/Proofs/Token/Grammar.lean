import LiteralLang.Proofs.Decimal.Numeral
import LiteralLang.Proofs.Token.Strings

/-!
# The grammar of lexemes

`Spells` relates the characters of one lexeme to the text and the value of its token, given the
character behind it: a word and a number must not go on there.  `lexeme` reads exactly these, and
takes exactly their characters.
-/

namespace LiteralLang.Lexeme

/-- A lexeme in front of the character `next`, if there is one, with the text and the value of its
token. -/
inductive Spells (next : Option Char) : List Char → String → Option Decoded → Prop
  | punctuation {c} : c = '[' ∨ c = ']' ∨ c = ',' → Spells next [c] (String.ofList [c]) none
  | word {c part} : isWordStart c = true → (∀ d ∈ part, isWordPart d = true) →
      next.any isWordPart = false → Spells next (c :: part) (String.ofList (c :: part)) none
  | number {run d} : Numeral run d → next.any isNumberPart = false →
      Spells next run (String.ofList (run.map Char.toLower)) (some (.number d.nearest))
  | string {quote items meaning} : isQuote quote = true → StringItems quote items meaning →
      Spells next (quote :: (items ++ [quote])) (String.ofList meaning)
        (some (.text (String.ofList meaning)))

variable {c : Char} {text run rest part tail : List Char} {d : Decimal} {exponent : Int}
  {next : Option Char} {offset more : Nat}

/-! ### Numbers -/

theorem isNumberPart_of_isDigit (digit : c.isDigit = true) : isNumberPart c = true := by
  simp [isNumberPart, digit]

/-- A digit or a point is never misplaced. -/
theorem isMisplaced_of_plain {previous : Option Char} (plain : c.isDigit = true ∨ c = '.') :
    isMisplaced previous c next = false := by
  rcases plain with digit | rfl
  · have mark : isExponentMark c = false := by
      rw [Bool.eq_false_iff, Ne, isExponentMark_iff]
      rintro (rfl | rfl) <;> exact absurd digit (by decide)
    have sign : isSign c = false := by
      rw [Bool.eq_false_iff, Ne, isSign_iff]
      rintro (rfl | rfl) <;> exact absurd digit (by decide)
    rw [isMisplaced, mark, sign]
    rfl
  · rfl

/-- Nothing is misplaced anywhere in the run, whatever stands in front of it. -/
def WellPlaced (run : List Char) : Prop := ∀ previous, misplaced? previous run = none

theorem WellPlaced.nil : WellPlaced [] := by
  intro previous
  rfl

theorem misplaced?_cons {previous : Option Char}
    (placed : isMisplaced previous c rest.head? = false)
    (later : misplaced? (some c) rest = none) : misplaced? previous (c :: rest) = none := by
  rw [misplaced?, placed, later]
  rfl

theorem WellPlaced.append (plain : ∀ c ∈ run, c.isDigit = true ∨ c = '.')
    (later : WellPlaced rest) : WellPlaced (run ++ rest) := by
  induction run with
  | nil => exact later
  | cons c run ih =>
    intro previous
    apply misplaced?_cons (isMisplaced_of_plain (plain c List.mem_cons_self))
    apply ih
    intro d member
    exact plain d (List.mem_cons_of_mem c member)

theorem WellPlaced.digits (all : AllDigits run) : WellPlaced run := by
  have plain : ∀ c ∈ run, c.isDigit = true ∨ c = '.' := by
    intro c member
    exact Or.inl (all c member)
  have placed := WellPlaced.append plain WellPlaced.nil
  rwa [List.append_nil] at placed

theorem head?_any_isDigit {digits : List Char} (nonempty : digits ≠ []) (all : AllDigits digits) :
    digits.head?.any Char.isDigit = true := by
  obtain ⟨first, rest, rfl⟩ := List.exists_cons_of_ne_nil nonempty
  exact all first List.mem_cons_self

theorem WellPlaced.exponentPart (shape : ExponentPart exponent part) : WellPlaced part := by
  have markPlaced {mark : Char} {rest : List Char} (isMark : mark = 'e' ∨ mark = 'E')
      (follows : rest.head?.any (fun n => isSign n || n.isDigit) = true) (previous : Option Char) :
      isMisplaced previous mark rest.head? = false := by
    rw [isMisplaced, follows]
    rcases isMark with rfl | rfl <;> rfl
  cases shape with
  | absent => exact .nil
  | unsigned isMark nonempty all =>
    intro previous
    refine misplaced?_cons (markPlaced isMark ?_ previous) (WellPlaced.digits all _)
    obtain ⟨first, rest, rfl⟩ := List.exists_cons_of_ne_nil nonempty
    simp [all first List.mem_cons_self]
  | positive isMark nonempty all | negative isMark nonempty all =>
    intro previous
    refine misplaced?_cons (markPlaced isMark rfl previous)
      (misplaced?_cons ?_ (WellPlaced.digits all _))
    rw [isMisplaced, head?_any_isDigit nonempty all, Option.any_some, isExponentMark_iff.mpr isMark]
    rfl

theorem mantissa_plain {whole fraction mantissa : List Char}
    (shape : Mantissa whole fraction mantissa) :
    ∀ c ∈ mantissa, c.isDigit = true ∨ c = '.' := by
  intro c member
  cases shape with
  | integer _ all => exact Or.inl (all c member)
  | pointed _ all allBehind =>
    rcases List.mem_append.mp member with front | back
    · exact Or.inl (all c front)
    · rcases List.mem_cons.mp back with rfl | back
      · exact Or.inr rfl
      · exact Or.inl (allBehind c back)
  | leading _ all =>
    rcases List.mem_cons.mp member with rfl | back
    · exact Or.inr rfl
    · exact Or.inl (all c back)

theorem misplaced?_numeral (numeral : Numeral run d) : misplaced? none run = none := by
  obtain ⟨mantissaShape, exponentShape⟩ := numeral
  exact WellPlaced.append (mantissa_plain mantissaShape) (.exponentPart exponentShape) none

theorem exponentPart_isNumberPart (shape : ExponentPart exponent part) :
    ∀ c ∈ part, isNumberPart c = true := by
  intro c member
  cases shape with
  | absent => simp at member
  | unsigned isMark _ all =>
    rcases List.mem_cons.mp member with rfl | digit
    · rcases isMark with rfl | rfl <;> rfl
    · exact isNumberPart_of_isDigit (all c digit)
  | positive isMark _ all | negative isMark _ all =>
    rcases List.mem_cons.mp member with rfl | behind
    · rcases isMark with rfl | rfl <;> rfl
    · rcases List.mem_cons.mp behind with rfl | digit
      · rfl
      · exact isNumberPart_of_isDigit (all c digit)

theorem numeral_isNumberPart (numeral : Numeral run d) : ∀ c ∈ run, isNumberPart c = true := by
  obtain ⟨mantissaShape, exponentShape⟩ := numeral
  intro c member
  rcases List.mem_append.mp member with front | back
  · rcases mantissa_plain mantissaShape c front with digit | rfl
    · exact isNumberPart_of_isDigit digit
    · rfl
  · exact exponentPart_isNumberPart exponentShape c back

/-- The first character of a numeral announces a number. -/
theorem numeral_begins (numeral : Numeral (c :: rest) d) (tail : List Char) :
    (c.isDigit || (c == '.' && (rest ++ tail).head?.any Char.isDigit)) = true := by
  generalize spelled : c :: rest = text at numeral
  obtain ⟨mantissaShape, exponentShape⟩ := numeral
  cases mantissaShape with
  | integer nonempty all =>
    obtain ⟨first, digits, rfl⟩ := List.exists_cons_of_ne_nil nonempty
    obtain ⟨rfl, -⟩ := List.cons.inj spelled
    rw [all c List.mem_cons_self, Bool.true_or]
  | pointed nonempty all _ =>
    obtain ⟨first, digits, rfl⟩ := List.exists_cons_of_ne_nil nonempty
    obtain ⟨rfl, -⟩ := List.cons.inj spelled
    rw [all c List.mem_cons_self, Bool.true_or]
  | leading nonempty all =>
    obtain ⟨first, digits, rfl⟩ := List.exists_cons_of_ne_nil nonempty
    obtain ⟨rfl, behind⟩ := List.cons.inj spelled
    have follows : (rest ++ tail).head? = some first := by
      rw [behind]
      rfl
    rw [follows, Option.any_some, all first List.mem_cons_self]
    rfl

/-- A run is read as a number exactly if it is a numeral. -/
theorem number_eq_ok_iff {shown : String} {value : Binary64} :
    number run = .ok (shown, value) ↔
      ∃ d, Numeral run d ∧ shown = String.ofList (run.map Char.toLower) ∧ value = d.nearest := by
  constructor
  · intro read
    unfold number at read
    split at read
    case h_1 => simp at read
    case h_2 =>
      dsimp only at read
      split at read
      case h_1 d spelled =>
        obtain ⟨rfl, rfl⟩ := Prod.mk.inj (Except.ok.inj read)
        exact ⟨d, numeral_of_ofText? spelled, rfl, rfl⟩
      case h_2 => simp at read
  · rintro ⟨d, numeral, rfl, rfl⟩
    rw [number, misplaced?_numeral numeral]
    simp only [numeral.read]

/-! ### First characters -/

/-- A character that begins a word begins nothing else. -/
theorem isWordStart_only (begins : isWordStart c = true) :
    c.isDigit = false ∧ c ≠ '.' ∧ isQuote c = false ∧ (c ≠ '[' ∧ c ≠ ']' ∧ c ≠ ',') := by
  have range : ¬ (48 ≤ c.toNat ∧ c.toNat ≤ 57) ∧ c.toNat ≠ 46 ∧ c.toNat ≠ 34 ∧ c.toNat ≠ 39 ∧
      c.toNat ≠ 91 ∧ c.toNat ≠ 93 ∧ c.toNat ≠ 44 := by
    rw [isWordStart_iff] at begins
    rcases begins with (upper | lower) | rfl | rfl
    · omega
    · omega
    · decide
    · decide
  obtain ⟨noDigit, noPoint, noDouble, noSingle, noOpening, noClosing, noComma⟩ := range
  refine ⟨?_, ?_, ?_, ?_, ?_, ?_⟩
  · rw [← Bool.not_eq_true, Text.isDigit_iff]
    exact noDigit
  · rintro rfl
    exact noPoint rfl
  · rw [← Bool.not_eq_true, isQuote_iff]
    rintro (rfl | rfl)
    · exact noDouble rfl
    · exact noSingle rfl
  all_goals rintro rfl; contradiction

theorem Spells.ne_nil {shown : String} {decoded : Option Decoded}
    (spells : Spells next run shown decoded) : run ≠ [] := by
  cases spells with
  | punctuation => exact List.cons_ne_nil _ _
  | word => exact List.cons_ne_nil _ _
  | string => exact List.cons_ne_nil _ _
  | number numeral _ =>
    rintro rfl
    have read : Decimal.ofText? [] = some _ := numeral.read
    simp [show Decimal.ofText? [] = none by decide] at read

/-- A lexeme begins with a character that does not separate. -/
theorem Spells.head_not_isSpace {shown : String} {decoded : Option Decoded}
    (spells : Spells next (c :: part) shown decoded) : isSpace c = false := by
  rw [← Bool.not_eq_true, isSpace_iff]
  intro space
  generalize spelled : c :: part = text at spells
  cases spells with
  | punctuation which =>
    obtain ⟨rfl, -⟩ := List.cons.inj spelled
    rcases which with rfl | rfl | rfl <;> simp at space
  | word begins _ _ =>
    obtain ⟨rfl, -⟩ := List.cons.inj spelled
    rcases space with rfl | rfl | rfl | rfl | rfl | rfl <;> exact absurd begins (by decide)
  | number numeral _ =>
    subst spelled
    have begins := numeral_isNumberPart numeral c List.mem_cons_self
    rcases space with rfl | rfl | rfl | rfl | rfl | rfl <;> exact absurd begins (by decide)
  | string isQuote _ =>
    obtain ⟨rfl, -⟩ := List.cons.inj spelled
    rcases space with rfl | rfl | rfl | rfl | rfl | rfl <;> exact absurd isQuote (by decide)

/-! ### Reading a lexeme -/

/-- A lexeme is read with its text and its value, and nothing behind it is taken. -/
theorem lexeme_of_spells {shown : String} {decoded : Option Decoded}
    (spells : Spells tail.head? (c :: part) shown decoded) (offset : Nat) :
    ∃ event, lexeme offset c (part ++ tail) =
      .ok ⟨⟨shown, decoded, offset⟩, part.length, event⟩ := by
  generalize spelled : c :: part = text at spells
  cases spells with
  | punctuation which =>
    obtain ⟨rfl, rfl⟩ := List.cons.inj spelled
    refine ⟨none, ?_⟩
    rcases which with rfl | rfl | rfl <;> rfl
  | @word c part begins inside outside =>
    obtain ⟨rfl, rfl⟩ := List.cons.inj spelled
    obtain ⟨noDigit, noPoint, noQuote, noOpening, noClosing, noComma⟩ := isWordStart_only begins
    rw [lexeme, noDigit, noQuote, beq_false_of_ne noPoint, beq_false_of_ne noOpening,
      beq_false_of_ne noClosing, beq_false_of_ne noComma, begins, ofWord,
      Text.takeWhile_append_eq inside outside]
    exact ⟨_, rfl⟩
  | @number run d numeral outside =>
    subst spelled
    have inside : ∀ d ∈ part, isNumberPart d = true := by
      intro d member
      exact numeral_isNumberPart numeral d (List.mem_cons_of_mem c member)
    rw [lexeme, numeral_begins numeral tail, if_pos rfl, ofNumber,
      Text.takeWhile_append_eq inside outside, number_eq_ok_iff.mpr ⟨d, numeral, rfl, rfl⟩]
    exact ⟨_, rfl⟩
  | @string quote items meaning isQuote inside =>
    obtain ⟨rfl, rfl⟩ := List.cons.inj spelled
    have notEscape : c ≠ '\\' := by
      rcases isQuote_iff.mp isQuote with rfl | rfl <;> decide
    have noNumber : (c.isDigit || (c == '.' && (items ++ [c] ++ tail).head?.any Char.isDigit)) =
        false := by
      rcases isQuote_iff.mp isQuote with rfl | rfl <;> rfl
    have read : stringRest c offset [] false (offset + 1) (items ++ [c] ++ tail) =
        .ok (meaning, offset + 1 + items.length + 1) := by
      rw [List.append_assoc, List.singleton_append, stringRest_items notEscape inside tail]
      rfl
    have taken : offset + 1 + items.length + 1 - offset - 1 = (items ++ [c]).length := by
      rw [List.length_append, List.length_singleton]
      omega
    rw [lexeme, noNumber, isQuote, ofQuote, read, ← taken]
    exact ⟨_, rfl⟩

/-- The lexeme that was read begins with the character, takes the given number of characters behind
it, and leaves the rest of the text. -/
def IsRead (offset : Nat) (c : Char) (rest : List Char) (token : Token) (more : Nat) : Prop :=
  ∃ part tail, rest = part ++ tail ∧ part.length = more ∧ token.offset = offset ∧
    Spells tail.head? (c :: part) token.text token.decoded

variable {token : Token} {event : Option LogEvent}

theorem isRead_of_ofNumber (read : ofNumber offset c rest = .ok ⟨token, more, event⟩) :
    IsRead offset c rest token more := by
  unfold ofNumber at read
  dsimp only at read
  split at read
  case h_1 => simp at read
  case h_2 shown value spelled =>
    obtain ⟨rfl, rfl, -⟩ := Lexeme.mk.inj (Except.ok.inj read)
    obtain ⟨d, numeral, rfl, rfl⟩ := number_eq_ok_iff.mp spelled
    refine ⟨_, _, List.takeWhile_append_dropWhile.symm, rfl, rfl, ?_⟩
    exact .number numeral (Text.head?_dropWhile_any isNumberPart rest)

theorem isRead_of_ofQuote (begins : isQuote c = true)
    (read : ofQuote c offset rest = .ok ⟨token, more, event⟩) :
    IsRead offset c rest token more := by
  unfold ofQuote at read
  split at read
  case h_1 => simp at read
  case h_2 meaning behind scanned =>
    obtain ⟨rfl, rfl, -⟩ := Lexeme.mk.inj (Except.ok.inj read)
    obtain ⟨items, meaning, tail, rfl, inside, rfl, rfl⟩ := closesAt_of_stringRest scanned
    refine ⟨items ++ [c], tail, by simp, ?_, rfl, .string begins inside⟩
    rw [List.length_append, List.length_singleton]
    omega

theorem isRead_of_ofWord (begins : isWordStart c = true)
    (read : ofWord offset c rest = ⟨token, more, event⟩) : IsRead offset c rest token more := by
  obtain ⟨rfl, rfl, -⟩ := Lexeme.mk.inj read
  refine ⟨_, _, List.takeWhile_append_dropWhile.symm, rfl, rfl, ?_⟩
  apply Spells.word begins
  · intro d member
    exact List.mem_takeWhile_imp member
  · exact Text.head?_dropWhile_any isWordPart rest

/-- What was read as a lexeme is one, in front of the rest of the text. -/
theorem isRead_of_lexeme (read : lexeme offset c rest = .ok ⟨token, more, event⟩) :
    IsRead offset c rest token more := by
  unfold lexeme at read
  split at read
  case isTrue => exact isRead_of_ofNumber read
  case isFalse =>
    split at read
    case isTrue begins => exact isRead_of_ofQuote begins read
    case isFalse =>
      split at read
      case isTrue which =>
        obtain ⟨rfl, rfl, -⟩ := Lexeme.mk.inj (Except.ok.inj read)
        simp only [Bool.or_eq_true, beq_iff_eq, or_assoc] at which
        exact ⟨[], rest, rfl, rfl, rfl, .punctuation which⟩
      case isFalse =>
        split at read
        case isTrue begins => exact isRead_of_ofWord begins (Except.ok.inj read)
        case isFalse => simp at read

end LiteralLang.Lexeme
