import LiteralLang.Decimal
import LiteralLang.Proofs.Text.Classes

/-!
# Numerals

The grammar of number text: a mantissa, which is digits with at most one point among or before them,
and an optional exponent part, which is a mark of either case, an optional sign and digits.
`Numeral` relates a text of this shape to the decimal that it spells, and `Decimal.ofText?` decides
exactly this relation on the lower-case text.
-/

namespace LiteralLang

/-- Nothing but digits. -/
def AllDigits (text : List Char) : Prop := ∀ c ∈ text, c.isDigit = true

/-- Mantissas, by the digits in front of the point and behind it. -/
inductive Mantissa : (whole fraction text : List Char) → Prop
  /-- Digits without a point. -/
  | integer {whole} : whole ≠ [] → AllDigits whole → Mantissa whole [] whole
  /-- Digits with a point among or behind them. -/
  | pointed {whole fraction} : whole ≠ [] → AllDigits whole → AllDigits fraction →
      Mantissa whole fraction (whole ++ '.' :: fraction)
  /-- A point with digits behind it. -/
  | leading {fraction} : fraction ≠ [] → AllDigits fraction →
      Mantissa [] fraction ('.' :: fraction)

/-- Exponent parts, by the exponent. -/
inductive ExponentPart : (exponent : Int) → (text : List Char) → Prop
  | absent : ExponentPart 0 []
  | unsigned {mark digits} : mark = 'e' ∨ mark = 'E' → digits ≠ [] → AllDigits digits →
      ExponentPart (Decimal.digitsValue digits) (mark :: digits)
  | positive {mark digits} : mark = 'e' ∨ mark = 'E' → digits ≠ [] → AllDigits digits →
      ExponentPart (Decimal.digitsValue digits) (mark :: '+' :: digits)
  | negative {mark digits} : mark = 'e' ∨ mark = 'E' → digits ≠ [] → AllDigits digits →
      ExponentPart (-Decimal.digitsValue digits) (mark :: '-' :: digits)

/-- The text spells the decimal. -/
inductive Numeral : (text : List Char) → Decimal → Prop
  | intro {whole fraction mantissa exponent part} : Mantissa whole fraction mantissa →
      ExponentPart exponent part →
      Numeral (mantissa ++ part)
        ⟨Decimal.digitsValue (whole ++ fraction), exponent - fraction.length⟩

variable {text digits whole fraction mantissa part : List Char} {exponent : Int} {d : Decimal}

/-! ### Digits -/

theorem AllDigits.map_toLower (all : AllDigits digits) : digits.map Char.toLower = digits := by
  rw [List.map_congr_left fun c mem => Text.toLower_of_isDigit (all c mem)]
  exact List.map_id digits

theorem digits?_eq_some_iff {n : Nat} :
    Decimal.digits? text = some n ↔
      text ≠ [] ∧ AllDigits text ∧ Decimal.digitsValue text = n := by
  unfold Decimal.digits?
  split
  case isTrue both =>
    rw [Option.some.injEq]
    constructor
    · intro value
      exact ⟨both.1, List.all_eq_true.mp both.2, value⟩
    · rintro ⟨-, -, value⟩
      exact value
  case isFalse other =>
    constructor
    · intro absurdity
      simp at absurdity
    · rintro ⟨nonempty, all, -⟩
      exact absurd ⟨nonempty, List.all_eq_true.mpr all⟩ other

/-- Digits of the lower-case text are digits of the text. -/
theorem digits?_map_toLower (text : List Char) :
    Decimal.digits? (text.map Char.toLower) = Decimal.digits? text := by
  have same : (text.map Char.toLower).all Char.isDigit = text.all Char.isDigit := by
    rw [List.all_map]
    exact congrArg (text.all ·) (funext Text.isDigit_toLower)
  unfold Decimal.digits?
  by_cases both : text ≠ [] ∧ text.all Char.isDigit = true
  · rw [if_pos both, if_pos ⟨by simpa using both.1, same.trans both.2⟩,
      AllDigits.map_toLower (List.all_eq_true.mp both.2)]
  · rw [if_neg both, if_neg]
    rintro ⟨nonempty, digits⟩
    exact both ⟨by simpa using nonempty, same.symm.trans digits⟩

/-! ### Exponent parts -/

theorem toLower_eq_mark_iff {c : Char} : c.toLower = 'e' ↔ c = 'e' ∨ c = 'E' := by
  rw [← Char.toNat_inj, ← Char.toNat_inj, ← Char.toNat_inj, Text.toNat_toLower]
  have points : 'e'.toNat = 101 ∧ 'E'.toNat = 69 := by decide
  rw [points.1, points.2]
  split <;> omega

theorem map_digits?_eq_some_iff {value : Nat → Int} :
    (Decimal.digits? (text.map Char.toLower)).map value = some exponent ↔
      text ≠ [] ∧ AllDigits text ∧ value (Decimal.digitsValue text) = exponent := by
  rw [digits?_map_toLower, Option.map_eq_some_iff]
  constructor
  · rintro ⟨n, read, rfl⟩
    obtain ⟨nonempty, all, rfl⟩ := digits?_eq_some_iff.mp read
    exact ⟨nonempty, all, rfl⟩
  · rintro ⟨nonempty, all, rfl⟩
    exact ⟨_, digits?_eq_some_iff.mpr ⟨nonempty, all, rfl⟩, rfl⟩

/-- What was read as an exponent part is one, of either case. -/
theorem exponentPart_of_exponentPart?
    (read : Decimal.exponentPart? (text.map Char.toLower) = some exponent) :
    ExponentPart exponent text := by
  unfold Decimal.exponentPart? at read
  split at read
  case h_1 empty =>
    obtain rfl := List.map_eq_nil_iff.mp empty
    obtain rfl := Option.some.inj read
    exact .absent
  case h_2 shape =>
    obtain ⟨mark, rest, rfl, markLower, shape⟩ := List.map_eq_cons_iff.mp shape
    obtain ⟨sign, digits, rfl, signLower, rfl⟩ := List.map_eq_cons_iff.mp shape
    obtain rfl := (Text.toLower_eq_iff (by decide)).mp signLower
    obtain ⟨nonempty, all, rfl⟩ := map_digits?_eq_some_iff.mp read
    exact .positive (toLower_eq_mark_iff.mp markLower) nonempty all
  case h_3 shape =>
    obtain ⟨mark, rest, rfl, markLower, shape⟩ := List.map_eq_cons_iff.mp shape
    obtain ⟨sign, digits, rfl, signLower, rfl⟩ := List.map_eq_cons_iff.mp shape
    obtain rfl := (Text.toLower_eq_iff (by decide)).mp signLower
    obtain ⟨nonempty, all, rfl⟩ := map_digits?_eq_some_iff.mp read
    exact .negative (toLower_eq_mark_iff.mp markLower) nonempty all
  case h_4 shape =>
    obtain ⟨mark, digits, rfl, markLower, rfl⟩ := List.map_eq_cons_iff.mp shape
    obtain ⟨nonempty, all, rfl⟩ := map_digits?_eq_some_iff.mp read
    exact .unsigned (toLower_eq_mark_iff.mp markLower) nonempty all
  case h_5 => simp at read

/-- An exponent part is read as its exponent. -/
theorem ExponentPart.read (shape : ExponentPart exponent text) :
    Decimal.exponentPart? (text.map Char.toLower) = some exponent := by
  cases shape with
  | absent => rfl
  | @unsigned mark digits isMark nonempty all =>
    have read := digits?_eq_some_iff.mpr ⟨nonempty, all, rfl⟩
    rw [List.map_cons, toLower_eq_mark_iff.mpr isMark, all.map_toLower]
    obtain ⟨first, rest, rfl⟩ := List.exists_cons_of_ne_nil nonempty
    have digit : first.isDigit = true := all first List.mem_cons_self
    rw [Decimal.exponentPart?, read]
    · rfl
    · intro tail same
      obtain ⟨rfl, -⟩ := List.cons.inj same
      exact absurd digit (by decide)
    · intro tail same
      obtain ⟨rfl, -⟩ := List.cons.inj same
      exact absurd digit (by decide)
  | @positive mark digits isMark nonempty all =>
    have read := digits?_eq_some_iff.mpr ⟨nonempty, all, rfl⟩
    rw [List.map_cons, List.map_cons, toLower_eq_mark_iff.mpr isMark, all.map_toLower,
      (Text.toLower_eq_iff (by decide)).mpr rfl, Decimal.exponentPart?, read]
    rfl
  | @negative mark digits isMark nonempty all =>
    have read := digits?_eq_some_iff.mpr ⟨nonempty, all, rfl⟩
    rw [List.map_cons, List.map_cons, toLower_eq_mark_iff.mpr isMark, all.map_toLower,
      (Text.toLower_eq_iff (by decide)).mpr rfl, Decimal.exponentPart?, read]
    rfl

/-- An exponent part begins with its mark. -/
theorem ExponentPart.head?_isDigit (shape : ExponentPart exponent part) :
    part.head?.any Char.isDigit = false := by
  cases shape with
  | absent => rfl
  | unsigned isMark | positive isMark | negative isMark =>
    rcases isMark with rfl | rfl <;> rfl

theorem ExponentPart.head?_ne_point (shape : ExponentPart exponent part) :
    part.head? ≠ some '.' := by
  cases shape with
  | absent => simp
  | unsigned isMark | positive isMark | negative isMark =>
    rcases isMark with rfl | rfl <;> simp

/-! ### Numerals -/

theorem Numeral.absent_exponent (shape : Mantissa whole fraction mantissa) :
    Numeral mantissa ⟨Decimal.digitsValue (whole ++ fraction), -fraction.length⟩ := by
  have numeral := Numeral.intro shape .absent
  rwa [List.append_nil, Int.zero_sub] at numeral

/-- The digits in front of a point or an exponent part, and the text from there on. -/
theorem takeWhile_isDigit_append (all : AllDigits whole) (text : List Char)
    (stop : text.head?.any Char.isDigit = false) :
    (whole ++ text).takeWhile Char.isDigit = whole ∧
      (whole ++ text).dropWhile Char.isDigit = text :=
  ⟨Text.takeWhile_append_eq all stop, Text.dropWhile_append_eq all stop⟩

theorem allDigits_takeWhile (text : List Char) : AllDigits (text.takeWhile Char.isDigit) := by
  intro c member
  exact List.mem_takeWhile_imp member

theorem map_toLower_takeWhile (text : List Char) :
    (text.map Char.toLower).takeWhile Char.isDigit = text.takeWhile Char.isDigit := by
  rw [List.takeWhile_map, show Char.isDigit ∘ Char.toLower = Char.isDigit from
    funext Text.isDigit_toLower, (allDigits_takeWhile text).map_toLower]

theorem map_toLower_dropWhile (text : List Char) :
    (text.map Char.toLower).dropWhile Char.isDigit =
      (text.dropWhile Char.isDigit).map Char.toLower := by
  rw [List.dropWhile_map, show Char.isDigit ∘ Char.toLower = Char.isDigit from
    funext Text.isDigit_toLower]

/-- What `ofText?` makes of the text behind the digits at the front. -/
theorem ofText?_eq_of_dropWhile (text : List Char) {fraction rest : List Char}
    (split : (text.dropWhile Char.isDigit = '.' :: (fraction ++ rest) ∧ AllDigits fraction ∧
        rest.head?.any Char.isDigit = false) ∨
      (text.dropWhile Char.isDigit = rest ∧ fraction = [] ∧ rest.head? ≠ some '.')) :
    Decimal.ofText? (text.map Char.toLower) =
      if text.takeWhile Char.isDigit = [] ∧ fraction = [] then none
      else (Decimal.exponentPart? (rest.map Char.toLower)).map fun exponent =>
        ⟨Decimal.digitsValue (text.takeWhile Char.isDigit ++ fraction),
          exponent - fraction.length⟩ := by
  unfold Decimal.ofText?
  rw [map_toLower_dropWhile, map_toLower_takeWhile]
  rcases split with ⟨behind, all, stop⟩ | ⟨behind, rfl, noPoint⟩
  · obtain ⟨front, back⟩ := takeWhile_isDigit_append all _ stop
    rw [behind, List.map_cons, (Text.toLower_eq_iff (by decide)).mpr rfl]
    simp only [map_toLower_takeWhile, map_toLower_dropWhile, front, back, Bool.and_eq_true,
      List.isEmpty_iff]
  · rw [behind]
    cases rest with
    | nil => simp only [List.map_nil, Bool.and_eq_true, List.isEmpty_iff]
    | cons c rest =>
      have noPointFold : c.toLower ≠ '.' := by
        rw [Ne, Text.toLower_eq_iff (by decide)]
        simpa using noPoint
      rw [List.map_cons]
      split
      next parts =>
        split at parts
        case h_1 shape => exact absurd (List.cons.inj shape).1 noPointFold
        case h_2 =>
          obtain ⟨rfl, rfl⟩ := Prod.mk.inj parts
          simp only [Bool.and_eq_true, List.isEmpty_iff]

/-- What was read as a decimal is a numeral, of either case. -/
theorem numeral_of_ofText? (read : Decimal.ofText? (text.map Char.toLower) = some d) :
    Numeral text d := by
  have whole := allDigits_takeWhile text
  have parts : text.takeWhile Char.isDigit ++ text.dropWhile Char.isDigit = text :=
    List.takeWhile_append_dropWhile
  by_cases point : (text.dropWhile Char.isDigit).head? = some '.'
  · obtain ⟨tail, behind⟩ := List.head?_eq_some_iff.mp point
    have tailParts : tail.takeWhile Char.isDigit ++ tail.dropWhile Char.isDigit = tail :=
      List.takeWhile_append_dropWhile
    rw [ofText?_eq_of_dropWhile text (Or.inl ⟨tailParts ▸ behind, allDigits_takeWhile tail,
      Text.head?_dropWhile_any _ _⟩)] at read
    split at read
    case isTrue => simp at read
    case isFalse someDigit =>
      obtain ⟨exponent, exponentRead, rfl⟩ := Option.map_eq_some_iff.mp read
      have mantissaShape : Mantissa (text.takeWhile Char.isDigit) (tail.takeWhile Char.isDigit)
          (text.takeWhile Char.isDigit ++ '.' :: tail.takeWhile Char.isDigit) := by
        by_cases empty : text.takeWhile Char.isDigit = []
        · have fraction : tail.takeWhile Char.isDigit ≠ [] := by
            intro none
            exact someDigit ⟨empty, none⟩
          rw [empty, List.nil_append]
          exact .leading fraction (allDigits_takeWhile tail)
        · exact .pointed empty whole (allDigits_takeWhile tail)
      have numeral := Numeral.intro mantissaShape (exponentPart_of_exponentPart? exponentRead)
      rwa [List.append_assoc, List.cons_append, tailParts, ← behind, parts] at numeral
  · rw [ofText?_eq_of_dropWhile text (Or.inr ⟨rfl, rfl, point⟩)] at read
    split at read
    case isTrue => simp at read
    case isFalse someDigit =>
      obtain ⟨exponent, exponentRead, rfl⟩ := Option.map_eq_some_iff.mp read
      have nonempty : text.takeWhile Char.isDigit ≠ [] := by
        intro none
        exact someDigit ⟨none, rfl⟩
      have numeral := Numeral.intro (.integer nonempty whole)
        (exponentPart_of_exponentPart? exponentRead)
      rwa [parts] at numeral

/-- A numeral is read as its decimal. -/
theorem Numeral.read (numeral : Numeral text d) :
    Decimal.ofText? (text.map Char.toLower) = some d := by
  obtain @⟨whole, fraction, mantissa, exponent, part, mantissaShape, exponentShape⟩ := numeral
  have stop := exponentShape.head?_isDigit
  cases mantissaShape with
  | integer nonempty all =>
    obtain ⟨front, back⟩ := takeWhile_isDigit_append all _ stop
    rw [ofText?_eq_of_dropWhile _ (Or.inr ⟨back, rfl, exponentShape.head?_ne_point⟩), front,
      if_neg (by simp [nonempty]), exponentShape.read]
    rfl
  | pointed nonempty all allBehind =>
    rw [List.append_assoc, List.cons_append]
    obtain ⟨front, back⟩ := takeWhile_isDigit_append all ('.' :: (fraction ++ part)) (by rfl)
    rw [ofText?_eq_of_dropWhile _ (Or.inl ⟨back, allBehind, stop⟩), front,
      if_neg (by simp [nonempty]), exponentShape.read]
    rfl
  | leading nonempty all =>
    have none : AllDigits [] := by
      intro c member
      simp at member
    obtain ⟨front, back⟩ := takeWhile_isDigit_append none ('.' :: (fraction ++ part)) (by rfl)
    rw [List.nil_append] at front back
    rw [List.cons_append, ofText?_eq_of_dropWhile _ (Or.inl ⟨back, all, stop⟩), front,
      if_neg (by simp [nonempty]), exponentShape.read]
    rfl

/-- A text spells one decimal at most. -/
theorem Numeral.unique {e : Decimal} (numeral : Numeral text d) (other : Numeral text e) : d = e :=
  Option.some.inj (numeral.read.symm.trans other.read)

end LiteralLang
