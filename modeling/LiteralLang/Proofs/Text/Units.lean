import LiteralLang.Text.Hex
import LiteralLang.Text.Units

/-!
# Units and their digits

Four hexadecimal digits name a 16-bit unit and are read back as it.  `ofUnits?` puts characters
together from units, and it is the inverse of taking them apart by `units`.
-/

namespace LiteralLang.Text

/-! ### Hexadecimal digits -/

theorem hexDigit?_hexDigit {n : Nat} (small : n < 16) : hexDigit? (hexDigit n) = some n := by
  have all : ∀ n < 16, hexDigit? (hexDigit n) = some n := by decide
  exact all n small

theorem hexDigit?_lt {c : Char} {n : Nat} (read : hexDigit? c = some n) : n < 16 := by
  simp only [hexDigit?, Char.le_def, UInt32.le_iff_toNat_le, Char.toNat] at read
  have values : '0'.val.toNat = 48 ∧ '9'.val.toNat = 57 ∧ 'a'.val.toNat = 97 ∧
      'f'.val.toNat = 102 ∧ 'A'.val.toNat = 65 ∧ 'F'.val.toNat = 70 := by decide
  obtain ⟨zero, nine, a, f, A, F⟩ := values
  rw [zero, nine, a, f, A, F] at read
  split at read
  · injection read with read
    omega
  · split at read
    · injection read with read
      omega
    · split at read
      · injection read with read
        omega
      · exact absurd read (by simp)

/-- The digits of a unit name it. -/
theorem hexUnit?_hexUnit {unit : Nat} (small : unit < 0x10000) :
    hexUnit? (hexUnit unit) = some unit := by
  have first : unit / 4096 % 16 < 16 := Nat.mod_lt _ (by decide)
  have second : unit / 256 % 16 < 16 := Nat.mod_lt _ (by decide)
  have third : unit / 16 % 16 < 16 := Nat.mod_lt _ (by decide)
  have fourth : unit % 16 < 16 := Nat.mod_lt _ (by decide)
  simp only [hexUnit?, hexUnit, hexDigit?_hexDigit first, hexDigit?_hexDigit second,
    hexDigit?_hexDigit third, hexDigit?_hexDigit fourth, Option.bind_eq_bind, Option.bind_some]
  congr 1
  omega

theorem exists_digits_of_hexUnit? {text : List Char} {unit : Nat}
    (read : hexUnit? text = some unit) : ∃ a b c d, text = [a, b, c, d] ∧ unit < 0x10000 := by
  unfold hexUnit? at read
  split at read
  case h_1 a b c d =>
    simp only [Option.bind_eq_bind, Option.bind_eq_some_iff, Option.some.injEq] at read
    obtain ⟨first, firstRead, second, secondRead, third, thirdRead, fourth, fourthRead, rfl⟩ := read
    have := hexDigit?_lt firstRead
    have := hexDigit?_lt secondRead
    have := hexDigit?_lt thirdRead
    have := hexDigit?_lt fourthRead
    exact ⟨a, b, c, d, rfl, by omega⟩
  case h_2 => exact absurd read (by simp)

theorem length_of_hexUnit? {text : List Char} {unit : Nat} (read : hexUnit? text = some unit) :
    text.length = 4 := by
  obtain ⟨a, b, c, d, rfl, -⟩ := exists_digits_of_hexUnit? read
  rfl

/-- A hexadecimal digit of either case. -/
def IsHexDigit (c : Char) : Prop := ('0' ≤ c ∧ c ≤ '9') ∨ ('a' ≤ c ∧ c ≤ 'f') ∨ ('A' ≤ c ∧ c ≤ 'F')

theorem IsHexDigit.toNat_le {c : Char} (digit : IsHexDigit c) : c.toNat ≤ 102 := by
  simp only [IsHexDigit, Char.le_def, UInt32.le_iff_toNat_le] at digit
  have bounds : '9'.val.toNat = 57 ∧ 'f'.val.toNat = 102 ∧ 'F'.val.toNat = 70 := by decide
  obtain ⟨nine, f, F⟩ := bounds
  change c.val.toNat ≤ 102
  omega

/-- Exactly four hexadecimal digits. -/
def IsHexUnit (text : List Char) : Prop := text.length = 4 ∧ ∀ c ∈ text, IsHexDigit c

theorem exists_hexDigit?_iff {c : Char} : (∃ n, hexDigit? c = some n) ↔ IsHexDigit c := by
  unfold hexDigit? IsHexDigit
  split
  case isTrue decimal => simp [decimal]
  case isFalse noDecimal =>
    split
    case isTrue lower => simp [lower]
    case isFalse noLower =>
      split
      case isTrue upper => simp [upper]
      case isFalse noUpper => simp [noDecimal, noLower, noUpper]

/-- Four digits name a unit, and nothing else does. -/
theorem exists_hexUnit?_iff {text : List Char} : (∃ unit, hexUnit? text = some unit) ↔
    IsHexUnit text := by
  constructor
  · rintro ⟨unit, read⟩
    obtain ⟨a, b, c, d, rfl, -⟩ := exists_digits_of_hexUnit? read
    simp only [hexUnit?, Option.bind_eq_bind, Option.bind_eq_some_iff] at read
    obtain ⟨first, firstRead, second, secondRead, third, thirdRead, fourth, fourthRead, -⟩ := read
    refine ⟨rfl, ?_⟩
    simp only [List.forall_mem_cons, ← exists_hexDigit?_iff]
    exact ⟨⟨_, firstRead⟩, ⟨_, secondRead⟩, ⟨_, thirdRead⟩, ⟨_, fourthRead⟩, by simp⟩
  · rintro ⟨four, digits⟩
    match text, four with
    | [a, b, c, d], _ =>
      simp only [List.forall_mem_cons, ← exists_hexDigit?_iff] at digits
      obtain ⟨⟨first, firstRead⟩, ⟨second, secondRead⟩, ⟨third, thirdRead⟩,
        ⟨fourth, fourthRead⟩, -⟩ := digits
      simp [hexUnit?, firstRead, secondRead, thirdRead, fourthRead]

theorem hexUnit?_eq_none_iff {text : List Char} : hexUnit? text = none ↔ ¬ IsHexUnit text := by
  rw [← exists_hexUnit?_iff, Option.eq_none_iff_forall_ne_some, not_exists]

theorem toUpper_hexDigit {c : Char} {n : Nat} (read : hexDigit? c = some n) :
    (hexDigit n).toUpper = c.toUpper := by
  have all : ∀ k < 128, (hexDigit? (Char.ofNat k)).all fun n =>
      (hexDigit n).toUpper == (Char.ofNat k).toUpper := by decide +kernel
  have digit : IsHexDigit c := exists_hexDigit?_iff.mp ⟨n, read⟩
  have small : c.toNat < 128 := Nat.lt_of_le_of_lt digit.toNat_le (by decide)
  have same := all c.toNat small
  rwa [Char.ofNat_toNat, read, Option.all_some, beq_iff_eq] at same

/-- The digits of a unit are those that it was read from, in upper case. -/
theorem map_toUpper_hexUnit {text : List Char} {unit : Nat} (read : hexUnit? text = some unit) :
    (hexUnit unit).map Char.toUpper = text.map Char.toUpper := by
  obtain ⟨a, b, c, d, rfl, -⟩ := exists_digits_of_hexUnit? read
  simp only [hexUnit?, Option.bind_eq_bind, Option.bind_eq_some_iff, Option.some.injEq] at read
  obtain ⟨first, firstRead, second, secondRead, third, thirdRead, fourth, fourthRead, rfl⟩ := read
  have := hexDigit?_lt firstRead
  have := hexDigit?_lt secondRead
  have := hexDigit?_lt thirdRead
  have := hexDigit?_lt fourthRead
  have firstDigit : (first * 4096 + second * 256 + third * 16 + fourth) / 4096 % 16 = first := by
    omega
  have secondDigit : (first * 4096 + second * 256 + third * 16 + fourth) / 256 % 16 = second := by
    omega
  have thirdDigit : (first * 4096 + second * 256 + third * 16 + fourth) / 16 % 16 = third := by
    omega
  have fourthDigit : (first * 4096 + second * 256 + third * 16 + fourth) % 16 = fourth := by
    omega
  rw [hexUnit, firstDigit, secondDigit, thirdDigit, fourthDigit]
  simp only [List.map_cons, List.map_nil, toUpper_hexDigit firstRead, toUpper_hexDigit secondRead,
    toUpper_hexDigit thirdRead, toUpper_hexDigit fourthRead]

/-! ### Surrogates -/

theorem isHighSurrogate_iff {unit : Nat} :
    isHighSurrogate unit = true ↔ 0xD800 ≤ unit ∧ unit < 0xDC00 := by
  simp [isHighSurrogate]

theorem isLowSurrogate_iff {unit : Nat} :
    isLowSurrogate unit = true ↔ 0xDC00 ≤ unit ∧ unit < 0xE000 := by
  simp [isLowSurrogate]

/-- No character is a surrogate. -/
theorem toNat_ranges (c : Char) :
    c.toNat < 0xD800 ∨ (0xE000 ≤ c.toNat ∧ c.toNat < 0x110000) := by
  rcases c.valid with low | ⟨above, below⟩
  · exact Or.inl low
  · exact Or.inr ⟨by change 0xDFFF < c.toNat at above; omega, below⟩

theorem not_surrogate_toNat (c : Char) :
    isHighSurrogate c.toNat = false ∧ isLowSurrogate c.toNat = false := by
  have ranges := toNat_ranges c
  refine ⟨?_, ?_⟩ <;> rw [Bool.eq_false_iff]
  · rw [Ne, isHighSurrogate_iff]
    omega
  · rw [Ne, isLowSurrogate_iff]
    omega

/-- The units of a character beyond `0xFFFF` are a high and a low surrogate that stand for it. -/
theorem units_eq_pair {c : Char} (astral : ¬ c.toNat < 0x10000) :
    ∃ high low, units c = [high, low] ∧ isHighSurrogate high = true ∧ isLowSurrogate low = true ∧
      ofPair high low = c := by
  have ranges := toNat_ranges c
  refine ⟨_, _, by rw [units, if_neg astral], ?_, ?_, ?_⟩
  · rw [isHighSurrogate_iff]
    omega
  · rw [isLowSurrogate_iff]
    omega
  · have combined : 0x10000 + (0xD800 + (c.toNat - 0x10000) / 0x400 - 0xD800) * 0x400
        + (0xDC00 + (c.toNat - 0x10000) % 0x400 - 0xDC00) = c.toNat := by omega
    rw [ofPair, combined, Char.ofNat_toNat]

theorem units_eq_single {c : Char} (basic : c.toNat < 0x10000) : units c = [c.toNat] := by
  rw [units, if_pos basic]

/-! ### Putting characters together -/

/-- The characters of units: each surrogate has to stand in a pair. -/
def ofUnits? : List Nat → Option (List Char)
  | [] => some []
  | unit :: rest =>
      if isHighSurrogate unit then
        match rest with
        | low :: behind =>
            if isLowSurrogate low then (ofUnits? behind).map (ofPair unit low :: ·) else none
        | [] => none
      else if isLowSurrogate unit then none
      else (ofUnits? rest).map (Char.ofNat unit :: ·)

theorem ofUnits?_units_append (c : Char) (rest : List Nat) :
    ofUnits? (units c ++ rest) = (ofUnits? rest).map (c :: ·) := by
  by_cases basic : c.toNat < 0x10000
  · obtain ⟨high, low⟩ := not_surrogate_toNat c
    rw [units_eq_single basic, List.singleton_append, ofUnits?.eq_def]
    simp only [high, low, Char.ofNat_toNat, Bool.false_eq_true, if_false]
  · obtain ⟨high, low, pair, isHigh, isLow, same⟩ := units_eq_pair basic
    rw [pair, List.cons_append, List.singleton_append, ofUnits?, if_pos isHigh]
    simp only [if_pos isLow, same]

/-- Taking a text apart into units loses nothing. -/
theorem ofUnits?_flatMap_units (text : List Char) : ofUnits? (text.flatMap units) = some text := by
  induction text with
  | nil => rfl
  | cons c rest ih => rw [List.flatMap_cons, ofUnits?_units_append, ih, Option.map_some]

end LiteralLang.Text
