import Mathlib.Data.List.TakeWhile
import Mathlib.Data.String.Basic

/-!
# Classes of characters

The classes of ASCII by code points, what a fold to lower case does to them, the bytes that they
take, and when a class cuts a given run off a text.
-/

namespace LiteralLang.Text

variable {c d : Char}

/-! ### Code points -/

theorem isUpper_iff : c.isUpper = true ↔ 65 ≤ c.toNat ∧ c.toNat ≤ 90 := by
  change decide ('A'.val ≤ c.val ∧ c.val ≤ 'Z'.val) = true ↔ _
  rw [decide_eq_true_eq, UInt32.le_iff_toNat_le, UInt32.le_iff_toNat_le]
  exact Iff.rfl

theorem isLower_iff : c.isLower = true ↔ 97 ≤ c.toNat ∧ c.toNat ≤ 122 := by
  change (decide ('a'.val ≤ c.val) && decide (c.val ≤ 'z'.val)) = true ↔ _
  rw [Bool.and_eq_true, decide_eq_true_eq, decide_eq_true_eq, UInt32.le_iff_toNat_le,
    UInt32.le_iff_toNat_le]
  exact Iff.rfl

theorem isDigit_iff : c.isDigit = true ↔ 48 ≤ c.toNat ∧ c.toNat ≤ 57 := by
  change (decide ('0'.val ≤ c.val) && decide (c.val ≤ '9'.val)) = true ↔ _
  rw [Bool.and_eq_true, decide_eq_true_eq, decide_eq_true_eq, UInt32.le_iff_toNat_le,
    UInt32.le_iff_toNat_le]
  exact Iff.rfl

theorem isAlpha_iff : c.isAlpha = true ↔
    (65 ≤ c.toNat ∧ c.toNat ≤ 90) ∨ (97 ≤ c.toNat ∧ c.toNat ≤ 122) := by
  change (c.isUpper || c.isLower) = true ↔ _
  rw [Bool.or_eq_true, isUpper_iff, isLower_iff]

theorem isAlphanum_iff : c.isAlphanum = true ↔
    (48 ≤ c.toNat ∧ c.toNat ≤ 57) ∨ (65 ≤ c.toNat ∧ c.toNat ≤ 90) ∨
      (97 ≤ c.toNat ∧ c.toNat ≤ 122) := by
  change (c.isAlpha || c.isDigit) = true ↔ _
  rw [Bool.or_eq_true, isAlpha_iff, isDigit_iff]
  omega

theorem toNat_toLower (c : Char) :
    c.toLower.toNat = if 65 ≤ c.toNat ∧ c.toNat ≤ 90 then c.toNat + 32 else c.toNat := by
  have fold : c.toLower.toNat = if c.isUpper = true then c.toNat + 32 else c.toNat := by
    unfold Char.toLower
    split
    case isTrue upper =>
      have inUpper : c.isUpper = true := decide_eq_true upper
      have range := isUpper_iff.mp inUpper
      rw [if_pos inUpper]
      change (c.val + ('a'.val - 'A'.val)).toNat = c.toNat + 32
      rw [UInt32.toNat_add, show ('a'.val - 'A'.val).toNat = 32 by decide, Nat.mod_eq_of_lt]
      · rfl
      · change c.toNat + 32 < 2 ^ 32
        omega
    case isFalse other =>
      rw [if_neg (show ¬ c.isUpper = true from fun upper => other (of_decide_eq_true upper))]
  simp only [fold, isUpper_iff]

/-- A character that is no letter is the fold of itself only. -/
theorem toLower_eq_iff (noLetter : d.isAlpha = false) : c.toLower = d ↔ c = d := by
  rw [← Bool.not_eq_true, isAlpha_iff] at noLetter
  rw [← Char.toNat_inj, ← Char.toNat_inj, toNat_toLower]
  split <;> omega

theorem isDigit_toLower (c : Char) : c.toLower.isDigit = c.isDigit := by
  rw [Bool.eq_iff_iff, isDigit_iff, isDigit_iff, toNat_toLower]
  split <;> omega

theorem toLower_of_isDigit (digit : c.isDigit = true) : c.toLower = c := by
  rw [isDigit_iff] at digit
  rw [← Char.toNat_inj, toNat_toLower]
  split <;> omega

/-! ### Bytes -/

/-- A text of ASCII has as many bytes as characters. -/
theorem utf8ByteSize_eq_length {text : String} (ascii : ∀ c ∈ text.toList, c.toNat ≤ 0x7E) :
    text.utf8ByteSize = text.length := by
  rw [← String.utf8Len_toList, ← String.length_toList]
  generalize text.toList = chars at ascii ⊢
  induction chars with
  | nil => rfl
  | cons c chars ih =>
    rw [List.forall_mem_cons] at ascii
    have single : c.utf8Size = 1 := by
      rw [Char.utf8Size_eq_one_iff, UInt32.le_iff_toNat_le]
      exact Nat.le_succ_of_le ascii.1
    rw [String.utf8Len_cons, single, ih ascii.2, List.length_cons]

/-! ### Runs -/

variable {p : Char → Bool} {run rest : List Char}

/-- A run ends where the text behind it does not go on in the same class. -/
theorem takeWhile_append_eq (inside : ∀ c ∈ run, p c = true) (outside : rest.head?.any p = false) :
    (run ++ rest).takeWhile p = run := by
  rw [List.takeWhile_append_of_pos inside]
  cases rest with
  | nil => rw [List.takeWhile_nil, List.append_nil]
  | cons c rest =>
    rw [List.head?_cons, Option.any_some] at outside
    rw [List.takeWhile_cons_of_neg (by simp [outside]), List.append_nil]

theorem dropWhile_append_eq (inside : ∀ c ∈ run, p c = true) (outside : rest.head?.any p = false) :
    (run ++ rest).dropWhile p = rest := by
  rw [List.dropWhile_append_of_pos inside]
  cases rest with
  | nil => rfl
  | cons c rest =>
    rw [List.head?_cons, Option.any_some] at outside
    exact List.dropWhile_cons_of_neg (by simp [outside])

theorem head?_dropWhile_any (p : Char → Bool) (text : List Char) :
    (text.dropWhile p).head?.any p = false := by
  have stop := List.head?_dropWhile_not p text
  cases head : (text.dropWhile p).head? with
  | none => rfl
  | some c =>
    rw [head] at stop
    exact stop

end LiteralLang.Text
