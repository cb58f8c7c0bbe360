import LiteralLang.Proofs.Binary64.Nearest
import LiteralLang.Proofs.Token.Scan

/-!
# Number literals

A number token stands where the source has a number literal, and its value is the binary64 number
that the decimal spelled there is rounded to.  So the value depends on the rational alone, however
it is spelled, and follows its order.
-/

namespace LiteralLang

open Binary64 (IsNearest)
open Lexeme (Spells isNumberPart)
open Scan (Reads)

/-- At the offset the text has a number literal, which ends where no character continues a number,
and the literal spells the decimal. -/
inductive LiteralAt : (text : List Char) → (offset : Nat) → Decimal → Prop
  | intro {front literal behind d} : Numeral literal d → behind.head?.any isNumberPart = false →
      LiteralAt (front ++ (literal ++ behind)) front.length d

variable {text rest : List Char} {offset behind : Nat} {tokens : List Token} {token : Token}
  {d e : Decimal} {x : Binary64} {source : String}

/-- The literal is all of the number characters that begin at the offset. -/
theorem LiteralAt.numeral (literal : LiteralAt text offset d) :
    Numeral ((text.drop offset).takeWhile isNumberPart) d := by
  obtain ⟨numeral, outside⟩ := literal
  rw [List.drop_left,
    Text.takeWhile_append_eq (Lexeme.numeral_isNumberPart numeral) outside]
  exact numeral

/-- There is one decimal at most that a text spells at an offset. -/
theorem LiteralAt.unique (literal : LiteralAt text offset d) (other : LiteralAt text offset e) :
    d = e :=
  literal.numeral.unique other.numeral

/-- Every token of a run was cut from a lexeme at its offset. -/
theorem Scan.Reads.exists_spells_of_mem (run : Reads offset text tokens behind rest)
    (member : token ∈ tokens) :
    ∃ front lexeme after, text = front ++ (lexeme ++ after) ∧
      token.offset = offset + front.length ∧
      Spells after.head? lexeme token.text token.decoded := by
  induction run with
  | done => simp at member
  | @blank offset c text tokens behind rest _ _ ih =>
    obtain ⟨front, lexeme, after, rfl, place, spells⟩ := ih member
    refine ⟨c :: front, lexeme, after, rfl, ?_, spells⟩
    rw [place, List.length_cons]
    omega
  | @lexeme offset c part tail shown decoded tokens behind rest spells _ ih =>
    rcases List.mem_cons.mp member with rfl | later
    · exact ⟨[], c :: part, tail, rfl, rfl, spells⟩
    · obtain ⟨front, lexeme, after, rfl, place, spells⟩ := ih later
      refine ⟨c :: part ++ front, lexeme, after, by simp, ?_, spells⟩
      rw [place, List.length_append, List.length_cons]
      omega

/-- Where an accepted source has a number token it has a number literal, and the token has the value
that the decimal of the literal is rounded to. -/
theorem exists_literalAt (read : tokenize source = .ok tokens) (member : token ∈ tokens)
    (number : token.decoded = some (.number x)) :
    ∃ d, LiteralAt source.toList token.offset d ∧ x = d.nearest := by
  obtain ⟨behind, run⟩ := Scan.tokenize_eq_ok_iff_reads.mp read
  obtain ⟨front, lexeme, after, whole, place, spells⟩ := run.exists_spells_of_mem member
  rw [number] at spells
  generalize shown : token.text = text at spells
  cases spells with
  | @number _ d numeral outside =>
    refine ⟨d, ?_, rfl⟩
    rw [whole, place, Nat.zero_add]
    exact .intro numeral outside

/-- A number token stands where the source has one literal, and has the value that is nearest to the
decimal spelled there, with ties to the even significand: infinity from the threshold on, zero up to
half of the least positive number, and never a negative number or NaN.  Number tokens whose literals
spell the same rational have the same value, in one source or in two, and a smaller rational has no
greater value. -/
theorem tokenize_number_nearest (read : tokenize source = .ok tokens) (member : token ∈ tokens)
    (number : token.decoded = some (.number x)) :
    ∃ d, (∀ e, LiteralAt source.toList token.offset e ↔ e = d) ∧
      IsNearest d.toRat x ∧
      (x = .infinity ↔ 2 ^ 1024 - 2 ^ 970 ≤ d.toRat) ∧
      (x = .zero ↔ d.toRat ≤ 2 ^ (-1075 : ℤ)) ∧
      x.negative = false ∧ x.isNaN = false ∧
      ∀ (source' : String) (tokens' : List Token) (token' : Token) (y : Binary64) (e : Decimal),
        tokenize source' = .ok tokens' → token' ∈ tokens' →
        token'.decoded = some (.number y) → LiteralAt source'.toList token'.offset e →
        (d.toRat = e.toRat → x = y) ∧
        (d.toRat ≤ e.toRat → y.isFinite = true → x.isFinite = true ∧ x.toRat ≤ y.toRat) := by
  obtain ⟨d, literal, rfl⟩ := exists_literalAt read member number
  have nearest := d.isNearest_nearest
  have nonneg := d.toRat_nonneg
  have spelled (e : Decimal) : LiteralAt source.toList token.offset e ↔ e = d := by
    constructor
    · intro other
      exact other.unique literal
    · rintro rfl
      exact literal
  refine ⟨d, spelled, nearest, nearest.eq_infinity_iff nonneg, nearest.eq_zero_iff nonneg,
    d.nearest_negative, nearest.number, ?_⟩
  intro source' tokens' token' y e read' member' number' literal'
  obtain ⟨e', other, rfl⟩ := exists_literalAt read' member' number'
  obtain rfl := literal'.unique other
  have nearest' := e.isNearest_nearest
  constructor
  · intro same
    rw [same] at nearest
    exact nearest.unique nearest'
  · intro less finite
    exact nearest.monotone nearest' nonneg less finite

/-- One half without a digit in front of its point, and a literal beyond the greatest number. -/
theorem tokenize_number_nearest_half_and_infinity :
    ∃ d e, LiteralAt "[.5,1E+400]".toList 1 d ∧
      IsNearest d.toRat ⟨false, 0x3fe0000000000000, by decide⟩ ∧
      LiteralAt "[.5,1E+400]".toList 4 e ∧ (2 : ℚ) ^ 1024 - 2 ^ 970 ≤ e.toRat := by
  have read : tokenize "[.5,1E+400]" = .ok
      [⟨"[", none, 0⟩, ⟨".5", some (.number ⟨false, 0x3fe0000000000000, by decide⟩), 1⟩,
        ⟨",", none, 3⟩, ⟨"1e+400", some (.number .infinity), 4⟩, ⟨"]", none, 10⟩] := by
    decide +kernel
  obtain ⟨d, half, nearest, _⟩ := tokenize_number_nearest read
    (List.mem_cons_of_mem _ List.mem_cons_self) rfl
  obtain ⟨e, great, _, overflow, _⟩ := tokenize_number_nearest read
    (List.mem_cons_of_mem _ (List.mem_cons_of_mem _ (List.mem_cons_of_mem _ List.mem_cons_self)))
    rfl
  exact ⟨d, e, (half d).mpr rfl, nearest, (great e).mpr rfl, overflow.mp rfl⟩

end LiteralLang
