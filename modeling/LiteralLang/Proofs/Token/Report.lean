import LiteralLang.Proofs.Token.Grammar

/-!
# Reports of tokens

What the scanner reports about a token is told by the token alone: a number, a string and a word
leave a record with its text and its offset, and a number its value, brackets and commas leave none.
-/

namespace LiteralLang

/-- The record of a token, unless it is a bracket or a comma. -/
def Token.event? (token : Token) : Option LogEvent :=
  match token.decoded with
  | some (.number value) => some (.numberToken token.text value token.offset)
  | some (.text _) => some (.stringToken token.text token.offset)
  | none =>
      if token.text ∈ ["[", "]", ","] then none else some (.wordToken token.text token.offset)

/-- Only brackets and commas leave no record. -/
theorem Token.event?_eq_none_iff {token : Token} : token.event? = none ↔
    token.symbol = .opening ∨ token.symbol = .closing ∨ token.symbol = .comma := by
  obtain ⟨text, decoded, offset⟩ := token
  cases decoded with
  | some decoded => cases decoded <;> simp [event?, symbol]
  | none =>
    by_cases opening : text = "["
    · simp [event?, symbol, Symbol.ofWord, opening]
    · by_cases closing : text = "]"
      · simp [event?, symbol, Symbol.ofWord, closing]
      · by_cases comma : text = ","
        · simp [event?, symbol, Symbol.ofWord, comma]
        · cases constant : Scalar.constant? text <;>
            simp [event?, symbol, Symbol.ofWord, opening, closing, comma, constant]

namespace Lexeme

variable {c : Char} {rest part : List Char} {offset more : Nat} {token : Token}
  {event : Option LogEvent}

theorem event_of_ofNumber (read : ofNumber offset c rest = .ok ⟨token, more, event⟩) :
    event = token.event? := by
  unfold ofNumber at read
  dsimp only at read
  split at read
  case h_1 => simp at read
  case h_2 =>
    obtain ⟨rfl, -, rfl⟩ := Lexeme.mk.inj (Except.ok.inj read)
    rfl

theorem event_of_ofQuote (read : ofQuote c offset rest = .ok ⟨token, more, event⟩) :
    event = token.event? := by
  unfold ofQuote at read
  split at read
  case h_1 => simp at read
  case h_2 =>
    obtain ⟨rfl, -, rfl⟩ := Lexeme.mk.inj (Except.ok.inj read)
    rfl

theorem event_of_punctuation (which : c = '[' ∨ c = ']' ∨ c = ',') :
    (⟨c.toString, none, offset⟩ : Token).event? = none := by
  rcases which with rfl | rfl | rfl <;> rfl

/-- A word is neither a bracket nor a comma. -/
theorem word_not_mark (begins : isWordStart c = true) (part : List Char) :
    String.ofList (c :: part) ∉ ["[", "]", ","] := by
  obtain ⟨-, -, -, noOpening, noClosing, noComma⟩ := isWordStart_only begins
  intro member
  simp only [List.mem_cons, List.not_mem_nil, or_false] at member
  rcases member with same | same | same
  all_goals
    have first := (List.cons.inj (String.ofList_injective same)).1
    contradiction

theorem event_of_ofWord (begins : isWordStart c = true)
    (read : ofWord offset c rest = ⟨token, more, event⟩) : event = token.event? := by
  obtain ⟨rfl, -, rfl⟩ := Lexeme.mk.inj read
  exact (if_neg (word_not_mark begins _)).symm

/-- What is reported with a lexeme is the record of its token. -/
theorem event_of_lexeme (read : lexeme offset c rest = .ok ⟨token, more, event⟩) :
    event = token.event? := by
  unfold lexeme at read
  split at read
  case isTrue => exact event_of_ofNumber read
  case isFalse =>
    split at read
    case isTrue => exact event_of_ofQuote read
    case isFalse =>
      split at read
      case isTrue which =>
        obtain ⟨rfl, -, rfl⟩ := Lexeme.mk.inj (Except.ok.inj read)
        simp only [Bool.or_eq_true, beq_iff_eq, or_assoc] at which
        exact (event_of_punctuation which).symm
      case isFalse =>
        split at read
        case isTrue begins => exact event_of_ofWord begins (Except.ok.inj read)
        case isFalse => simp at read

end Lexeme

end LiteralLang
