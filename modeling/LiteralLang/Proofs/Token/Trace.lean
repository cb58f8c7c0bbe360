import LiteralLang.Proofs.Binary64.Nearest
import LiteralLang.Proofs.Binary64.Text
import LiteralLang.Proofs.Text.Quoted
import LiteralLang.Proofs.Token.Scan

/-!
# Traces of tokens

The record that a number, a string and a word leave, word for word.  It tells the token: its kind,
its text, its offset and the value of a number can be read off the sentence, so different tokens
leave different records.
-/

namespace LiteralLang

open Lexeme (Spells)
open Scan (Reads)

/-- What is written of an event: how important it is, who reports it, and the sentence. -/
structure LogRecord where
  level : LogLevel
  target : String
  message : String

def LogEvent.record (event : LogEvent) : LogRecord := ⟨event.level, event.target, event.message⟩

/-- The record of a number, a string and a word. -/
inductive Trace : Token → LogRecord → Prop
  | number {text value offset} : value.isNaN = false →
      Trace ⟨text, some (.number value), offset⟩ ⟨.trace, "litexpr_core::lexer",
        "number token " ++ Text.quoted text ++ " = " ++ value.displayText ++ " at " ++ offset.repr⟩
  | string {text offset} :
      Trace ⟨text, some (.text text), offset⟩ ⟨.trace, "litexpr_core::lexer",
        "string token " ++ Text.quoted text ++ " at " ++ offset.repr⟩
  | word {text offset} : text ∉ ["[", "]", ","] →
      Trace ⟨text, none, offset⟩ ⟨.trace, "litexpr_core::lexer",
        "identifier token " ++ Text.quoted text ++ " at " ++ offset.repr⟩

/-- The traces of tokens, in their order.  Brackets and commas leave none. -/
inductive Traces : List Token → List LogRecord → Prop
  | nil : Traces [] []
  | mark {token tokens records} :
      token.symbol = .opening ∨ token.symbol = .closing ∨ token.symbol = .comma →
      Traces tokens records → Traces (token :: tokens) records
  | trace {token tokens record records} : Trace token record → Traces tokens records →
      Traces (token :: tokens) (record :: records)

variable {token token' : Token} {record record' : LogRecord} {tokens : List Token}
  {lexeme text rest : List Char} {next : Option Char} {offset behind : Nat}

/-! ### Sentences -/

/-- The end of the sentence tells the text and the offset. -/
theorem placed_inj {text text' : String} {offset offset' : Nat}
    (same : (Text.quoted text).toList ++ (" at ".toList ++ offset.repr.toList) =
      (Text.quoted text').toList ++ (" at ".toList ++ offset'.repr.toList)) :
    text = text' ∧ offset = offset' := by
  obtain ⟨rfl, behind⟩ := Text.quoted_append_inj same
  exact ⟨rfl, Text.repr_injective (String.toList_inj.mp (List.append_cancel_left behind))⟩

/-- A number is told between the text and the offset. -/
theorem valued_inj {text text' : String} {value value' : Binary64} {offset offset' : Nat}
    (number : value.isNaN = false) (number' : value'.isNaN = false)
    (same : (Text.quoted text).toList ++ (" = ".toList ++
        (value.displayText.toList ++ (" at ".toList ++ offset.repr.toList))) =
      (Text.quoted text').toList ++ (" = ".toList ++
        (value'.displayText.toList ++ (" at ".toList ++ offset'.repr.toList)))) :
    text = text' ∧ value = value' ∧ offset = offset' := by
  obtain ⟨rfl, behind⟩ := Text.quoted_append_inj same
  have told := List.append_cancel_left behind
  -- the first blank ends the number
  have unbroken (x : Binary64) : ∀ c ∈ x.displayText.toList, (c != ' ') = true := by
    intro c member
    rw [bne_iff_ne]
    rintro rfl
    exact x.blank_not_mem_displayText member
  have front := congrArg (List.takeWhile (· != ' ')) told
  rw [Text.takeWhile_append_eq (unbroken value) rfl,
    Text.takeWhile_append_eq (unbroken value') rfl, String.toList_inj] at front
  obtain rfl := Binary64.displayText_inj number number' front
  have back := List.append_cancel_left (List.append_cancel_left told)
  exact ⟨rfl, rfl, Text.repr_injective (String.toList_inj.mp back)⟩

/-- A trace tells its token. -/
theorem Trace.token_eq (trace : Trace token record) (trace' : Trace token' record) :
    token = token' := by
  generalize same : record = record' at trace'
  have told : record.message.toList = record'.message.toList := by rw [same]
  -- tokens of different kinds differ in the first letter of the sentence
  cases trace with
  | number number =>
    cases trace' with
    | number number' =>
      simp only [String.toList_append, List.append_assoc] at told
      obtain ⟨rfl, rfl, rfl⟩ := valued_inj number number' (List.append_cancel_left told)
      rfl
    | string | word =>
      simp only [String.toList_append, List.append_assoc] at told
      exact absurd (List.cons.inj told).1 (by decide)
  | string =>
    cases trace' with
    | string =>
      simp only [String.toList_append, List.append_assoc] at told
      obtain ⟨rfl, rfl⟩ := placed_inj (List.append_cancel_left told)
      rfl
    | number | word =>
      simp only [String.toList_append, List.append_assoc] at told
      exact absurd (List.cons.inj told).1 (by decide)
  | word =>
    cases trace' with
    | word =>
      simp only [String.toList_append, List.append_assoc] at told
      obtain ⟨rfl, rfl⟩ := placed_inj (List.append_cancel_left told)
      rfl
    | number | string =>
      simp only [String.toList_append, List.append_assoc] at told
      exact absurd (List.cons.inj told).1 (by decide)

/-! ### Traces of a run -/

theorem Traces.level_eq {records : List LogRecord} (left : Traces tokens records)
    (member : record ∈ records) : record.level = .trace := by
  induction left with
  | nil => exact absurd member List.not_mem_nil
  | mark _ _ ih => exact ih member
  | trace trace _ ih =>
    rcases List.mem_cons.mp member with rfl | later
    · cases trace <;> rfl
    · exact ih later

/-- A token leaves its trace, or none if it is a bracket or a comma. -/
theorem trace_of_spells (spells : Spells next lexeme token.text token.decoded) :
    (token.symbol = .opening ∨ token.symbol = .closing ∨ token.symbol = .comma) ∧
        token.event? = none ∨
      ∃ event, token.event? = some event ∧ Trace token event.record := by
  obtain ⟨shown, decoded, offset⟩ := token
  cases spells with
  | punctuation which =>
    have silent : (⟨String.ofList [_], none, offset⟩ : Token).event? = none :=
      Lexeme.event_of_punctuation which
    exact Or.inl ⟨Token.event?_eq_none_iff.mp silent, silent⟩
  | @word _ part begins =>
    have noMark := Lexeme.word_not_mark begins part
    exact Or.inr ⟨_, if_neg noMark, .word noMark⟩
  | @number _ d _ _ => exact Or.inr ⟨_, rfl, .number (Decimal.isNearest_nearest d).number⟩
  | string _ _ => exact Or.inr ⟨_, rfl, .string⟩

/-- The records of the tokens of a run are their traces. -/
theorem Scan.Reads.traces (run : Reads offset text tokens behind rest) :
    Traces tokens ((tokens.filterMap Token.event?).map LogEvent.record) := by
  induction run with
  | done => exact .nil
  | blank _ _ ih => exact ih
  | @lexeme offset c part tail shown decoded tokens behind rest spells _ ih =>
    have left : Spells tail.head? (c :: part) (Token.mk shown decoded offset).text
      (Token.mk shown decoded offset).decoded := spells
    rcases trace_of_spells left with ⟨mark, silent⟩ | ⟨event, told, trace⟩
    · rw [List.filterMap_cons_none silent]
      exact .mark mark ih
    · rw [List.filterMap_cons_some told, List.map_cons]
      exact .trace trace ih

end LiteralLang
