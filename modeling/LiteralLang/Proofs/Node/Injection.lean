import LiteralLang.Proofs.Decimal.Layout
import LiteralLang.Proofs.Node.Tree
import LiteralLang.Proofs.Text.Inert
import LiteralLang.Proofs.Text.Pieces
import LiteralLang.Proofs.Token.Grammar
import Mathlib.Data.List.Forall2

/-!
# Strings in generated code

Whatever the strings of a tree hold, they do not reach the code around them.  Cut at its quotes, the
code of a tree has the same pieces outside of the quotes as the code of the tree with empty strings,
and every piece inside is inert text that stands for one of the strings.
-/

namespace LiteralLang

/-! ### Codes and bare codes -/

open Text (Unquoted IsPrintable)

/-- The code of something, the code of the same with empty strings, and the strings. -/
inductive Framed : (code bare : List Char) → (texts : List String) → Prop
  | nil : Framed [] [] []
  | char {c code bare texts} : IsPrintable c → c ≠ '"' → Framed code bare texts →
      Framed (c :: code) (c :: bare) texts
  | text {text code bare texts} : Framed code bare texts →
      Framed ((Text.codeString text).toList ++ code) ((Text.codeString "").toList ++ bare)
        (text :: texts)

namespace Framed

variable {code bare code' bare' run : List Char} {texts texts' : List String}

theorem append (first : Framed code bare texts) (second : Framed code' bare' texts') :
    Framed (code ++ code') (bare ++ bare') (texts ++ texts') := by
  induction first with
  | nil => exact second
  | char printable noQuote _ ih => exact .char printable noQuote ih
  | text _ ih =>
    rw [List.append_assoc, List.append_assoc]
    exact .text ih

/-- Text without a quote is its own bare code. -/
theorem of_unquoted (unquoted : Unquoted run) : Framed run run [] := by
  induction run with
  | nil => exact .nil
  | cons c run ih =>
    rw [Unquoted, List.forall_mem_cons] at unquoted
    exact .char unquoted.1.1 unquoted.1.2 (ih unquoted.2)

theorem toList_codeString (text : String) :
    (Text.codeString text).toList = '"' :: (text.toList.flatMap Text.codeSpelling ++ ['"']) := by
  rw [Text.codeString, String.toList_ofList]

theorem printable (framed : Framed code bare texts) : ∀ c ∈ code, IsPrintable c := by
  induction framed with
  | nil =>
    intro c member
    simp at member
  | char printable _ _ ih => exact List.forall_mem_cons.mpr ⟨printable, ih⟩
  | @text text code bare texts _ ih =>
    have quote : IsPrintable '"' := by decide
    have inside := (Text.inert_flatMap_codeSpelling text.toList).unquoted
    intro c member
    simp only [toList_codeString, List.cons_append, List.append_assoc, List.mem_cons,
      List.mem_append, List.not_mem_nil, false_or] at member
    rcases member with rfl | member | rfl | behind
    · exact quote
    · exact (inside c member).1
    · exact quote
    · exact ih c behind

/-- A string in code is one piece between two cuts. -/
theorem pieces_codeString (text : String) (rest : List Char) :
    Text.pieces '"' ((Text.codeString text).toList ++ rest) =
      [] :: text.toList.flatMap Text.codeSpelling :: Text.pieces '"' rest := by
  have inside := (Text.inert_flatMap_codeSpelling text.toList).unquoted
  rw [toList_codeString, List.cons_append, List.append_assoc, List.singleton_append,
    Text.pieces_separator,
    Text.pieces_append_separator fun member => (inside '"' member).2 rfl]

/-- Cutting at the quotes leaves the bare code outside and the strings inside. -/
theorem pieces (framed : Framed code bare texts) :
    (Text.pieces '"' code).length = 2 * texts.length + 1 ∧
    Text.outside (Text.pieces '"' code) = Text.outside (Text.pieces '"' bare) ∧
    List.Forall₂ (fun piece text => ∃ units, Text.Inert piece units ∧
      Text.ofUnits? units = some (String.toList text))
      (Text.inside (Text.pieces '"' code)) texts := by
  induction framed with
  | nil => exact ⟨rfl, rfl, .nil⟩
  | @char c code bare texts _ noQuote _ ih =>
    obtain ⟨first, more, shape, whole⟩ := Text.pieces_cons_of_ne code noQuote
    obtain ⟨first', more', shape', whole'⟩ := Text.pieces_cons_of_ne bare noQuote
    rw [shape, shape'] at ih
    obtain ⟨length, same, inert⟩ := ih
    obtain ⟨sameFirst, sameMore⟩ := List.cons.inj same
    rw [whole, whole']
    refine ⟨length, ?_, inert⟩
    rw [Text.outside, Text.outside, sameFirst, sameMore]
  | @text text code bare texts _ ih =>
    obtain ⟨length, same, inert⟩ := ih
    rw [pieces_codeString, pieces_codeString]
    refine ⟨?_, congrArg ([] :: ·) same, .cons ⟨_, Text.inert_flatMap_codeSpelling _,
      Text.ofUnits?_flatMap_units _⟩ inert⟩
    rw [List.length_cons, List.length_cons, length, List.length_cons]
    omega

end Framed

/-! ### The strings of a tree -/

/-- The string that a scalar is. -/
def Scalar.text? : Scalar → Option String
  | .text value => some value
  | _ => none

/-- The scalar with the empty string for a string. -/
def Scalar.withoutText : Scalar → Scalar
  | .text _ => .text ""
  | scalar => scalar

namespace Node

/-- The strings of a tree from left to right. -/
def texts (tree : Node) : List String := tree.literals.filterMap Scalar.text?

mutual

/-- The tree with the empty string for every string. -/
def withoutTexts : Node → Node
  | .program body => .program body.withoutTexts
  | .literal value => .literal value.withoutText
  | .array elements => .array (withoutTextsAll elements)

/-- Several trees with the empty string for every string. -/
def withoutTextsAll : List Node → List Node
  | [] => []
  | element :: rest => element.withoutTexts :: withoutTextsAll rest

end

end Node

/-! ### Code around strings -/

theorem isPrintable_of_isNumberPart {c : Char} (part : Lexeme.isNumberPart c = true) :
    IsPrintable c ∧ c ≠ '"' := by
  rw [Lexeme.isNumberPart_iff] at part
  rcases part with digit | rfl | (rfl | rfl) | rfl | rfl
  · exact Text.isPrintable_of_alphanum (Text.isAlphanum_iff.mpr (Or.inl digit))
  all_goals decide

theorem unquoted_number (x : Binary64) : Unquoted x.codeText.toList := by
  have size : Unquoted
      (if x.isFinite then String.ofList (x.shortest .upward).plain else "Infinity").toList := by
    split
    case isTrue =>
      obtain ⟨d, numeral, -⟩ := (x.shortest .upward).exists_numeral_plain
      rw [String.toList_ofList]
      intro c member
      exact isPrintable_of_isNumberPart (Lexeme.numeral_isNumberPart numeral c member)
    case isFalse => decide
  rw [Binary64.codeText, Binary64.plainText]
  by_cases notNumber : x.isNaN = true
  · rw [if_pos notNumber]
    decide
  · rw [if_neg notNumber]
    by_cases sign : x.negative = true
    · dsimp only
      have minus : Unquoted "-".toList := by decide
      rw [if_pos sign, String.toList_append]
      exact List.forall_mem_append.mpr ⟨minus, size⟩
    · dsimp only
      rw [if_neg sign]
      exact size

namespace Framed

theorem scalar (scalar : Scalar) :
    Framed scalar.code.toList scalar.withoutText.code.toList scalar.text?.toList := by
  cases scalar with
  | null => exact .of_unquoted (by decide)
  | boolean value => cases value <;> exact .of_unquoted (by decide)
  | number x => exact .of_unquoted (unquoted_number x)
  | text value =>
    have whole : Framed ((Text.codeString value).toList ++ []) ((Text.codeString "").toList ++ [])
        [value] := .text .nil
    rw [List.append_nil, List.append_nil] at whole
    exact whole

theorem elements {elements : List Node}
    (each : ∀ element ∈ elements, Framed element.code.toList element.withoutTexts.code.toList
      element.texts) :
    Framed (",".intercalate (Node.codes elements)).toList
      (",".intercalate (Node.codes (Node.withoutTextsAll elements))).toList
      (elements.flatMap Node.texts) := by
  induction elements with
  | nil => exact .nil
  | cons element elements ih =>
    rw [List.forall_mem_cons] at each
    cases elements with
    | nil => simpa [Node.codes, Node.withoutTextsAll] using each.1
    | cons second elements =>
      have comma : Framed [','] [','] [] := .of_unquoted (by decide)
      have whole := each.1.append (comma.append (ih each.2))
      simpa [Node.codes, Node.withoutTextsAll] using whole

/-- The code of a tree is that of the tree with empty strings, but for its strings. -/
theorem code (tree : Node) :
    Framed tree.code.toList tree.withoutTexts.code.toList tree.texts := by
  induction tree with
  | program body ih =>
    have before : Framed "return ".toList "return ".toList [] := .of_unquoted (by decide)
    have behind : Framed ";".toList ";".toList [] := .of_unquoted (by decide)
    have whole := before.append (ih.append behind)
    simpa [Node.code, Node.withoutTexts, Node.texts, Node.literals] using whole
  | literal value =>
    have texts : (Node.literal value).texts = value.text?.toList := by cases value <;> rfl
    rw [texts]
    exact Framed.scalar value
  | array elements ih =>
    have opening : Framed "[".toList "[".toList [] := .of_unquoted (by decide)
    have closing : Framed "]".toList "]".toList [] := .of_unquoted (by decide)
    have texts : (Node.array elements).texts = elements.flatMap Node.texts := by
      rw [Node.texts, Node.literals, Node.literalsAll_eq_flatMap, List.filterMap_flatMap]
      rfl
    rw [texts, Node.withoutTexts, Node.code, Node.code, String.toList_append, String.toList_append,
      String.toList_append, String.toList_append]
    simpa using (opening.append (Framed.elements ih)).append closing

end Framed

/-- The strings of a tree do not reach the code around them: the code is printable, its pieces
outside of quotes are those of the tree with empty strings, and inside stand the strings, one each,
as inert text. -/
theorem Node.code_confines_texts (tree : Node) :
    (∀ c ∈ tree.code.toList, 0x20 ≤ c.toNat ∧ c.toNat ≤ 0x7E) ∧
    (Text.pieces '"' tree.code.toList).length = 2 * tree.texts.length + 1 ∧
    Text.outside (Text.pieces '"' tree.code.toList) =
      Text.outside (Text.pieces '"' tree.withoutTexts.code.toList) ∧
    List.Forall₂ (fun piece text => ∃ units, Text.Inert piece units ∧
      Text.ofUnits? units = some (String.toList text))
      (Text.inside (Text.pieces '"' tree.code.toList)) tree.texts := by
  have framed := Framed.code tree
  exact ⟨framed.printable, framed.pieces⟩

end LiteralLang
