import LiteralLang.Proofs.Binary64.Text
import LiteralLang.Proofs.Node.Code

/-!
# Reading a tree off its code

The code of a tree shows where it ends: its first character tells what kind of node it is, a string
ends at its second quote, a number at the next comma, bracket or semicolon, and arrays and programs
where their parts do.  So trees of the same code are the same, program nodes inside of them, signs
and infinities included.
-/

namespace LiteralLang

open Lexeme (StringItem StringItems stringRest)

/-! ### Kinds of nodes -/

/-- What a node is, apart from its parts. -/
inductive Kind where
  | program
  | array
  | null
  | boolean (value : Bool)
  | number
  | text

def Scalar.kind : Scalar → Kind
  | .null => .null
  | .boolean value => .boolean value
  | .number _ => .number
  | .text _ => .text

def Node.kind : Node → Kind
  | .program _ => .program
  | .literal value => value.kind
  | .array _ => .array

/-- The kind of node whose code begins with the character. -/
def Kind.ofChar? (c : Char) : Option Kind :=
  if c.isDigit || c == '.' || c == '-' || c == 'I' || c == 'N' then some .number
  else
    match c with
    | 'r' => some .program
    | '[' => some .array
    | 'n' => some .null
    | 't' => some (.boolean true)
    | 'f' => some (.boolean false)
    | '"' => some .text
    | _ => none

/-- The code of a number begins with a character that tells so. -/
theorem exists_codeText_eq_cons (x : Binary64) :
    ∃ c more, x.codeText.toList = c :: more ∧ Kind.ofChar? c = some .number := by
  by_cases notNumber : x.isNaN = true
  · exact ⟨'N', ['a', 'N'], by rw [Binary64.codeText_of_isNaN notNumber]; rfl, rfl⟩
  · rw [Bool.not_eq_true] at notNumber
    rw [Binary64.codeText_eq notNumber, String.toList_append]
    cases x.negative with
    | true => exact ⟨'-', x.sizeText.toList, rfl, rfl⟩
    | false =>
      obtain ⟨c, more, begins, which⟩ := x.exists_sizeText_eq_cons
      refine ⟨c, more, begins, if_pos ?_⟩
      rcases which with digit | rfl | rfl
      · simp [digit]
      · rfl
      · rfl

/-- The first character of a code tells the kind of the node. -/
theorem Node.exists_code_eq_cons (tree : Node) :
    ∃ c more, tree.code.toList = c :: more ∧ Kind.ofChar? c = some tree.kind := by
  cases tree with
  | program body =>
    refine ⟨'r', "eturn ".toList ++ (body.code ++ ";").toList, ?_, rfl⟩
    simp [code]
  | array elements =>
    refine ⟨'[', (",".intercalate (codes elements) ++ "]").toList, ?_, rfl⟩
    simp [code]
  | literal value =>
    cases value with
    | null => exact ⟨'n', _, rfl, rfl⟩
    | boolean value => cases value <;> exact ⟨_, _, rfl, rfl⟩
    | number x => exact exists_codeText_eq_cons x
    | text value => exact ⟨'"', _, String.toList_ofList, rfl⟩

/-- Codes that begin alike belong to nodes of one kind. -/
theorem Node.kind_eq_of_code {a b : Node} {rest rest' : List Char}
    (same : a.code.toList ++ rest = b.code.toList ++ rest') : a.kind = b.kind := by
  obtain ⟨c, more, begins, tells⟩ := a.exists_code_eq_cons
  obtain ⟨c', more', begins', tells'⟩ := b.exists_code_eq_cons
  rw [begins, begins', List.cons_append, List.cons_append] at same
  obtain ⟨rfl, -⟩ := List.cons.inj same
  exact Option.some.inj (tells.symm.trans tells')

/-! ### Ends of scalars -/

/-- Characters behind a node in code. -/
def isNodeEnd (c : Char) : Bool := c == ',' || c == ']' || c == ';'

/-- A node can end in front of the text. -/
def EndsNode (rest : List Char) : Prop := rest.head?.all isNodeEnd = true

theorem not_isNodeEnd_of_mem_codeText {x : Binary64} :
    ∀ c ∈ x.codeText.toList, isNodeEnd c = false := by
  have size : ∀ c ∈ x.sizeText.toList, isNodeEnd c = false := by
    by_cases finite : x.isFinite = true
    · obtain ⟨d, numeral, -⟩ := Binary64.exists_numeral_sizeText finite
      intro c member
      have part := Lexeme.numeral_isNumberPart numeral c member
      rw [Bool.eq_false_iff]
      intro ends
      simp only [isNodeEnd, Bool.or_eq_true, beq_iff_eq] at ends
      rcases ends with (rfl | rfl) | rfl <;> exact absurd part (by decide)
    · rw [Binary64.sizeText_of_infinite (Bool.eq_false_iff.mpr finite)]
      simp [isNodeEnd]
  by_cases notNumber : x.isNaN = true
  · rw [Binary64.codeText_of_isNaN notNumber]
    simp [isNodeEnd]
  · rw [Bool.not_eq_true] at notNumber
    have sign : ∀ c ∈ (Binary64.signText x.negative).toList, isNodeEnd c = false := by
      cases x.negative <;> simp [Binary64.signText, isNodeEnd]
    rw [Binary64.codeText_eq notNumber, String.toList_append]
    exact List.forall_mem_append.mpr ⟨sign, size⟩

/-- A number in code goes up to where a node can end. -/
theorem codeText_append_inj {x y : Binary64} {rest rest' : List Char}
    (number : x.isNaN = false) (number' : y.isNaN = false)
    (ends : EndsNode rest) (ends' : EndsNode rest')
    (same : x.codeText.toList ++ rest = y.codeText.toList ++ rest') : x = y ∧ rest = rest' := by
  have stops {rest : List Char} (ends : EndsNode rest) :
      rest.head?.any (fun c => !isNodeEnd c) = false := by
    cases rest with
    | nil => rfl
    | cons c rest =>
      have closing : isNodeEnd c = true := ends
      simp [closing]
  have inside (x : Binary64) : ∀ c ∈ x.codeText.toList, (!isNodeEnd c) = true := by
    intro c member
    rw [not_isNodeEnd_of_mem_codeText c member]
    rfl
  have taken := congrArg (List.takeWhile fun c => !isNodeEnd c) same
  rw [Text.takeWhile_append_eq (inside x) (stops ends),
    Text.takeWhile_append_eq (inside y) (stops ends')] at taken
  rw [taken] at same
  exact ⟨Binary64.codeText_inj number number' (String.toList_inj.mp taken),
    List.append_cancel_left same⟩

/-- A string in code goes up to its second quote. -/
theorem codeString_append_inj {text text' : String} {rest rest' : List Char}
    (same : (Text.codeString text).toList ++ rest = (Text.codeString text').toList ++ rest') :
    text = text' ∧ rest = rest' := by
  have read (text : String) (rest : List Char) :
      stringRest '"' 0 [] false 0 (text.toList.flatMap Text.codeSpelling ++ '"' :: rest) =
        .ok (text.toList, 0 + (text.toList.flatMap Text.codeSpelling).length + 1) :=
    Lexeme.stringRest_items (by decide) (.flatMap StringItem.codeSpelling text.toList) rest
  simp only [Text.codeString, String.toList_ofList, List.cons_append, List.append_assoc,
    List.nil_append] at same
  have inside := (List.cons.inj same).2
  have result := (read text rest).symm.trans ((congrArg _ inside).trans (read text' rest'))
  have meaning : text = text' := String.toList_inj.mp (Prod.mk.inj (Except.ok.inj result)).1
  subst meaning
  exact ⟨rfl, (List.cons.inj (List.append_cancel_left inside)).2⟩

/-- Scalars of one kind are told apart by their codes. -/
theorem Scalar.code_append_inj {a b : Scalar} {rest rest' : List Char} (kind : a.kind = b.kind)
    (number : ∀ x, a = .number x → x.isNaN = false)
    (number' : ∀ x, b = .number x → x.isNaN = false)
    (ends : EndsNode rest) (ends' : EndsNode rest')
    (same : a.code.toList ++ rest = b.code.toList ++ rest') : a = b ∧ rest = rest' := by
  cases a with
  | null =>
    cases b <;> cases kind
    exact ⟨rfl, List.append_cancel_left same⟩
  | boolean value =>
    cases b <;> cases kind
    exact ⟨rfl, List.append_cancel_left same⟩
  | number x =>
    cases b <;> cases kind
    obtain ⟨rfl, behind⟩ := codeText_append_inj (number x rfl) (number' _ rfl) ends ends' same
    exact ⟨rfl, behind⟩
  | text value =>
    cases b <;> cases kind
    obtain ⟨rfl, behind⟩ := codeString_append_inj same
    exact ⟨rfl, behind⟩

/-! ### Ends of nodes -/

namespace Node

/-- No number in the tree is a NaN. -/
def WithoutNaN (tree : Node) : Prop := ∀ x, .number x ∈ tree.literals → x.isNaN = false

variable {a b tree : Node} {elements others : List Node} {rest rest' : List Char}

theorem WithoutNaN.element (each : (array elements).WithoutNaN) :
    ∀ element ∈ elements, element.WithoutNaN := by
  intro element member x literal
  apply each x
  exact mem_literals_array.mpr ⟨element, member, literal⟩

/-- The tree can be read off its code, whatever stands behind it. -/
def Delimited (tree : Node) : Prop :=
  ∀ other rest rest', tree.WithoutNaN → other.WithoutNaN → EndsNode rest → EndsNode rest' →
    tree.code.toList ++ rest = other.code.toList ++ rest' → tree = other ∧ rest = rest'

/-- The elements of an array behind the first one, each with a comma in front. -/
def codeBehindFirst (elements : List Node) : List Char :=
  elements.flatMap fun element => ',' :: element.code.toList

theorem toList_code_array_nil : (array []).code.toList = ['[', ']'] := rfl

theorem toList_code_array_cons (element : Node) (elements : List Node) :
    (array (element :: elements)).code.toList =
      '[' :: (element.code.toList ++ (codeBehindFirst elements ++ [']'])) := by
  have listed : (",".intercalate (codes (element :: elements))).toList =
      element.code.toList ++ codeBehindFirst elements := by
    induction elements generalizing element with
    | nil => simp [codes, codeBehindFirst]
    | cons second elements ih =>
      have later := ih second
      simp only [codes, String.toList_intercalate, List.map_cons, List.intercalate_cons_cons]
        at later ⊢
      rw [later]
      simp [codeBehindFirst]
  rw [code, String.toList_append, String.toList_append, listed]
  simp

theorem endsNode_codeBehindFirst (elements : List Node) (rest : List Char) :
    EndsNode (codeBehindFirst elements ++ ']' :: rest) := by
  cases elements with
  | nil => rfl
  | cons element elements => rfl

/-- Elements can be read off up to the closing bracket if each of them can. -/
theorem codeBehindFirst_append_inj (delimited : ∀ element ∈ elements, element.Delimited)
    (numbers : ∀ element ∈ elements, element.WithoutNaN)
    (numbers' : ∀ element ∈ others, element.WithoutNaN)
    (same : codeBehindFirst elements ++ ']' :: rest = codeBehindFirst others ++ ']' :: rest') :
    elements = others ∧ rest = rest' := by
  induction elements generalizing others with
  | nil =>
    cases others with
    | nil => exact ⟨rfl, (List.cons.inj same).2⟩
    | cons other others => simp [codeBehindFirst] at same
  | cons element elements ih =>
    cases others with
    | nil => simp [codeBehindFirst] at same
    | cons other others =>
      rw [List.forall_mem_cons] at delimited numbers numbers'
      simp only [codeBehindFirst, List.flatMap_cons, List.cons_append, List.append_assoc] at same
      obtain ⟨rfl, later⟩ := delimited.1 other _ _ numbers.1 numbers'.1
        (endsNode_codeBehindFirst elements rest) (endsNode_codeBehindFirst others rest')
        (List.cons.inj same).2
      obtain ⟨rfl, behind⟩ := ih delimited.2 numbers.2 numbers'.2 later
      exact ⟨rfl, behind⟩

/-- No code begins with a closing bracket, so an empty array shows. -/
theorem code_append_ne_closing (tree : Node) (rest rest' : List Char) :
    tree.code.toList ++ rest ≠ ']' :: rest' := by
  obtain ⟨c, more, begins, tells⟩ := tree.exists_code_eq_cons
  rw [begins]
  intro same
  obtain ⟨rfl, -⟩ := List.cons.inj same
  cases tells

theorem Delimited.array (delimited : ∀ element ∈ elements, element.Delimited)
    (numbers : ∀ element ∈ elements, element.WithoutNaN)
    (numbers' : ∀ element ∈ others, element.WithoutNaN)
    (same : (Node.array elements).code.toList ++ rest = (Node.array others).code.toList ++ rest') :
    elements = others ∧ rest = rest' := by
  cases elements with
  | nil =>
    cases others with
    | nil => exact ⟨rfl, List.append_cancel_left same⟩
    | cons other others =>
      simp only [toList_code_array_nil, toList_code_array_cons, List.cons_append,
        List.append_assoc] at same
      exact absurd (List.cons.inj same).2.symm (code_append_ne_closing other _ _)
  | cons element elements =>
    cases others with
    | nil =>
      simp only [toList_code_array_nil, toList_code_array_cons, List.cons_append,
        List.append_assoc] at same
      exact absurd (List.cons.inj same).2 (code_append_ne_closing element _ _)
    | cons other others =>
      rw [List.forall_mem_cons] at delimited numbers numbers'
      simp only [toList_code_array_cons, List.cons_append, List.append_assoc,
        List.nil_append] at same
      obtain ⟨rfl, later⟩ := delimited.1 other _ _ numbers.1 numbers'.1
        (endsNode_codeBehindFirst elements rest) (endsNode_codeBehindFirst others rest')
        (List.cons.inj same).2
      obtain ⟨rfl, behind⟩ :=
        codeBehindFirst_append_inj delimited.2 numbers.2 numbers'.2 later
      exact ⟨rfl, behind⟩

theorem delimited (tree : Node) : tree.Delimited := by
  induction tree with
  | program body ih =>
    intro other rest rest' numbers numbers' ends ends' same
    have kind := kind_eq_of_code same
    cases other with
    | program body' =>
      simp only [code, String.toList_append, List.append_assoc] at same
      obtain ⟨rfl, behind⟩ := ih body' (';' :: rest) (';' :: rest') numbers numbers' rfl rfl
        (List.append_cancel_left same)
      exact ⟨rfl, (List.cons.inj behind).2⟩
    | literal value => cases value <;> cases kind
    | array => cases kind
  | literal value =>
    intro other rest rest' numbers numbers' ends ends' same
    have kind := kind_eq_of_code same
    cases other with
    | program => cases value <;> cases kind
    | array => cases value <;> cases kind
    | literal value' =>
      have number {scalar : Scalar} (numbers : (Node.literal scalar).WithoutNaN) (x : Binary64)
          (is : scalar = .number x) : x.isNaN = false :=
        numbers x (List.mem_singleton.mpr is.symm)
      obtain ⟨rfl, behind⟩ :=
        Scalar.code_append_inj kind (number numbers) (number numbers') ends ends' same
      exact ⟨rfl, behind⟩
  | array elements ih =>
    intro other rest rest' numbers numbers' ends ends' same
    have kind := kind_eq_of_code same
    cases other with
    | program => cases kind
    | literal value => cases value <;> cases kind
    | array others =>
      obtain ⟨rfl, behind⟩ := Delimited.array ih numbers.element numbers'.element same
      exact ⟨rfl, behind⟩

/-- Trees without NaNs have the same code exactly if they are the same, bit by bit in their
numbers. -/
theorem code_eq_code_iff {a b : Node} (numbers : a.WithoutNaN) (numbers' : b.WithoutNaN) :
    a.code = b.code ↔ a = b := by
  constructor
  · intro same
    have whole : a.code.toList ++ [] = b.code.toList ++ [] := by rw [same]
    exact (a.delimited b [] [] numbers numbers' rfl rfl whole).1
  · rintro rfl
    rfl

/-- A negative zero next to a program shows in the code, and a string that looks like both. -/
theorem code_ne_code_zeros :
    (array [literal (.number ⟨true, 0, by decide⟩), program (literal (.text ";],"))]).code ≠
      (array [literal (.number .zero), program (literal (.text ";],"))]).code := by
  have different : array [literal (.number ⟨true, 0, by decide⟩), program (literal (.text ";],"))] ≠
      array [literal (.number .zero), program (literal (.text ";],"))] := by
    simp [Binary64.zero]
  refine mt (code_eq_code_iff ?_ ?_).mp different
  · intro x literal
    obtain rfl : x = ⟨true, 0, by decide⟩ := by simpa [literals, literalsAll] using literal
    rfl
  · intro x literal
    obtain rfl : x = .zero := by simpa [literals, literalsAll] using literal
    rfl

end Node

end LiteralLang
