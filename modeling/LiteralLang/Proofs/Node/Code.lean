import LiteralLang.Proofs.Node.Written
import LiteralLang.Proofs.Token.Strings

/-!
# Generated code as source

The code of a tree without inner programs, taken out of its `return` statement, is source text of
the same tree.  Only infinity stands in the way: generated code names it, the language does not.
-/

namespace LiteralLang

open Lexeme (StringItem)

/-- The code of a scalar is one token that stands for it, if it is no number with a sign and no
NaN. -/
theorem Scalar.denotes_code {scalar : Scalar}
    (positive : ∀ x, scalar = .number x →
      x.isFinite = true ∧ x.negative = false ∨ x = .infinity) :
    Denotes scalar.code scalar := by
  cases scalar with
  | null => exact denotes_null
  | boolean value => exact denotes_boolean value
  | number x =>
    rcases positive x rfl with ⟨finite, sign⟩ | rfl
    · exact denotes_number _ finite sign
    · exact denotes_infinity
  | text value => exact denotes_text StringItem.codeSpelling value

namespace Node

theorem codes_eq_map (elements : List Node) : codes elements = elements.map code := by
  induction elements with
  | nil => rfl
  | cons element elements ih => rw [codes, ih, List.map_cons]

/-- The code of a tree without programs is the tree as written text. -/
theorem code_eq_written {tree : Node} (plain : tree.hasProgram = false) :
    tree.code = tree.written "," Scalar.code := by
  induction tree with
  | program => exact absurd plain (by simp [hasProgram])
  | literal => rfl
  | array elements ih =>
    rw [hasProgram_array] at plain
    rw [code, written, writtenAll_eq_map]
    congr 3
    induction elements with
    | nil => rfl
    | cons element elements same =>
      rw [List.forall_mem_cons] at ih plain
      rw [codes, List.map_cons, ih.1 plain.1, same ih.2 plain.2]

/-- The code of a program is its expression in a `return` statement, and compiling the expression
gives the program and the code again wherever its arrays are allowed to nest.  Where a number is
infinite, its word is refused. -/
theorem code_roundTrip (tree : Node) (bound : Nat) (plain : tree.hasProgram = false)
    (shallow : tree.depth ≤ bound)
    (positive : ∀ x, .number x ∈ tree.literals →
      x.isFinite = true ∧ x.negative = false ∨ x = .infinity) :
    ∃ expression, (program tree).code = "return " ++ expression ++ ";" ∧
      ∀ options : CompileOptions, bound ≤ options.effectiveMaxDepth →
        ((∀ x, .number x ∈ tree.literals → x.isFinite = true) →
          ∃ callable, compileWith options expression = .ok callable ∧
            callable.tree = program tree ∧ callable.code = (program tree).code) ∧
        (.number .infinity ∈ tree.literals →
          compileWith options expression =
            .error (.unexpectedToken .literal (some "Infinity"))) := by
  refine ⟨tree.code, rfl, ?_⟩
  intro options room
  have separates : ",".toList = [','] ++ [] := rfl
  have spelled : ∀ scalar ∈ tree.literals, Denotes scalar.code scalar := by
    intro scalar literal
    apply Scalar.denotes_code
    intro x same
    subst same
    exact positive x literal
  have compiled := compileWith_written separates (by simp) spelled plain
    (Nat.le_trans shallow room)
  rw [code_eq_written plain, compiled]
  constructor
  · intro finite
    have noInfinity : .number .infinity ∉ tree.literals := by
      intro literal
      exact absurd (finite _ literal) (by decide)
    rw [if_neg noInfinity]
    exact ⟨⟨program tree⟩, rfl, rfl, rfl⟩
  · intro infinite
    rw [if_pos infinite]

/-- A quote and a zero in an array come back. -/
theorem code_roundTrip_quote_zero :
    ∃ expression callable,
      (program (array [literal (.text "\""), literal (.number .zero)])).code =
        "return " ++ expression ++ ";" ∧
      compile expression = .ok callable ∧
      callable.tree = program (array [literal (.text "\""), literal (.number .zero)]) := by
  have numbers (x : Binary64)
      (member : .number x ∈ (array [literal (.text "\""), literal (.number .zero)]).literals) :
      x = .zero := by
    simpa [literals, literalsAll] using member
  obtain ⟨expression, code, each⟩ := code_roundTrip
    (array [literal (.text "\""), literal (.number .zero)]) 1 (by decide) (by decide)
    (fun x member => Or.inl (by rw [numbers x member]; decide))
  obtain ⟨callable, compiles, tree, -⟩ := (each .standard (by decide)).1
    (fun x member => by rw [numbers x member]; decide)
  exact ⟨expression, callable, code, compiles, tree⟩

end Node

end LiteralLang
