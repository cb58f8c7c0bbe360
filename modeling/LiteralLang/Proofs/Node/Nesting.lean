import LiteralLang.Proofs.Node.Acceptance
import LiteralLang.Proofs.Node.Code
import LiteralLang.Proofs.Node.Descent

/-!
# Nested calls

How deep recursion goes on a tree that has been built.  The value, the code and the printed value of
a tree are written again with a budget of nested calls, and the bound on arrays is a bound on all of
these budgets: two calls more are enough, one for the program and one for what is in the innermost
array.
-/

namespace LiteralLang

variable {α : Type} {f : Node → α} {tree : Node} {elements : List Node} {budget : Nat}

/-! ### Trees -/

/-- A function on trees that calls itself on the body of a program and on every element of an array,
with what it makes of the results. -/
structure Node.Recursion (f : Node → α) where
  program : α → α
  array : List α → α
  program_eq : ∀ body, f (.program body) = program (f body)
  array_eq : ∀ elements, f (.array elements) = array (elements.map f)

namespace Node

/-- The function on a budget of nested calls, with no result where the budget is used up. -/
def Recursion.within (recursion : Recursion f) : (budget : Nat) → Node → Option α
  | 0, _ => none
  | budget + 1, .program body => (recursion.within budget body).map recursion.program
  | _ + 1, .literal value => some (f (.literal value))
  | budget + 1, .array elements => (elements.mapM (recursion.within budget)).map recursion.array

def valueRecursion : Recursion value where
  program body := body
  array := .array
  program_eq _ := rfl
  array_eq elements := by rw [value, values_eq_map]

def codeRecursion : Recursion code where
  program body := "return " ++ body ++ ";"
  array elements := "[" ++ ",".intercalate elements ++ "]"
  program_eq _ := rfl
  array_eq elements := by rw [code, codes_eq_map]

theorem mapM_eq_some {g : Node → Option α}
    (each : ∀ element ∈ elements, g element = some (f element)) :
    elements.mapM g = some (elements.map f) := by
  induction elements with
  | nil => rfl
  | cons element elements ih =>
    rw [List.forall_mem_cons] at each
    rw [List.mapM_cons, each.1, ih each.2]
    rfl

/-- A budget that exceeds the depth of a tree without programs is never used up. -/
theorem Recursion.within_eq_some (recursion : Recursion f) (plain : tree.hasProgram = false)
    (covers : tree.depth < budget) : recursion.within budget tree = some (f tree) := by
  induction tree generalizing budget with
  | program => simp [hasProgram] at plain
  | literal value =>
    cases budget with
    | zero => omega
    | succ budget => rfl
  | array elements ih =>
    cases budget with
    | zero => omega
    | succ budget =>
      rw [hasProgram_array] at plain
      have each : ∀ element ∈ elements, recursion.within budget element = some (f element) := by
        intro element member
        have shallow := depth_lt_of_mem member
        exact ih element member (plain element member) (by omega)
      rw [within, mapM_eq_some each, recursion.array_eq]
      rfl

/-- The call on the program comes on top. -/
theorem Recursion.within_program (recursion : Recursion f) (plain : tree.hasProgram = false)
    (covers : tree.depth + 1 < budget) :
    recursion.within budget (.program tree) = some (f (.program tree)) := by
  cases budget with
  | zero => omega
  | succ budget =>
    rw [within, recursion.within_eq_some plain (Nat.lt_of_succ_lt_succ covers),
      recursion.program_eq]
    rfl

end Node

/-! ### Values -/

namespace Value

/-- A value as a literal inside the given number of arrays, on a budget of nested calls. -/
def sourceWithin : (budget depth : Nat) → Value → Budgeted String
  | 0, _, _ => (none : Option _)
  | _ + 1, _, .scalar value => (some value.source : Option _)
  | budget + 1, depth, .array elements =>
      if defaultMaxDepth ≤ depth then throw (.unprintable (.nesting defaultMaxDepth))
      else do
        let texts ← elements.mapM (sourceWithin budget (depth + 1))
        return "[" ++ ", ".intercalate texts ++ "]"

theorem depth_lt_of_mem {element : Value} {elements : List Value} (member : element ∈ elements) :
    element.depth < (array elements).depth := by
  have shallow := Node.depth_lt_of_mem (List.mem_map_of_mem (f := tree) member)
  rw [← trees_eq_map] at shallow
  change element.tree.depth < (tree (array elements)).depth at shallow
  rwa [depth_tree, depth_tree] at shallow

theorem mapM_sourceWithin {elements : List Value} {depth : Nat}
    (each : ∀ element ∈ elements,
      sourceWithin budget depth element = some (element.sourceAt depth)) :
    elements.mapM (sourceWithin budget depth) = (some (sourcesAt depth elements) : Option _) := by
  induction elements with
  | nil => rfl
  | cons element elements ih =>
    rw [List.forall_mem_cons] at each
    rw [List.mapM_cons, each.1, ih each.2, sourcesAt]
    cases element.sourceAt depth with
    | error fault => rfl
    | ok text =>
      cases sourcesAt depth elements with
      | error fault => rfl
      | ok texts => rfl

/-- A budget that exceeds the depth of a value is never used up. -/
theorem sourceWithin_eq_some {value : Value} {depth : Nat} (covers : value.depth < budget) :
    value.sourceWithin budget depth = some (value.sourceAt depth) := by
  induction value generalizing budget depth with
  | scalar value =>
    cases budget with
    | zero => omega
    | succ budget => rfl
  | array elements ih =>
    cases budget with
    | zero => omega
    | succ budget =>
      have each : ∀ element ∈ elements, sourceWithin budget (depth + 1) element =
          some (element.sourceAt (depth + 1)) := by
        intro element member
        have shallow := depth_lt_of_mem member
        exact ih element member (by omega)
      rw [sourceWithin, sourceAt]
      split
      case isTrue => rfl
      case isFalse =>
        rw [mapM_sourceWithin each]
        cases sourcesAt (depth + 1) elements with
        | error fault => rfl
        | ok texts => rfl

end Value

/-! ### Trees that have been built -/

/-- The bound on arrays bounds all recursion.  Building any tokens by recursion nests one call more
than the bound at most, whether they have a tree or not, and has the same result and the same
report; some tokens use up every smaller budget.  On a tree that has been built, its value, its code
and its printed value are found with two nested calls more than the bound. -/
theorem Node.nesting_bounded (options : CompileOptions) (tokens : List Token) :
    buildWithin (min options.maxDepth 1024 + 1) options tokens = some (build options tokens) ∧
    (∀ budget, (∃ hostile, buildWithin budget options hostile = none) ↔
      budget ≤ min options.maxDepth 1024) ∧
    ∀ tree, ofTokens options tokens = .ok tree →
      valueRecursion.within (min options.maxDepth 1024 + 2) tree = some tree.value ∧
      codeRecursion.within (min options.maxDepth 1024 + 2) tree = some tree.code ∧
      tree.value.sourceWithin (min options.maxDepth 1024 + 2) 0 = some tree.value.source := by
  refine ⟨buildWithin_eq (Nat.lt_succ_self _) tokens, ?_, ?_⟩
  · intro budget
    exact exists_buildWithin_eq_none_iff
  · intro tree built
    obtain ⟨derivation, -, room, rfl⟩ := ofTokens_eq_ok_iff.mp built
    have covers : derivation.tree.depth + 1 < min options.maxDepth 1024 + 2 :=
      Nat.succ_lt_succ (Nat.lt_succ_of_le room)
    refine ⟨?_, ?_, ?_⟩
    · exact valueRecursion.within_program derivation.hasProgram_tree covers
    · exact codeRecursion.within_program derivation.hasProgram_tree covers
    · apply Value.sourceWithin_eq_some
      rw [Value.depth_value]
      exact Nat.lt_of_succ_lt covers

/-- An array in an array, at the bound, and a budget that is too small for that. -/
theorem Node.nesting_bounded_nested :
    (∃ hostile, buildWithin 2 ⟨2⟩ hostile = none) ∧
    ofTokens ⟨2⟩ [⟨"[", none, 0⟩, ⟨"[", none, 1⟩, ⟨"]", none, 2⟩, ⟨"]", none, 3⟩] =
      .ok (.program (.array [.array []])) ∧
    valueRecursion.within 4 (.program (.array [.array []])) = some (.array [.array []]) ∧
    codeRecursion.within 4 (.program (.array [.array []])) = some "return [[]];" ∧
    Value.sourceWithin 4 0 (.array [.array []]) = some (.ok "[[]]") := by
  have built : ofTokens ⟨2⟩ [⟨"[", none, 0⟩, ⟨"[", none, 1⟩, ⟨"]", none, 2⟩, ⟨"]", none, 3⟩] =
      .ok (.program (.array [.array []])) := by rfl
  obtain ⟨-, usedUp, bounded⟩ := nesting_bounded ⟨2⟩
    [⟨"[", none, 0⟩, ⟨"[", none, 1⟩, ⟨"]", none, 2⟩, ⟨"]", none, 3⟩]
  exact ⟨(usedUp 2).mpr (Nat.le_refl 2), built, bounded _ built⟩

end LiteralLang
