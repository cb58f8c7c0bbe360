import LiteralLang.Node

/-!
# Trees and values

One induction principle for trees and one for values, with a hypothesis for every element of an
array.  `Value.tree` is the tree without program nodes that denotes a value, and `Node.literals`
lists the literals of a tree from left to right.
-/

namespace LiteralLang

/-! ### Induction -/

/-- Induction on trees, with a hypothesis for every element of an array. -/
@[elab_as_elim, induction_eliminator]
theorem Node.induct {motive : Node → Prop}
    (program : ∀ body, motive body → motive (.program body))
    (literal : ∀ value, motive (.literal value))
    (array : ∀ elements, (∀ element ∈ elements, motive element) → motive (.array elements))
    (tree : Node) : motive tree :=
  match tree with
  | .program body => program body (Node.induct program literal array body)
  | .literal value => literal value
  | .array elements => array elements fun element _ => Node.induct program literal array element

/-- Induction on values, with a hypothesis for every element of an array. -/
@[elab_as_elim, induction_eliminator]
theorem Value.induct {motive : Value → Prop} (scalar : ∀ value, motive (.scalar value))
    (array : ∀ elements, (∀ element ∈ elements, motive element) → motive (.array elements))
    (value : Value) : motive value :=
  match value with
  | .scalar value => scalar value
  | .array elements => array elements fun element _ => Value.induct scalar array element

/-! ### Lists of elements -/

namespace Node

variable {element : Node} {elements : List Node}

theorem values_eq_map (elements : List Node) : values elements = elements.map value := by
  induction elements with
  | nil => rfl
  | cons element elements ih => rw [values, ih, List.map_cons]

theorem depthAll_eq_foldr (elements : List Node) :
    depthAll elements = (elements.map depth).foldr max 0 := by
  induction elements with
  | nil => rfl
  | cons element elements ih => rw [depthAll, ih, List.map_cons, List.foldr_cons]

theorem depth_lt_of_mem (member : element ∈ elements) :
    element.depth < (array elements).depth := by
  rw [depth, Nat.lt_succ_iff]
  induction elements with
  | nil => exact absurd member List.not_mem_nil
  | cons first elements ih =>
    rw [depthAll]
    rcases List.mem_cons.mp member with rfl | later
    · exact Nat.le_max_left _ _
    · exact Nat.le_trans (ih later) (Nat.le_max_right _ _)

/-- There is room for an array if there is room for each of its elements inside it. -/
theorem add_depth_array_le_iff {depth bound : Nat} (room : depth < bound) :
    depth + (array elements).depth ≤ bound ↔
      ∀ element ∈ elements, depth + 1 + element.depth ≤ bound := by
  rw [Node.depth]
  induction elements with
  | nil =>
    rw [depthAll, Nat.zero_add]
    constructor
    · intro _ element member
      simp at member
    · intro _
      exact room
  | cons element elements ih =>
    rw [depthAll, List.forall_mem_cons, ← ih]
    omega

mutual

/-- The literals of a tree from left to right. -/
def literals : Node → List Scalar
  | .program body => body.literals
  | .literal value => [value]
  | .array elements => literalsAll elements

/-- The literals of several trees from left to right. -/
def literalsAll : List Node → List Scalar
  | [] => []
  | element :: rest => element.literals ++ literalsAll rest

end

theorem literalsAll_eq_flatMap (elements : List Node) :
    literalsAll elements = elements.flatMap literals := by
  induction elements with
  | nil => rfl
  | cons element elements ih => rw [literalsAll, ih, List.flatMap_cons]

theorem mem_literals_array {scalar : Scalar} :
    scalar ∈ (array elements).literals ↔ ∃ element ∈ elements, scalar ∈ element.literals := by
  rw [literals, literalsAll_eq_flatMap, List.mem_flatMap]

mutual

/-- A program node stands somewhere in the tree. -/
def hasProgram : Node → Bool
  | .program _ => true
  | .literal _ => false
  | .array elements => hasProgramAny elements

/-- A program node stands somewhere in one of the trees. -/
def hasProgramAny : List Node → Bool
  | [] => false
  | element :: rest => element.hasProgram || hasProgramAny rest

end

theorem hasProgram_array : (array elements).hasProgram = false ↔
    ∀ element ∈ elements, element.hasProgram = false := by
  rw [hasProgram]
  induction elements with
  | nil => simp [hasProgramAny]
  | cons element elements ih =>
    rw [hasProgramAny, Bool.or_eq_false_iff, ih, List.forall_mem_cons]

end Node

/-! ### The tree of a value -/

namespace Value

mutual

/-- The tree with the arrays and scalars of a value. -/
def tree : Value → Node
  | .scalar value => .literal value
  | .array elements => .array (trees elements)

/-- The trees of several values. -/
def trees : List Value → List Node
  | [] => []
  | element :: rest => element.tree :: trees rest

end

variable {value : Value}

theorem trees_eq_map (elements : List Value) : trees elements = elements.map tree := by
  induction elements with
  | nil => rfl
  | cons element elements ih => rw [trees, ih, List.map_cons]

@[simp] theorem value_tree (value : Value) : value.tree.value = value := by
  induction value with
  | scalar => rfl
  | array elements ih =>
    rw [tree, Node.value, trees_eq_map, Node.values_eq_map, List.map_map,
      List.map_congr_left (f := Node.value ∘ tree) ih, List.map_id']

@[simp] theorem depth_tree (value : Value) : value.tree.depth = value.depth := by
  induction value with
  | scalar => rfl
  | array elements ih =>
    rw [tree, Node.depth, depth, Nat.add_right_cancel_iff]
    induction elements with
    | nil => rfl
    | cons element elements same =>
      rw [List.forall_mem_cons] at ih
      rw [trees, Node.depthAll, depthAll, ih.1, same ih.2]

/-- Arrays nest as deep in the value of a tree as they do in the tree. -/
theorem depth_value (tree : Node) : tree.value.depth = tree.depth := by
  induction tree with
  | program body ih => exact ih
  | literal value => rfl
  | array elements ih =>
    rw [Node.value, Value.depth, Node.depth, Nat.add_right_cancel_iff]
    induction elements with
    | nil => rfl
    | cons element elements same =>
      rw [List.forall_mem_cons] at ih
      rw [Node.values, Value.depthAll, Node.depthAll, ih.1, same ih.2]

theorem hasProgram_tree (value : Value) : value.tree.hasProgram = false := by
  induction value with
  | scalar => rfl
  | array elements ih =>
    rw [tree, Node.hasProgram_array, trees_eq_map, List.forall_mem_map]
    exact ih

end Value

end LiteralLang
