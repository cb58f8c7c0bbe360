import LiteralLang.Proofs.Node.Equality
import LiteralLang.Proofs.Token.Strings

/-!
# Printed source

Which values are printed, and that printing loses nothing: the source text of a value is its tree as
written text, and compiles back to that tree wherever its arrays are allowed to nest.
-/

namespace LiteralLang

open Lexeme (StringItem)

/-! ### Printable scalars -/

/-- The scalar has a literal: a number is finite and has no sign. -/
def Scalar.Printable (scalar : Scalar) : Prop :=
  ∀ x, scalar = .number x → x.isFinite = true ∧ x.negative = false

theorem Scalar.Printable.spellable {scalar : Scalar} (printable : scalar.Printable) :
    scalar.Spellable := by
  intro x same
  obtain ⟨finite, positive⟩ := printable x same
  rw [Binary64.isFinite, decide_eq_true_eq] at finite
  exact ⟨positive, decide_eq_false (Nat.not_lt_of_lt finite)⟩

/-- A value equals itself if none of its numbers is a NaN. -/
theorem Value.equal_self {value : Value}
    (printable : ∀ scalar ∈ value.tree.literals, scalar.Printable) :
    value.equal value = true := by
  have spellable : ∀ scalar ∈ value.tree.literals, scalar.Spellable := by
    intro scalar literal
    exact (printable scalar literal).spellable
  rw [← equal_tree]
  exact (Node.equal_iff spellable spellable).mpr rfl

/-! ### What is printed -/

/-- The source text of a scalar that has one. -/
def Scalar.printed (scalar : Scalar) : String := scalar.source.toOption.getD ""

theorem Scalar.source_eq_ok_iff {scalar : Scalar} {text : String} :
    scalar.source = .ok text ↔ scalar.Printable ∧ text = scalar.printed := by
  have decided : (∃ text, scalar.source = .ok text) ↔ scalar.Printable := by
    cases scalar with
    | number x =>
      rw [source]
      cases finite : x.isFinite <;> cases sign : x.negative <;>
        simp [Printable, finite, sign]
    | null | boolean _ | text _ => simp [source, Printable]
  constructor
  · intro printed
    refine ⟨decided.mp ⟨text, printed⟩, ?_⟩
    rw [Scalar.printed, printed]
    rfl
  · rintro ⟨printable, rfl⟩
    obtain ⟨text, printed⟩ := decided.mpr printable
    rw [Scalar.printed, printed]
    rfl

/-- A printed scalar is one token that stands for it. -/
theorem Scalar.denotes_printed {scalar : Scalar} (printable : scalar.Printable) :
    Denotes scalar.printed scalar := by
  have printed : scalar.source = .ok scalar.printed := source_eq_ok_iff.mpr ⟨printable, rfl⟩
  cases scalar with
  | null => exact denotes_null
  | boolean value => exact denotes_boolean value
  | number x =>
    obtain ⟨finite, positive⟩ := printable x rfl
    rw [source, finite, positive] at printed
    rw [← Except.ok.inj printed]
    exact denotes_number _ finite positive
  | text value => exact denotes_text StringItem.sourceSpelling value

namespace Value

variable {depth : Nat} {value : Value} {elements : List Value} {texts : List String}

/-- There is room for an array if there is room for each of its elements inside it. -/
theorem add_depth_array_le_iff {bound : Nat} (room : depth < bound) :
    depth + (array elements).depth ≤ bound ↔
      ∀ element ∈ elements, depth + 1 + element.depth ≤ bound := by
  rw [← depth_tree, tree, trees_eq_map, Node.add_depth_array_le_iff room, List.forall_mem_map]
  simp only [depth_tree]

theorem forall_mem_literals_array {holds : Scalar → Prop} :
    (∀ scalar ∈ (array elements).tree.literals, holds scalar) ↔
      ∀ element ∈ elements, ∀ scalar ∈ element.tree.literals, holds scalar := by
  simp only [tree, trees_eq_map, Node.mem_literals_array, List.mem_map]
  constructor
  · intro all element member scalar literal
    exact all scalar ⟨element.tree, ⟨element, member, rfl⟩, literal⟩
  · rintro all scalar ⟨_, ⟨element, member, rfl⟩, literal⟩
    exact all element member scalar literal

/-- Several values are printed exactly if each of them is. -/
theorem sourcesAt_eq_ok_iff {prints : Value → Prop} {printed : Value → String}
    (each : ∀ element ∈ elements, ∀ text, element.sourceAt depth = .ok text ↔
      prints element ∧ text = printed element) :
    sourcesAt depth elements = .ok texts ↔
      (∀ element ∈ elements, prints element) ∧ texts = elements.map printed := by
  induction elements generalizing texts with
  | nil => simp [sourcesAt, eq_comm]
  | cons element elements ih =>
    rw [List.forall_mem_cons] at each
    rw [sourcesAt, Result.bind_eq_ok_iff, List.forall_mem_cons, List.map_cons]
    constructor
    · rintro ⟨text, first, later⟩
      obtain ⟨printsFirst, rfl⟩ := (each.1 text).mp first
      obtain ⟨more, rest, finished⟩ := Result.bind_eq_ok_iff.mp later
      obtain ⟨printsRest, rfl⟩ := (ih each.2).mp rest
      exact ⟨⟨printsFirst, printsRest⟩, (Except.ok.inj finished).symm⟩
    · rintro ⟨⟨printsFirst, printsRest⟩, rfl⟩
      refine ⟨_, (each.1 _).mpr ⟨printsFirst, rfl⟩, ?_⟩
      rw [(ih each.2).mpr ⟨printsRest, rfl⟩]
      rfl

/-- A value is printed as its tree is written, exactly if its scalars have literals and its arrays
leave the depth alone. -/
theorem sourceAt_eq_ok_iff {text : String} (shallow : depth ≤ defaultMaxDepth) :
    value.sourceAt depth = .ok text ↔
      ((∀ scalar ∈ value.tree.literals, scalar.Printable) ∧
        depth + value.depth ≤ defaultMaxDepth) ∧
      text = value.tree.written ", " Scalar.printed := by
  induction value generalizing depth text with
  | scalar scalar =>
    rw [sourceAt, Scalar.source_eq_ok_iff, tree, Node.literals, Node.written, Value.depth]
    simp [shallow]
  | array elements ih =>
    rw [sourceAt]
    by_cases deep : defaultMaxDepth ≤ depth
    · rw [if_pos deep, Value.depth]
      constructor
      · intro printed
        simp at printed
      · rintro ⟨⟨-, inside⟩, -⟩
        omega
    · have each : ∀ element ∈ elements, ∀ text, element.sourceAt (depth + 1) = .ok text ↔
          ((∀ scalar ∈ element.tree.literals, scalar.Printable) ∧
            depth + 1 + element.depth ≤ defaultMaxDepth) ∧
          text = element.tree.written ", " Scalar.printed := by
        intro element member text
        exact ih element member (by omega)
      have prints : (∀ element ∈ elements, (∀ scalar ∈ element.tree.literals, scalar.Printable) ∧
          depth + 1 + element.depth ≤ defaultMaxDepth) ↔
          (∀ scalar ∈ (array elements).tree.literals, scalar.Printable) ∧
            depth + (array elements).depth ≤ defaultMaxDepth := by
        rw [forall_mem_literals_array, add_depth_array_le_iff (Nat.lt_of_not_le deep),
          forall₂_and]
      have shape : (array elements).tree.written ", " Scalar.printed = "[" ++ ", ".intercalate
          (elements.map fun element => element.tree.written ", " Scalar.printed) ++ "]" := by
        rw [tree, Node.written, Node.writtenAll_eq_map, trees_eq_map, List.map_map]
        rfl
      rw [if_neg deep, Result.bind_eq_ok_iff, ← prints, shape]
      constructor
      · rintro ⟨texts, inner, finished⟩
        obtain ⟨all, rfl⟩ := (sourcesAt_eq_ok_iff each).mp inner
        exact ⟨all, (Except.ok.inj finished).symm⟩
      · rintro ⟨all, rfl⟩
        exact ⟨_, (sourcesAt_eq_ok_iff each).mpr ⟨all, rfl⟩, rfl⟩

theorem source_eq_ok_iff {printed : String} : value.source = .ok printed ↔
    ((∀ scalar ∈ value.tree.literals, scalar.Printable) ∧ value.depth ≤ defaultMaxDepth) ∧
      printed = value.tree.written ", " Scalar.printed := by
  rw [source, sourceAt_eq_ok_iff (Nat.zero_le defaultMaxDepth), Nat.zero_add]

/-- Only numbers can stand in the way of printing. -/
theorem forall_printable_iff : (∀ scalar ∈ value.tree.literals, scalar.Printable) ↔
    ∀ x, .number x ∈ value.tree.literals → x.isFinite = true ∧ x.negative = false := by
  constructor
  · intro all x literal
    exact all _ literal x rfl
  · intro all scalar literal x same
    subst same
    exact all x literal

/-- A value as written text compiles to its tree. -/
theorem compileWith_printed {options : CompileOptions}
    (printable : ∀ scalar ∈ value.tree.literals, scalar.Printable)
    (room : value.depth ≤ options.effectiveMaxDepth) :
    compileWith options (value.tree.written ", " Scalar.printed) = .ok ⟨.program value.tree⟩ := by
  have separates : ", ".toList = [','] ++ [' '] := rfl
  have blank : ∀ c ∈ [' '], Lexeme.isSpace c = true := by simp [Lexeme.isSpace]
  have spelled : ∀ scalar ∈ value.tree.literals, Denotes scalar.printed scalar := by
    intro scalar literal
    exact Scalar.denotes_printed (printable scalar literal)
  have finite : .number .infinity ∉ value.tree.literals := by
    intro literal
    exact absurd (printable _ literal _ rfl).1 (by decide)
  rw [← depth_tree] at room
  rw [compileWith_written separates blank spelled value.hasProgram_tree room, if_neg finite]

/-- A value is printed exactly if its numbers are finite without a sign and its arrays nest no
deeper than 512.  What is printed compiles to the tree of the value, and so gives the value again,
under the standard options and under all that allow its depth. -/
theorem source_roundTrip (value : Value) :
    ((∃ printed, value.source = .ok printed) ↔
      (∀ x, .number x ∈ value.tree.literals → x.isFinite = true ∧ x.negative = false) ∧
        value.depth ≤ 512) ∧
    ∀ printed, value.source = .ok printed → ∃ callable : Callable,
      callable.tree = .program value.tree ∧ callable.call = value ∧
      callable.call.equal value = true ∧ compile printed = .ok callable ∧
      ∀ options : CompileOptions, value.depth ≤ options.effectiveMaxDepth →
        compileWith options printed = .ok callable := by
  constructor
  · rw [← forall_printable_iff]
    constructor
    · rintro ⟨printed, accepted⟩
      exact (source_eq_ok_iff.mp accepted).1
    · intro printable
      exact ⟨_, source_eq_ok_iff.mpr ⟨printable, rfl⟩⟩
  · intro printed accepted
    obtain ⟨⟨printable, shallow⟩, rfl⟩ := source_eq_ok_iff.mp accepted
    have call : (Callable.mk (.program value.tree)).call = value := value.value_tree
    refine ⟨⟨.program value.tree⟩, rfl, call, ?_, compileWith_printed printable shallow, ?_⟩
    · rw [call]
      exact value.equal_self printable
    · intro options room
      exact compileWith_printed printable room

end Value

end LiteralLang
