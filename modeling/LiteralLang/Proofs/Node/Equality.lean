import LiteralLang.Proofs.Node.Code
import LiteralLang.Proofs.Node.Derivation

/-!
# Equality of trees, values and codes

Equality of numbers merges the two zeros and refuses every NaN.  Neither is spelled in source text,
so among trees whose numbers have no sign and are no NaN, equality is sameness: of the trees, of
their values, and of their codes.
-/

namespace LiteralLang

/-! ### Numbers and scalars -/

namespace Binary64

variable {x y : Binary64}

theorem equal_iff (positive : x.negative = false) (positive' : y.negative = false)
    (number : x.isNaN = false) (number' : y.isNaN = false) : x.equal y = true ↔ x = y := by
  obtain ⟨_, magnitude, _⟩ := x
  obtain ⟨_, magnitude', _⟩ := y
  simp only at positive positive'
  subst positive positive'
  rw [equal, number, number']
  simp only [Bool.not_false, Bool.true_and, Bool.or_eq_true, decide_eq_true_eq, Bool.and_eq_true,
    isZero, beq_iff_eq, mk.injEq, true_and]
  omega

/-- A number without a sign is finite or infinite, if it is no NaN. -/
theorem isFinite_or_eq_infinity (positive : x.negative = false) (number : x.isNaN = false) :
    x.isFinite = true ∧ x.negative = false ∨ x = .infinity := by
  rw [isNaN, decide_eq_false_iff_not] at number
  rcases Nat.lt_or_eq_of_le (Nat.le_of_not_lt number) with finite | infinite
  · exact Or.inl ⟨decide_eq_true finite, positive⟩
  · obtain ⟨_, magnitude, _⟩ := x
    simp only at positive infinite
    subst positive infinite
    exact Or.inr rfl

end Binary64

/-- Source text can spell the scalar: a number has no sign and is no NaN. -/
def Scalar.Spellable (scalar : Scalar) : Prop :=
  ∀ x, scalar = .number x → x.negative = false ∧ x.isNaN = false

/-- The only number in source text that is not finite is infinity. -/
theorem Scalar.Spellable.number {x : Binary64} (spellable : (Scalar.number x).Spellable) :
    x.isFinite = true ∧ x.negative = false ∨ x = .infinity := by
  obtain ⟨positive, number⟩ := spellable x rfl
  exact x.isFinite_or_eq_infinity positive number

theorem Scalar.equal_iff {a b : Scalar} (spellable : a.Spellable) (spellable' : b.Spellable) :
    a.equal b = true ↔ a = b := by
  cases a with
  | number x =>
    cases b with
    | number y =>
      obtain ⟨positive, number⟩ := spellable x rfl
      obtain ⟨positive', number'⟩ := spellable' y rfl
      rw [equal, Binary64.equal_iff positive positive' number number', Scalar.number.injEq]
    | _ => simp [equal]
  | null | boolean _ | text _ => cases b <;> simp [equal]

/-! ### Trees and values -/

namespace Node

variable {a b tree : Node} {elements others : List Node}

theorem equalAll_iff (each : ∀ element ∈ elements, ∀ other ∈ others,
    (element.equal other = true ↔ element = other)) :
    equalAll elements others = true ↔ elements = others := by
  induction elements generalizing others with
  | nil => cases others <;> simp [equalAll]
  | cons element elements ih =>
    cases others with
    | nil => simp [equalAll]
    | cons other others =>
      have rest := ih fun element member other member' =>
        each element (List.mem_cons_of_mem _ member) other (List.mem_cons_of_mem _ member')
      rw [equalAll, Bool.and_eq_true, rest, List.cons.injEq,
        each element List.mem_cons_self other List.mem_cons_self]

/-- Equal trees are the same, if source text can spell their literals. -/
theorem equal_iff (spellable : ∀ scalar ∈ a.literals, scalar.Spellable)
    (spellable' : ∀ scalar ∈ b.literals, scalar.Spellable) : a.equal b = true ↔ a = b := by
  induction a generalizing b with
  | program body ih =>
    cases b with
    | program body' =>
      rw [equal, program.injEq]
      exact ih spellable spellable'
    | literal value' => simp [equal]
    | array elements' => simp [equal]
  | literal value =>
    cases b with
    | program body' => simp [equal]
    | literal value' =>
      rw [equal, literal.injEq, Scalar.equal_iff (spellable value (List.mem_singleton.mpr rfl))
        (spellable' value' (List.mem_singleton.mpr rfl))]
    | array elements' => simp [equal]
  | array elements ih =>
    cases b with
    | program body' => simp [equal]
    | literal value' => simp [equal]
    | array elements' =>
      rw [equal, array.injEq]
      apply equalAll_iff
      intro element member other member'
      apply ih element member
      · intro scalar literal
        exact spellable scalar (mem_literals_array.mpr ⟨element, member, literal⟩)
      · intro scalar literal
        exact spellable' scalar (mem_literals_array.mpr ⟨other, member', literal⟩)

/-- A tree without programs is the tree of its value. -/
theorem tree_value (plain : tree.hasProgram = false) : tree.value.tree = tree := by
  induction tree with
  | program => exact absurd plain (by simp [hasProgram])
  | literal value => rfl
  | array elements ih =>
    rw [hasProgram_array] at plain
    have same : ∀ element ∈ elements, (Value.tree ∘ value) element = element := by
      intro element member
      exact ih element member (plain element member)
    rw [value, values_eq_map, Value.tree, Value.trees_eq_map, List.map_map,
      List.map_congr_left same, List.map_id']

end Node

namespace Value

/-- Values are equal exactly if their trees are. -/
theorem equal_tree (a b : Value) : a.tree.equal b.tree = a.equal b := by
  induction a generalizing b with
  | scalar value => cases b <;> rfl
  | array elements ih =>
    cases b with
    | scalar value' => rfl
    | array elements' =>
      rw [tree, tree, Node.equal, equal]
      induction elements generalizing elements' with
      | nil => cases elements' <;> rfl
      | cons element elements same =>
        rw [List.forall_mem_cons] at ih
        cases elements' with
        | nil => rfl
        | cons element' elements' =>
          rw [trees, trees, Node.equalAll, equalAll, ih.1, same ih.2]

end Value

/-! ### Codes -/

namespace Node

variable {a b : Node} {separator : String} {spell : Scalar → String} {blanks : List Char}

/-- Trees that are written alike are the same, if every spelling is one token for its literal. -/
theorem eq_of_written_eq (separates : separator.toList = [','] ++ blanks)
    (blank : ∀ c ∈ blanks, Lexeme.isSpace c = true)
    (spelled : ∀ value ∈ a.literals, Denotes (spell value) value)
    (spelled' : ∀ value ∈ b.literals, Denotes (spell value) value)
    (plain : a.hasProgram = false) (plain' : b.hasProgram = false)
    (same : a.written separator spell = b.written separator spell) : a = b := by
  obtain ⟨symbols, conveys, derives⟩ :=
    conveys_written separates blank spelled plain (Or.inl List.head?_nil)
  obtain ⟨symbols', conveys', derives'⟩ :=
    conveys_written separates blank spelled' plain' (Or.inl List.head?_nil)
  obtain ⟨tokens, behind, run, shows⟩ := conveys 0
  obtain ⟨tokens', behind', run', shows'⟩ := conveys' 0
  rw [List.append_nil] at run run'
  have cut := Scan.tokenize_eq_ok_iff_reads.mpr ⟨behind, run⟩
  have cut' := Scan.tokenize_eq_ok_iff_reads.mpr ⟨behind', run'⟩
  rw [← same, cut] at cut'
  obtain rfl := Except.ok.inj cut'
  -- the tokens tell the symbols, also where a literal is infinite
  rw [← map_symbol_filled shows', map_symbol_filled shows] at derives'
  exact derives.unique derives'

/-- Trees of the same code are the same, if source text can spell their literals. -/
theorem code_inj (plain : a.hasProgram = false) (plain' : b.hasProgram = false)
    (spellable : ∀ scalar ∈ a.literals, scalar.Spellable)
    (spellable' : ∀ scalar ∈ b.literals, scalar.Spellable) : a.code = b.code ↔ a = b := by
  have spelled {scalar : Scalar} (spellable : scalar.Spellable) : Denotes scalar.code scalar := by
    apply Scalar.denotes_code
    rintro x rfl
    exact spellable.number
  constructor
  · intro same
    rw [code_eq_written plain, code_eq_written plain'] at same
    have separates : ",".toList = [','] ++ [] := rfl
    exact eq_of_written_eq separates (by simp)
      (fun value literal => spelled (spellable value literal))
      (fun value literal => spelled (spellable' value literal)) plain plain' same
  · rintro rfl
    rfl

end Node

end LiteralLang
