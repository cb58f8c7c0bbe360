import LiteralLang.Proofs.Node.Build

/-!
# Derivations

A `Derivation` is one way of deriving a tree in the grammar of the builder: `Derivation.yield` is
what it derives, bracket by bracket and comma by comma, and `Derivation.tree` is the tree of it.
A yield shows where it ends, so no list of symbols has two derivations, and the tree has the
brackets and literals of the yield in their order.
-/

namespace LiteralLang

/-- A derivation of an element: a literal, a pair of brackets, or brackets around elements, where a
trailing comma may follow the last element. -/
inductive Derivation where
  | literal (value : Scalar)
  | empty
  | array (first : Derivation) (rest : List Derivation) (trailing : Bool)

namespace Derivation

/-- Induction on derivations, with a hypothesis for every element. -/
@[elab_as_elim, induction_eliminator]
theorem induct {motive : Derivation → Prop} (literal : ∀ value, motive (.literal value))
    (empty : motive .empty)
    (array : ∀ first rest trailing, motive first → (∀ next ∈ rest, motive next) →
      motive (.array first rest trailing))
    (derivation : Derivation) : motive derivation :=
  match derivation with
  | .literal value => literal value
  | .empty => empty
  | .array first rest trailing =>
      array first rest trailing (induct literal empty array first) fun next _ =>
        induct literal empty array next
  termination_by sizeOf derivation
  decreasing_by
    · rw [Derivation.array.sizeOf_spec]
      omega
    · have smaller := List.sizeOf_lt_of_mem ‹next ∈ rest›
      rw [Derivation.array.sizeOf_spec]
      omega

/-- The comma behind the last element, if there is one. -/
def trailingComma (trailing : Bool) : List Symbol := if trailing then [.comma] else []

mutual

/-- The symbols that a derivation derives. -/
def yield : Derivation → List Symbol
  | .literal value => [.literal value]
  | .empty => [.opening, .closing]
  | .array first rest trailing =>
      .opening :: ([.comma].intercalate (first.yield :: yields rest) ++ trailingComma trailing ++
        [.closing])

/-- The symbols that each of several derivations derives. -/
def yields : List Derivation → List (List Symbol)
  | [] => []
  | next :: rest => next.yield :: yields rest

end

mutual

/-- The tree that a derivation derives. -/
def tree : Derivation → Node
  | .literal value => .literal value
  | .empty => .array []
  | .array first rest _ => .array (first.tree :: trees rest)

/-- The trees that several derivations derive. -/
def trees : List Derivation → List Node
  | [] => []
  | next :: rest => next.tree :: trees rest

end

variable {symbols : List Symbol} {tree : Node}

theorem yields_eq_map (items : List Derivation) : yields items = items.map yield := by
  induction items with
  | nil => rfl
  | cons next rest ih => rw [yields, ih, List.map_cons]

theorem trees_eq_map (items : List Derivation) : trees items = items.map Derivation.tree := by
  induction items with
  | nil => rfl
  | cons next rest ih => rw [trees, ih, List.map_cons]

/-- The symbols of elements, with commas between them. -/
def listed (items : List Derivation) : List Symbol := [.comma].intercalate (items.map yield)

theorem listed_cons_cons (first second : Derivation) (rest : List Derivation) :
    listed (first :: second :: rest) = first.yield ++ .comma :: listed (second :: rest) := by
  rw [listed, List.map_cons, List.map_cons, List.intercalate_cons_cons, List.append_assoc]
  rfl

theorem listed_singleton (first : Derivation) : listed [first] = first.yield :=
  List.intercalate_singleton

theorem yield_array (first : Derivation) (rest : List Derivation) (trailing : Bool) :
    (array first rest trailing).yield =
      .opening :: (listed (first :: rest) ++ trailingComma trailing ++ [.closing]) := by
  rw [yield, yields_eq_map]
  rfl

theorem tree_array (first : Derivation) (rest : List Derivation) (trailing : Bool) :
    (array first rest trailing).tree = .array ((first :: rest).map Derivation.tree) := by
  rw [Derivation.tree, trees_eq_map, List.map_cons]

/-! ### Uniqueness -/

/-- A yield begins with a literal or an opening bracket. -/
theorem exists_yield_eq_cons (derivation : Derivation) :
    ∃ symbol more, derivation.yield = symbol :: more ∧ symbol ≠ .closing := by
  cases derivation with
  | literal value => exact ⟨_, _, rfl, by simp⟩
  | empty => exact ⟨_, _, rfl, by simp⟩
  | array first rest trailing => exact ⟨_, _, yield_array first rest trailing, by simp⟩

theorem exists_listed_eq_cons (first : Derivation) (rest : List Derivation) :
    ∃ symbol more, listed (first :: rest) = symbol :: more ∧ symbol ≠ .closing := by
  obtain ⟨symbol, more, begins, different⟩ := exists_yield_eq_cons first
  cases rest with
  | nil => exact ⟨symbol, more, by rw [listed_singleton, begins], different⟩
  | cons second rest =>
    exact ⟨symbol, _, by rw [listed_cons_cons, begins, List.cons_append], different⟩

/-- The derivation can be read off its yield, whatever stands behind it. -/
def SelfDelimiting (derivation : Derivation) : Prop :=
  ∀ other behind behind', derivation.yield ++ behind = other.yield ++ behind' →
    derivation = other ∧ behind = behind'

/-- Behind the elements of an array its end can be told from a further element. -/
theorem trailingComma_append_ne (trailing : Bool) (first : Derivation) (rest : List Derivation)
    (behind behind' : List Symbol) :
    trailingComma trailing ++ .closing :: behind ≠
      .comma :: (listed (first :: rest) ++ behind') := by
  obtain ⟨symbol, more, begins, different⟩ := exists_listed_eq_cons first rest
  rw [begins]
  cases trailing with
  | false => simp [trailingComma]
  | true =>
    intro same
    exact different (List.cons.inj (List.cons.inj same).2).1.symm

theorem trailingComma_append_inj {trailing trailing' : Bool} {behind behind' : List Symbol}
    (same : trailingComma trailing ++ .closing :: behind =
      trailingComma trailing' ++ .closing :: behind') :
    trailing = trailing' ∧ behind = behind' := by
  cases trailing <;> cases trailing' <;> simp_all [trailingComma]

/-- The elements of an array, its trailing comma and its end can be read off its yield. -/
theorem listed_append_inj {first first' : Derivation} {rest rest' : List Derivation}
    {trailing trailing' : Bool} {behind behind' : List Symbol}
    (each : ∀ next ∈ first :: rest, SelfDelimiting next)
    (same : listed (first :: rest) ++ (trailingComma trailing ++ .closing :: behind) =
      listed (first' :: rest') ++ (trailingComma trailing' ++ .closing :: behind')) :
    first = first' ∧ rest = rest' ∧ trailing = trailing' ∧ behind = behind' := by
  -- each first element is delimited by itself, and what stands behind it shows whether more follow
  induction rest generalizing first first' rest' with
  | nil =>
    rw [listed_singleton] at same
    have here := each first List.mem_cons_self first'
    cases rest' with
    | nil =>
      rw [listed_singleton] at same
      obtain ⟨rfl, ends⟩ := here _ _ same
      obtain ⟨rfl, rfl⟩ := trailingComma_append_inj ends
      exact ⟨rfl, rfl, rfl, rfl⟩
    | cons second' rest' =>
      rw [listed_cons_cons, List.append_assoc] at same
      exact absurd (here _ _ same).2 (trailingComma_append_ne _ _ _ _ _)
  | cons second rest ih =>
    rw [listed_cons_cons, List.append_assoc] at same
    rw [List.forall_mem_cons] at each
    have here := each.1 first'
    cases rest' with
    | nil =>
      rw [listed_singleton] at same
      exact absurd (here _ _ same).2.symm (trailingComma_append_ne _ _ _ _ _)
    | cons second' rest' =>
      rw [listed_cons_cons, List.append_assoc] at same
      obtain ⟨rfl, later⟩ := here _ _ same
      obtain ⟨rfl, rfl, rfl, rfl⟩ := ih each.2 (List.cons.inj later).2
      exact ⟨rfl, rfl, rfl, rfl⟩

theorem selfDelimiting (derivation : Derivation) : SelfDelimiting derivation := by
  induction derivation with
  | literal value =>
    intro other behind behind' same
    cases other with
    | literal value' => simpa [yield] using same
    | empty => simp [yield] at same
    | array first' rest' trailing' => simp [yield] at same
  | empty =>
    intro other behind behind' same
    cases other with
    | literal value' => simp [yield] at same
    | empty => simpa [yield] using same
    | array first' rest' trailing' =>
      obtain ⟨symbol, more, begins, different⟩ := exists_listed_eq_cons first' rest'
      rw [yield, yield_array, begins] at same
      exact absurd (List.cons.inj (List.cons.inj same).2).1.symm different
  | array first rest trailing ihFirst ihRest =>
    intro other behind behind' same
    rw [yield_array] at same
    cases other with
    | literal value' => simp [yield] at same
    | empty =>
      obtain ⟨symbol, more, begins, different⟩ := exists_listed_eq_cons first rest
      rw [yield, begins] at same
      exact absurd (List.cons.inj (List.cons.inj same).2).1 different
    | array first' rest' trailing' =>
      rw [yield_array] at same
      have inside := (List.cons.inj same).2
      simp only [List.append_assoc, List.append_eq, List.singleton_append] at inside
      obtain ⟨rfl, rfl, rfl, rfl⟩ :=
        listed_append_inj (List.forall_mem_cons.mpr ⟨ihFirst, ihRest⟩) inside
      exact ⟨rfl, rfl⟩

/-- No list of symbols has two derivations. -/
theorem yield_injective : Function.Injective yield := by
  intro derivation other same
  exact (selfDelimiting derivation other [] [] (by rw [same])).1

/-! ### Derivations and the grammar -/

/-- Derivations of the elements, one after the other. -/
theorem exists_derivations {parts : List (List Symbol)} {elements : List Node}
    (each : ∀ element ∈ elements, ∀ symbols, Derives symbols element →
      ∃ derivation : Derivation, derivation.yield = symbols ∧ derivation.tree = element)
    (derived : List.Forall₂ Derives parts elements) :
    ∃ items : List Derivation, items.map yield = parts ∧ items.map Derivation.tree = elements := by
  induction derived with
  | nil => exact ⟨[], rfl, rfl⟩
  | cons first _ ih =>
    rw [List.forall_mem_cons] at each
    obtain ⟨derivation, rfl, rfl⟩ := each.1 _ first
    obtain ⟨items, rfl, rfl⟩ := ih each.2
    exact ⟨derivation :: items, rfl, rfl⟩

/-- Symbols derive a tree exactly if there is a derivation of the tree with these symbols. -/
theorem derives_iff : Derives symbols tree ↔
    ∃ derivation : Derivation, derivation.yield = symbols ∧ derivation.tree = tree := by
  constructor
  · intro derives
    induction tree generalizing symbols with
    | program => cases derives
    | literal value =>
      cases derives
      exact ⟨.literal value, rfl, rfl⟩
    | array elements ih =>
      cases derives with
      | array derived allowed =>
        obtain ⟨items, rfl, rfl⟩ := exists_derivations (fun element member _ => ih element member)
          derived
        cases items with
        | nil =>
          obtain rfl : _ = [] := by simpa using allowed
          exact ⟨.empty, rfl, rfl⟩
        | cons first rest =>
          rcases allowed with rfl | ⟨rfl, -⟩
          · exact ⟨.array first rest false, yield_array first rest false, tree_array first rest _⟩
          · exact ⟨.array first rest true, yield_array first rest true, tree_array first rest _⟩
  · rintro ⟨derivation, rfl, rfl⟩
    induction derivation with
    | literal value => exact .literal
    | empty => exact .array .nil (Or.inl rfl)
    | array first rest trailing ihFirst ihRest =>
      rw [yield_array, tree_array]
      refine .array ?_ ?_
      · rw [List.forall₂_map_left_iff, List.forall₂_map_right_iff, List.forall₂_same]
        exact List.forall_mem_cons.mpr ⟨ihFirst, ihRest⟩
      · cases trailing with
        | false => exact Or.inl rfl
        | true => exact Or.inr ⟨rfl, by simp⟩

end Derivation

/-- Symbols derive one tree at most. -/
theorem Derives.unique {symbols : List Symbol} {tree tree' : Node} (first : Derives symbols tree)
    (second : Derives symbols tree') : tree = tree' := by
  obtain ⟨derivation, rfl, rfl⟩ := Derivation.derives_iff.mp first
  obtain ⟨other, same, rfl⟩ := Derivation.derives_iff.mp second
  rw [Derivation.yield_injective same]

end LiteralLang
