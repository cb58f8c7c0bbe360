import LiteralLang.Proofs.Node.Progress

/-!
# What the builder accepts

`Token.Plays` is the part of a token in the grammar, told by its value first and by its text only if
it has none.  The builder accepts a list of tokens exactly if their parts have a derivation whose
tree nests arrays no deeper than the bound, and then the program around that tree is the result.
Nothing is asked of the tokens: they may be such as no source text has.
-/

namespace LiteralLang

/-! ### The parts of tokens -/

/-- The token plays the part.  A value makes it a literal, whatever its text is. -/
inductive Token.Plays : Token → Symbol → Prop
  | value {text decoded offset} : Plays ⟨text, some decoded, offset⟩ (.literal decoded.scalar)
  | opening {offset} : Plays ⟨"[", none, offset⟩ .opening
  | closing {offset} : Plays ⟨"]", none, offset⟩ .closing
  | comma {offset} : Plays ⟨",", none, offset⟩ .comma
  | null {offset} : Plays ⟨"null", none, offset⟩ (.literal .null)
  | true {offset} : Plays ⟨"true", none, offset⟩ (.literal (.boolean true))
  | false {offset} : Plays ⟨"false", none, offset⟩ (.literal (.boolean false))
  | foreign {text offset} : text ∉ ["[", "]", ",", "null", "true", "false"] →
      Plays ⟨text, none, offset⟩ .foreign

variable {token : Token} {tokens : List Token} {symbol : Symbol} {symbols : List Symbol}
  {limit : Nat} {node : Node}

theorem Token.Plays.symbol_eq (plays : token.Plays symbol) : token.symbol = symbol := by
  cases plays with
  | @foreign text offset unknown =>
    simp only [List.mem_cons, List.not_mem_nil, or_false, not_or] at unknown
    obtain ⟨noOpening, noClosing, noComma, noNull, noTrue, noFalse⟩ := unknown
    have noConstant : Scalar.constant? text = none := by
      rw [Scalar.constant?, List.lookup_eq_none_iff]
      simp [Scalar.constants, noNull, noTrue, noFalse]
    simp [Token.symbol, Symbol.ofWord, noOpening, noClosing, noComma, noConstant]
  | _ => rfl

theorem Token.plays_symbol (token : Token) : token.Plays token.symbol := by
  obtain ⟨text, decoded, offset⟩ := token
  cases decoded with
  | some decoded => exact .value
  | none =>
    by_cases known : text ∈ ["[", "]", ",", "null", "true", "false"]
    · simp only [List.mem_cons, List.not_mem_nil, or_false] at known
      rcases known with rfl | rfl | rfl | rfl | rfl | rfl
      · exact .opening
      · exact .closing
      · exact .comma
      · exact .null
      · exact .true
      · exact .false
    · have foreign : Token.Plays ⟨text, none, offset⟩ .foreign := .foreign known
      rwa [← foreign.symbol_eq] at foreign

/-- Every token plays exactly one part. -/
theorem Token.plays_iff : token.Plays symbol ↔ token.symbol = symbol :=
  ⟨Token.Plays.symbol_eq, fun same => same ▸ token.plays_symbol⟩

/-- A string that reads like a bracket is a literal. -/
example : (⟨"]", some (.text "]"), 0⟩ : Token).symbol = .literal (.text "]") := rfl

theorem forall₂_plays_iff : List.Forall₂ Token.Plays tokens symbols ↔
    tokens.map Token.symbol = symbols := by
  have same : Token.Plays = fun token symbol => token.symbol = symbol := by
    funext token symbol
    exact propext Token.plays_iff
  rw [same, ← List.forall₂_map_left_iff (R := Eq) (f := Token.symbol), List.forall₂_eq_eq_eq]

/-! ### The order of elements -/

namespace Node

mutual

/-- The brackets and literals of a tree from left to right. -/
def outline : Node → List Symbol
  | .program body => body.outline
  | .literal value => [.literal value]
  | .array elements => .opening :: (outlines elements ++ [.closing])

/-- The brackets and literals of several trees from left to right. -/
def outlines : List Node → List Symbol
  | [] => []
  | element :: rest => element.outline ++ outlines rest

end

theorem outlines_eq_flatMap (elements : List Node) :
    outlines elements = elements.flatMap outline := by
  induction elements with
  | nil => rfl
  | cons element elements ih => rw [outlines, ih, List.flatMap_cons]

end Node

namespace Derivation

theorem filter_listed {items : List Derivation}
    (each : ∀ item ∈ items, item.yield.filter (· ≠ .comma) = item.tree.outline) :
    (listed items).filter (· ≠ .comma) = (items.map Derivation.tree).flatMap Node.outline := by
  induction items with
  | nil => rfl
  | cons first rest ih =>
    rw [List.forall_mem_cons] at each
    cases rest with
    | nil => rw [listed_singleton, each.1]; simp
    | cons second rest =>
      rw [listed_cons_cons, List.filter_append, List.filter_cons_of_neg (by simp), each.1,
        ih each.2, List.map_cons (a := first), List.flatMap_cons]

/-- A tree has the brackets and literals that were derived, in the same order. -/
theorem filter_yield (derivation : Derivation) :
    derivation.yield.filter (· ≠ .comma) = derivation.tree.outline := by
  induction derivation with
  | literal value => rfl
  | empty => rfl
  | array first rest trailing ihFirst ihRest =>
    have inside := filter_listed (List.forall_mem_cons.mpr ⟨ihFirst, ihRest⟩)
    rw [yield_array, tree_array, Node.outline, Node.outlines_eq_flatMap, ← inside]
    cases trailing <;> simp [trailingComma]

theorem hasProgram_tree (derivation : Derivation) : derivation.tree.hasProgram = false := by
  induction derivation with
  | literal value => rfl
  | empty => rfl
  | array first rest trailing ihFirst ihRest =>
    rw [tree_array, Node.hasProgram_array, List.forall_mem_map]
    exact List.forall_mem_cons.mpr ⟨ihFirst, ihRest⟩

end Derivation

/-! ### Acceptance -/

namespace Progress

/-- The builder gets to the end of a program exactly if it has read a derivation for which there is
room. -/
theorem run_eq_complete_iff {body : Node} :
    run limit (.wanting []) tokens = .ok (.complete body) ↔ ∃ derivation : Derivation,
      derivation.yield = tokens.map Token.symbol ∧ derivation.tree = body ∧ body.depth ≤ limit := by
  constructor
  · intro read
    have reached := reaches_of_run read
    generalize tokens.map Token.symbol = symbols at reached
    cases reached with
    | @complete derivation room => exact ⟨derivation, rfl, rfl, room⟩
  · rintro ⟨derivation, yield, rfl, room⟩
    have derives := Derivation.derives_iff.mpr ⟨derivation, rfl, rfl⟩
    have fits : ([] : List OpenArray).length + derivation.tree.depth ≤ limit := by
      rwa [List.length_nil, Nat.zero_add]
    exact run_of_derives derives yield.symm fits

theorem finish_eq_ok_iff {progress : Progress} :
    progress.finish = .ok node ↔ ∃ body, progress = .complete body ∧ node = .program body := by
  cases progress with
  | wanting => simp [finish]
  | behindElement => simp [finish]
  | complete body => simp [finish, eq_comm]

end Progress

theorem Node.ofTokens_eq_ok_iff {options : CompileOptions} :
    ofTokens options tokens = .ok node ↔ ∃ derivation : Derivation,
      derivation.yield = tokens.map Token.symbol ∧
      derivation.tree.depth ≤ options.effectiveMaxDepth ∧ node = .program derivation.tree := by
  rw [ofTokens_eq_run, Result.bind_eq_ok_iff]
  constructor
  · rintro ⟨progress, read, finished⟩
    obtain ⟨body, rfl, rfl⟩ := Progress.finish_eq_ok_iff.mp finished
    obtain ⟨derivation, yield, rfl, room⟩ := Progress.run_eq_complete_iff.mp read
    exact ⟨derivation, yield, room, rfl⟩
  · rintro ⟨derivation, yield, room, rfl⟩
    refine ⟨.complete derivation.tree, ?_, rfl⟩
    exact Progress.run_eq_complete_iff.mpr ⟨derivation, yield, rfl, room⟩

/-- Tokens that derive a tree are built into it wherever its arrays are allowed to nest, and
elsewhere the bound is all that is wrong with them. -/
theorem Node.ofTokens_of_derives {options : CompileOptions} {tree : Node}
    (derives : Derives (tokens.map Token.symbol) tree) :
    ofTokens options tokens =
      if tree.depth ≤ options.effectiveMaxDepth then .ok (.program tree)
      else .error (.recursionLimit options.effectiveMaxDepth) := by
  obtain ⟨derivation, yield, rfl⟩ := Derivation.derives_iff.mp derives
  split
  case isTrue room => exact ofTokens_eq_ok_iff.mpr ⟨derivation, yield, room, rfl⟩
  case isFalse deep =>
    have read := Progress.run_eq_complete_iff.mpr ⟨derivation, yield, rfl, Nat.le_refl _⟩
    rw [ofTokens_eq_run]
    obtain same | stops :=
      Progress.run_eq_or_recursionLimit options.effectiveMaxDepth read
    · obtain ⟨other, otherYield, otherTree, room⟩ := Progress.run_eq_complete_iff.mp same
      exact absurd room deep
    · rw [stops]
      rfl

/-- Tokens are built into a tree exactly if they play the parts of a derivation whose arrays nest no
deeper than the bound, and the tree is the program around that of the derivation.  They have one
derivation at most.  Its tree has the brackets and literals of the tokens in their order, and no
program in it. -/
theorem Node.ofTokens_eq_ok_iff_derivation (options : CompileOptions) (tokens : List Token) :
    (∀ node, ofTokens options tokens = .ok node ↔
      ∃ derivation : Derivation, List.Forall₂ Token.Plays tokens derivation.yield ∧
        derivation.tree.depth ≤ min options.maxDepth 1024 ∧ node = .program derivation.tree) ∧
    ∀ derivation : Derivation, List.Forall₂ Token.Plays tokens derivation.yield →
      (∀ other : Derivation, List.Forall₂ Token.Plays tokens other.yield → other = derivation) ∧
      derivation.tree.outline = derivation.yield.filter (· ≠ .comma) ∧
      derivation.tree.hasProgram = false := by
  simp only [forall₂_plays_iff]
  constructor
  · intro node
    simp only [ofTokens_eq_ok_iff, @eq_comm _ (Derivation.yield _)]
    rfl
  · intro derivation yield
    refine ⟨?_, derivation.filter_yield.symm, derivation.hasProgram_tree⟩
    intro other otherYield
    exact Derivation.yield_injective (otherYield.symm.trans yield)

end LiteralLang
