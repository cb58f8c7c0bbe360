import LiteralLang.Node.Build
import LiteralLang.Proofs.Node.Tree
import LiteralLang.Proofs.Result
import Mathlib.Data.List.Forall2

/-!
# The grammar of trees

`Derives` is the grammar of the builder, on the parts that tokens play.  Every derivation is
followed by a run of the builder, wherever an element is wanted and the open arrays leave room for
the depth of the tree.  A word without a meaning is refused where a literal would have gone on.
-/

namespace LiteralLang

/-- The symbols derive the tree.  Brackets stand around the elements of an array and commas between
them, and a comma may also follow the last element. -/
inductive Derives : List Symbol → Node → Prop
  | literal {value} : Derives [.literal value] (.literal value)
  | array {parts elements trailing} : List.Forall₂ Derives parts elements →
      (trailing = [] ∨ trailing = [.comma] ∧ elements ≠ []) →
      Derives (.opening :: ([.comma].intercalate parts ++ trailing ++ [.closing])) (.array elements)

namespace Progress

/-- Reading several tokens. -/
def run (limit : Nat) (progress : Progress) (tokens : List Token) :
    Except CompileError Progress := tokens.foldlM (next limit) progress

variable {limit : Nat} {progress later : Progress} {opens outer : List OpenArray}
  {innermost : OpenArray} {token other : Token} {tokens more : List Token} {tree : Node}
  {elements : List Node} {symbols : List Symbol} {parts : List (List Symbol)}

theorem run_nil : run limit progress [] = .ok progress := rfl

theorem run_cons : run limit progress (token :: tokens) =
    next limit progress token >>= fun later => run limit later tokens := rfl

theorem run_append : run limit progress (tokens ++ more) =
    run limit progress tokens >>= fun later => run limit later more := List.foldlM_append

/-! ### Steps -/

theorem next_literal {value : Scalar} (plays : token.symbol = .literal value) :
    next limit (.wanting opens) token = .ok (withElement (.literal value) opens) := by
  simp only [next, plays]

theorem next_opening (plays : token.symbol = .opening) (room : opens.length < limit) :
    next limit (.wanting opens) token = .ok (.wanting ([] :: opens)) := by
  simp only [next, plays, if_neg (Nat.not_le_of_lt room)]

theorem next_comma (plays : token.symbol = .comma) :
    next limit (.behindElement innermost outer) token = .ok (.wanting (innermost :: outer)) := by
  simp only [next, plays]

/-- An array may be closed behind an element, and also where the next one is wanted. -/
theorem next_closing (plays : token.symbol = .closing)
    (inside : progress = .wanting (innermost :: outer) ∨
      progress = .behindElement innermost outer) :
    next limit progress token = .ok (withElement (.array innermost.reverse) outer) := by
  rcases inside with rfl | rfl <;> simp only [next, plays]

/-! ### Runs along derivations -/

/-- Every derivation of the tree is read as the tree where an element of the innermost array is
wanted. -/
def ReadsInside (limit : Nat) (outer : List OpenArray) (tree : Node) : Prop :=
  ∀ innermost symbols tokens, Derives symbols tree → tokens.map Token.symbol = symbols →
    run limit (.wanting (innermost :: outer)) tokens =
      .ok (withElement tree (innermost :: outer))

/-- The elements of an array, read one after the other into the open array. -/
theorem run_elements (each : ∀ element ∈ elements, ReadsInside limit outer element)
    (nonempty : elements ≠ []) (derived : List.Forall₂ Derives parts elements)
    (plays : tokens.map Token.symbol = [.comma].intercalate parts) :
    run limit (.wanting (innermost :: outer)) tokens =
      .ok (.behindElement (elements.reverse ++ innermost) outer) := by
  induction derived generalizing innermost tokens with
  | nil => exact absurd rfl nonempty
  | @cons part element parts elements first rest ih =>
    rw [List.forall_mem_cons] at each
    cases rest with
    | nil =>
      rw [List.intercalate_singleton] at plays
      exact each.1 innermost part tokens first plays
    | cons second rest =>
      rw [List.intercalate_cons_cons, List.append_assoc, List.map_eq_append_iff] at plays
      obtain ⟨front, back, rfl, frontPlays, backPlays⟩ := plays
      obtain ⟨comma, back, rfl, commaPlays, backPlays⟩ := List.map_eq_cons_iff.mp backPlays
      have later := @ih (element :: innermost) back each.2 (List.cons_ne_nil _ _) backPlays
      rw [run_append, each.1 innermost part front first frontPlays, Result.ok_bind, run_cons]
      change (next limit (.behindElement (element :: innermost) outer) comma >>= _) = _
      rw [next_comma commaPlays, Result.ok_bind, later, List.reverse_cons (a := element),
        List.append_assoc, List.singleton_append]

/-- Behind its last element an array is closed, and one comma may stand in front of the bracket. -/
theorem run_closing {trailing : List Symbol} (allowed : trailing = [] ∨ trailing = [.comma])
    (plays : tokens.map Token.symbol = trailing ++ [.closing]) :
    run limit (.behindElement innermost outer) tokens =
      .ok (withElement (.array innermost.reverse) outer) := by
  obtain ⟨front, last, rfl, frontPlays, lastPlays⟩ := List.map_eq_append_iff.mp plays
  obtain ⟨closing, rfl, closingPlays⟩ := List.map_eq_singleton_iff.mp lastPlays
  rcases allowed with rfl | rfl
  · obtain rfl := List.map_eq_nil_iff.mp frontPlays
    rw [List.nil_append, run_cons, next_closing closingPlays (Or.inr rfl)]
    rfl
  · obtain ⟨comma, rfl, commaPlays⟩ := List.map_eq_singleton_iff.mp frontPlays
    rw [List.singleton_append, run_cons, next_comma commaPlays, Result.ok_bind, run_cons,
      next_closing closingPlays (Or.inl rfl)]
    rfl

/-- Behind its opening bracket an array is read to its end. -/
theorem run_inside {trailing : List Symbol}
    (each : ∀ element ∈ elements, ReadsInside limit outer element)
    (derived : List.Forall₂ Derives parts elements)
    (allowed : trailing = [] ∨ trailing = [.comma] ∧ elements ≠ [])
    (plays : tokens.map Token.symbol = [.comma].intercalate parts ++ trailing ++ [.closing]) :
    run limit (.wanting ([] :: outer)) tokens = .ok (withElement (.array elements) outer) := by
  rw [List.append_assoc, List.map_eq_append_iff] at plays
  obtain ⟨front, back, rfl, frontPlays, backPlays⟩ := plays
  by_cases none : elements = []
  · -- no element has been read, so only the bracket can follow
    subst none
    cases derived
    obtain rfl : trailing = [] := by simpa using allowed
    obtain rfl : front = [] := by simpa using frontPlays
    obtain ⟨closing, rfl, closingPlays⟩ := List.map_eq_singleton_iff.mp backPlays
    rw [List.nil_append, run_cons, next_closing closingPlays (Or.inl rfl)]
    rfl
  · rw [run_append, run_elements each none derived frontPlays, Result.ok_bind, List.append_nil,
      run_closing (allowed.imp_right And.left) backPlays, List.reverse_reverse]

/-- A derivation is read as its tree where an element is wanted. -/
theorem run_of_derives (derives : Derives symbols tree)
    (plays : tokens.map Token.symbol = symbols) (room : opens.length + tree.depth ≤ limit) :
    run limit (.wanting opens) tokens = .ok (withElement tree opens) := by
  induction tree generalizing symbols tokens opens with
  | program => cases derives
  | literal value =>
    cases derives
    obtain ⟨token, rfl, literalPlays⟩ := List.map_eq_singleton_iff.mp plays
    rw [run_cons, next_literal literalPlays]
    rfl
  | array elements ih =>
    cases derives with
    | @array parts _ trailing derived allowed =>
      obtain ⟨opening, inner, rfl, openingPlays, innerPlays⟩ := List.map_eq_cons_iff.mp plays
      have below : opens.length < limit := by
        rw [Node.depth] at room
        omega
      have each : ∀ element ∈ elements, ReadsInside limit opens element := by
        intro element member innermost symbols tokens derives plays
        have shallow := Node.depth_lt_of_mem member
        apply ih element member derives plays
        rw [List.length_cons]
        omega
      rw [run_cons, next_opening openingPlays below, Result.ok_bind]
      exact run_inside each derived allowed innerPlays

end Progress

/-! ### Words without a meaning -/

variable {limit : Nat} {progress later : Progress} {token other : Token} {tokens : List Token}
  {tree : Node} {symbols : List Symbol} {value : Scalar}

/-- The token with a number in it where it is a word without a meaning. -/
def Token.filled (token : Token) : Token :=
  if token.symbol = .foreign then { token with decoded := some (.number .infinity) } else token

theorem Token.filled_of_ne (known : token.symbol ≠ .foreign) : token.filled = token :=
  if_neg known

theorem Token.symbol_filled (foreign : token.symbol = .foreign) :
    token.filled.symbol = .literal (.number .infinity) := by
  rw [Token.filled, if_pos foreign]
  rfl

namespace Progress

/-- Where a literal goes on, a word without a meaning is refused. -/
theorem next_foreign (goesOn : next limit progress other = .ok later)
    (isLiteral : other.symbol = .literal value) (foreign : token.symbol = .foreign) :
    next limit progress token = .error (.unexpectedToken .literal (some token.text)) := by
  cases progress with
  | wanting opens =>
    simp only [next, foreign]
    rfl
  | behindElement innermost outer => simp only [next, isLiteral, reduceCtorEq] at goesOn
  | complete body => simp only [next, reduceCtorEq] at goesOn

/-- If the tokens would be read with literals for the words without a meaning, the first of these
words is the fault. -/
theorem run_of_filled (goesOn : run limit progress (tokens.map Token.filled) = .ok later) :
    run limit progress tokens =
      (tokens.find? (·.symbol = .foreign)).elim (.ok later) fun token =>
        .error (.unexpectedToken .literal (some token.text)) := by
  induction tokens generalizing progress with
  | nil => exact goesOn
  | cons token tokens ih =>
    rw [List.map_cons, run_cons, Result.bind_eq_ok_iff] at goesOn
    obtain ⟨between, stepped, goesOn⟩ := goesOn
    by_cases foreign : token.symbol = .foreign
    · rw [run_cons, next_foreign stepped (Token.symbol_filled foreign) foreign,
        List.find?_cons_of_pos (by simpa using foreign)]
      rfl
    · rw [Token.filled_of_ne foreign] at stepped
      rw [run_cons, stepped, Result.ok_bind, ih goesOn,
        List.find?_cons_of_neg (by simpa using foreign)]

end Progress

/-- The token plays the part, where the word for infinity may stand for the literal that there is
none of. -/
inductive Token.Shows : Token → Symbol → Prop
  | plain {token : Token} {symbol : Symbol} : token.symbol = symbol → symbol ≠ .foreign →
      symbol ≠ .literal (.number .infinity) → Shows token symbol
  | infinity {token : Token} : token.symbol = .foreign → token.text = "Infinity" →
      Shows token (.literal (.number .infinity))

theorem map_symbol_filled (shows : List.Forall₂ Token.Shows tokens symbols) :
    (tokens.map Token.filled).map Token.symbol = symbols := by
  induction shows with
  | nil => rfl
  | @cons token symbol tokens symbols first _ ih =>
    rw [List.map_cons, List.map_cons, ih]
    cases first with
    | plain plays known _ => rw [Token.filled_of_ne (plays ▸ known), plays]
    | infinity foreign _ => rw [Token.symbol_filled foreign]

/-- The first word without a meaning is one for infinity. -/
theorem find?_foreign (shows : List.Forall₂ Token.Shows tokens symbols) :
    (.literal (.number .infinity) ∉ symbols ∧ tokens.find? (·.symbol = .foreign) = none) ∨
    (.literal (.number .infinity) ∈ symbols ∧
      ∃ token, tokens.find? (·.symbol = .foreign) = some token ∧ token.text = "Infinity") := by
  induction shows with
  | nil => exact Or.inl ⟨List.not_mem_nil, rfl⟩
  | @cons token symbol tokens symbols first _ ih =>
    cases first with
    | plain plays known finite =>
      rw [List.find?_cons_of_neg (by simpa [plays] using known), List.mem_cons]
      refine ih.imp ?_ ?_
      · rintro ⟨absent, noForeign⟩
        refine ⟨?_, noForeign⟩
        rintro (same | present)
        · exact finite same.symm
        · exact absent present
      · rintro ⟨present, foreign⟩
        exact ⟨Or.inr present, foreign⟩
    | infinity foreign word =>
      rw [List.find?_cons_of_pos (by simpa using foreign)]
      exact Or.inr ⟨List.mem_cons_self, token, rfl, word⟩

/-! ### Literals of a derivation -/

theorem literal_mem_intercalate {parts : List (List Symbol)} {elements : List Node}
    (each : ∀ element ∈ elements, ∀ symbols, Derives symbols element →
      (.literal value ∈ symbols ↔ value ∈ element.literals))
    (derived : List.Forall₂ Derives parts elements) :
    .literal value ∈ [Symbol.comma].intercalate parts ↔ value ∈ (Node.array elements).literals := by
  rw [Node.mem_literals_array]
  induction derived with
  | nil => simp
  | @cons part element parts elements first rest ih =>
    rw [List.forall_mem_cons] at each
    rw [List.exists_mem_cons_iff, ← each.1 part first, ← ih each.2]
    cases rest with
    | nil => simp
    | cons => simp

/-- The literals of a derivation are those of its tree. -/
theorem Derives.mem_literals (derives : Derives symbols tree) :
    .literal value ∈ symbols ↔ value ∈ tree.literals := by
  induction tree generalizing symbols with
  | program => cases derives
  | literal =>
    cases derives
    rw [Node.literals, List.mem_singleton, List.mem_singleton, Symbol.literal.injEq]
  | array elements ih =>
    cases derives with
    | @array parts _ trailing derived allowed =>
      have each : ∀ element ∈ elements, ∀ symbols, Derives symbols element →
          (.literal value ∈ symbols ↔ value ∈ element.literals) := by
        intro element member symbols derives
        exact ih element member derives
      have inside := literal_mem_intercalate each derived
      rcases allowed with rfl | ⟨rfl, -⟩ <;> simp [← inside]

/-! ### The builder -/

/-- The builder reads the tokens and finishes. -/
theorem Node.ofTokens_eq_run (options : CompileOptions) (tokens : List Token) :
    Node.ofTokens options tokens =
      Progress.run options.effectiveMaxDepth (.wanting []) tokens >>= Progress.finish := by
  have steps (build : Build) :
      (tokens.foldlM (Build.next options.effectiveMaxDepth) build >>= fun build =>
        build.progress.finish) =
      Progress.run options.effectiveMaxDepth build.progress tokens >>= Progress.finish := by
    induction tokens generalizing build with
    | nil => rfl
    | cons token tokens ih =>
      rw [List.foldlM_cons, Progress.run_cons, Build.next]
      cases build.progress.next options.effectiveMaxDepth token with
      | error fault => rfl
      | ok progress => exact ih _
  rw [Node.ofTokens, Node.build]
  simp only [Logged.result_bind, Logged.result_silent, Logged.result_report, Logged.result_pure,
    Result.ok_bind]
  refine Eq.trans ?_ (steps Build.start)
  cases tokens.foldlM (Build.next options.effectiveMaxDepth) Build.start with
  | error fault => rfl
  | ok build => cases finished : build.progress.finish <;> simp [finished]

/-- Tokens that show a derivation build its tree, unless a literal is infinite. -/
theorem Node.ofTokens_of_shows {options : CompileOptions} (derives : Derives symbols tree)
    (shows : List.Forall₂ Token.Shows tokens symbols)
    (room : tree.depth ≤ options.effectiveMaxDepth) :
    Node.ofTokens options tokens =
      if .number .infinity ∈ tree.literals
      then .error (.unexpectedToken .literal (some "Infinity")) else .ok (.program tree) := by
  have fits : ([] : List OpenArray).length + tree.depth ≤ options.effectiveMaxDepth := by
    rwa [List.length_nil, Nat.zero_add]
  have goesOn := Progress.run_of_derives derives (map_symbol_filled shows) fits
  rw [Node.ofTokens_eq_run, Progress.run_of_filled goesOn]
  rcases find?_foreign shows with ⟨finite, none⟩ | ⟨infinite, token, found, word⟩
  · rw [derives.mem_literals] at finite
    rw [none, if_neg finite]
    rfl
  · rw [derives.mem_literals] at infinite
    rw [found, if_pos infinite, ← word]
    rfl

end LiteralLang
