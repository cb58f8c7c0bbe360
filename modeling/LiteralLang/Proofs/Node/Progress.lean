import LiteralLang.Proofs.Node.Derivation

/-!
# Where the builder stands

`Moves` says everything that one step of the builder can do, and `Reaches` what its progress has to
do with the symbols that it has read: the arrays still open are the ones whose brackets are, with
derivations of the elements in them.  Every step keeps this, so it holds behind every run.
-/

namespace LiteralLang.Progress

/-- A step from one progress to another, by the part that a token plays. -/
inductive Moves (limit : Nat) : Progress → Symbol → Progress → Prop
  | literal {opens value} :
      Moves limit (.wanting opens) (.literal value) (withElement (.literal value) opens)
  | opening {opens} : opens.length < limit →
      Moves limit (.wanting opens) .opening (.wanting ([] :: opens))
  | comma {innermost outer} :
      Moves limit (.behindElement innermost outer) .comma (.wanting (innermost :: outer))
  | closing {progress innermost outer} :
      progress = .wanting (innermost :: outer) ∨ progress = .behindElement innermost outer →
      Moves limit progress .closing (withElement (.array innermost.reverse) outer)

/-- The symbols of elements, with a comma behind each. -/
def followed (items : List Derivation) : List Symbol :=
  items.flatMap fun item => item.yield ++ [.comma]

/-- The symbols open the arrays, up to where an element is wanted in the innermost of them.  There
is room for all of them, and for the elements that they have. -/
inductive Opens (limit : Nat) : List Symbol → List OpenArray → Prop
  | none : Opens limit [] []
  | array {symbols outer} {items : List Derivation} : Opens limit symbols outer →
      outer.length < limit → (∀ item ∈ items, outer.length + 1 + item.tree.depth ≤ limit) →
      Opens limit (symbols ++ .opening :: followed items)
        ((items.map Derivation.tree).reverse :: outer)

/-- The symbols lead to the progress. -/
inductive Reaches (limit : Nat) : List Symbol → Progress → Prop
  | wanting {symbols opens} : Opens limit symbols opens → Reaches limit symbols (.wanting opens)
  | behindElement {symbols innermost outer} {last : Derivation} :
      Opens limit symbols (innermost :: outer) → outer.length + 1 + last.tree.depth ≤ limit →
      Reaches limit (symbols ++ last.yield) (.behindElement (last.tree :: innermost) outer)
  | complete {derivation : Derivation} : derivation.tree.depth ≤ limit →
      Reaches limit derivation.yield (.complete derivation.tree)

variable {limit bound : Nat} {progress later : Progress} {opens outer : List OpenArray}
  {innermost : OpenArray} {token : Token} {tokens : List Token} {fault : CompileError}
  {symbol : Symbol} {symbols : List Symbol} {items : List Derivation}

/-! ### Steps -/

theorem next_eq_ok_iff : next limit progress token = .ok later ↔
    Moves limit progress token.symbol later := by
  constructor
  · intro read
    unfold next at read
    generalize token.symbol = symbol at read
    split at read
    case h_1 => exact Except.ok.inj read ▸ .literal
    case h_2 =>
      split at read
      case isTrue => simp at read
      case isFalse room => exact Except.ok.inj read ▸ .opening (Nat.lt_of_not_le room)
    case h_3 => exact Except.ok.inj read ▸ .closing (Or.inl rfl)
    case h_4 => exact Except.ok.inj read ▸ .closing (Or.inr rfl)
    case h_5 => exact Except.ok.inj read ▸ .comma
    case h_6 => simp at read
  · intro moves
    generalize plays : token.symbol = symbol at moves
    cases moves with
    | literal => exact next_literal plays
    | opening room => exact next_opening plays room
    | comma => exact next_comma plays
    | closing inside => exact next_closing plays inside

/-- A token is refused either because its bracket is one too many, or because no bound would let it
pass. -/
theorem next_eq_error (refused : next limit progress token = .error fault) :
    (fault = .recursionLimit limit ∧ token.symbol = .opening ∧
      ∃ opens, progress = .wanting opens ∧ limit ≤ opens.length) ∨
    (fault = .unexpectedToken progress.expectation (some token.text) ∧
      ∀ bound later, ¬ Moves bound progress token.symbol later) := by
  unfold next at refused
  generalize token.symbol = symbol at refused
  split at refused
  case h_2 opens =>
    split at refused
    case isTrue full => exact Or.inl ⟨(Except.error.inj refused).symm, rfl, opens, rfl, full⟩
    case isFalse => simp at refused
  case h_6 noLiteral noOpening noClosing noClosingBehind noComma =>
    refine Or.inr ⟨(Except.error.inj refused).symm, ?_⟩
    intro bound later moves
    cases moves with
    | literal => exact noLiteral _ _ rfl rfl
    | opening => exact noOpening _ rfl rfl
    | comma => exact noComma _ _ rfl rfl
    | closing inside =>
      rcases inside with rfl | rfl
      · exact noClosing _ _ rfl rfl
      · exact noClosingBehind _ _ rfl rfl
  all_goals simp at refused

/-- A token that no bound lets pass is named in the fault. -/
theorem next_eq_unexpected (stuck : ∀ bound later, ¬ Moves bound progress token.symbol later) :
    next limit progress token =
      .error (.unexpectedToken progress.expectation (some token.text)) := by
  cases read : next limit progress token with
  | ok later => exact absurd (next_eq_ok_iff.mp read) (stuck limit later)
  | error fault =>
    obtain ⟨-, opening, opens, rfl, -⟩ | ⟨rfl, -⟩ := next_eq_error read
    · have wider : Moves (opens.length + 1) (.wanting opens) token.symbol
          (.wanting ([] :: opens)) := opening ▸ .opening (Nat.lt_succ_self _)
      exact absurd wider (stuck _ _)
    · rfl

theorem openCount_withElement (element : Node) (opens : List OpenArray) :
    (withElement element opens).openCount = opens.length := by
  cases opens with
  | nil => rfl
  | cons => rfl

/-- An opening bracket opens one array, a closing one closes one, and nothing else does either. -/
theorem Moves.openCount (moves : Moves limit progress symbol later) :
    progress.openCount + [symbol].count .opening = later.openCount + [symbol].count .closing := by
  cases moves with
  | literal => rw [openCount_withElement]; simp [Progress.openCount]
  | opening => simp [Progress.openCount]
  | comma => simp [Progress.openCount]
  | closing inside =>
    rw [openCount_withElement]
    rcases inside with rfl | rfl <;> simp [Progress.openCount]

/-- Whether a step can be made depends on the bound only for the arrays that are open behind it. -/
theorem Moves.of_openCount_le (moves : Moves bound progress symbol later)
    (room : later.openCount ≤ limit) : Moves limit progress symbol later := by
  cases moves with
  | literal => exact .literal
  | opening => exact .opening room
  | comma => exact .comma
  | closing inside => exact .closing inside

theorem Moves.openCount_le (moves : Moves limit progress symbol later)
    (room : progress.openCount ≤ limit) : later.openCount ≤ limit := by
  cases moves with
  | literal => rwa [openCount_withElement]
  | opening below => exact below
  | comma => exact room
  | closing inside =>
    rw [openCount_withElement]
    rcases inside with rfl | rfl <;> exact Nat.le_of_succ_le room

/-! ### Runs -/

theorem openCount_le_of_run (read : run limit progress tokens = .ok later)
    (room : progress.openCount ≤ limit) : later.openCount ≤ limit := by
  induction tokens generalizing progress with
  | nil =>
    obtain rfl := Except.ok.inj read
    exact room
  | cons token tokens ih =>
    obtain ⟨between, step, rest⟩ := Result.bind_eq_ok_iff.mp read
    exact ih rest ((next_eq_ok_iff.mp step).openCount_le room)

/-- A run opens as many arrays as it reads more opening brackets than closing ones. -/
theorem openCount_of_run (read : run limit progress tokens = .ok later) :
    progress.openCount + (tokens.map Token.symbol).count .opening =
      later.openCount + (tokens.map Token.symbol).count .closing := by
  induction tokens generalizing progress with
  | nil =>
    obtain rfl := Except.ok.inj read
    rfl
  | cons token tokens ih =>
    obtain ⟨between, step, rest⟩ := Result.bind_eq_ok_iff.mp read
    have first := (next_eq_ok_iff.mp step).openCount
    have others := ih rest
    rw [List.map_cons, ← List.singleton_append, List.count_append, List.count_append]
    omega

/-- A run is the same under a wider bound. -/
theorem run_of_le (read : run bound progress tokens = .ok later)
    (room : progress.openCount ≤ bound) (wider : bound ≤ limit) :
    run limit progress tokens = .ok later := by
  induction tokens generalizing progress with
  | nil => exact read
  | cons token tokens ih =>
    obtain ⟨between, step, rest⟩ := Result.bind_eq_ok_iff.mp read
    have moves := next_eq_ok_iff.mp step
    have fits := moves.openCount_le room
    have wide := moves.of_openCount_le (Nat.le_trans fits wider)
    rw [run_cons, next_eq_ok_iff.mpr wide, Result.ok_bind]
    exact ih rest fits

/-- The bound decides how far a run gets, but not where. -/
theorem run_unique {progress' : Progress} (read : run limit (.wanting []) tokens = .ok progress)
    (read' : run bound (.wanting []) tokens = .ok progress') : progress = progress' := by
  have wide := run_of_le read (Nat.zero_le limit) (Nat.le_max_left limit bound)
  have wide' := run_of_le read' (Nat.zero_le bound) (Nat.le_max_right limit bound)
  exact Except.ok.inj (wide.symm.trans wide')

/-- A narrower bound changes nothing about a step but that an opening bracket may be one too
many. -/
theorem Moves.next_eq (moves : Moves bound progress token.symbol later) :
    next limit progress token = .ok later ∨
      next limit progress token = .error (.recursionLimit limit) := by
  generalize plays : token.symbol = symbol at moves
  cases moves with
  | literal => exact Or.inl (next_literal plays)
  | @opening opens _ =>
    by_cases room : opens.length < limit
    · exact Or.inl (next_opening plays room)
    · refine Or.inr ?_
      simp only [Progress.next, plays, if_pos (Nat.le_of_not_lt room)]
  | comma => exact Or.inl (next_comma plays)
  | closing inside => exact Or.inl (next_closing plays inside)

/-- A run under one bound is the same under another, or comes to a bracket that is one too many. -/
theorem run_eq_or_recursionLimit (limit : Nat) (read : run bound progress tokens = .ok later) :
    run limit progress tokens = .ok later ∨
      run limit progress tokens = .error (.recursionLimit limit) := by
  induction tokens generalizing progress with
  | nil => exact Or.inl read
  | cons token tokens ih =>
    obtain ⟨between, step, rest⟩ := Result.bind_eq_ok_iff.mp read
    rw [run_cons]
    obtain goesOn | stops := (next_eq_ok_iff.mp step).next_eq
    · rw [goesOn]
      exact ih rest
    · rw [stops]
      exact Or.inr rfl

/-! ### Derivations of arrays -/

theorem followed_append_yield (items : List Derivation) (last : Derivation) :
    followed items ++ last.yield = Derivation.listed (items ++ [last]) := by
  induction items with
  | nil => exact (Derivation.listed_singleton last).symm
  | cons first items ih =>
    obtain ⟨second, rest, shape⟩ := List.exists_cons_of_ne_nil (List.append_ne_nil_of_right_ne_nil
      items (List.cons_ne_nil last []))
    rw [List.cons_append, shape, Derivation.listed_cons_cons, ← shape, ← ih]
    simp [followed]

/-- If there are elements at all, the comma behind the last is the trailing one. -/
theorem followed_eq_listed (items : List Derivation) : followed items =
    Derivation.listed items ++ Derivation.trailingComma (decide (items ≠ [])) := by
  obtain rfl | ⟨front, last, rfl⟩ := List.eq_nil_or_concat' items
  · rfl
  · rw [← followed_append_yield]
    simp [followed, Derivation.trailingComma]

/-- Elements in brackets are an array, with a trailing comma or without. -/
theorem exists_derivation (items : List Derivation) {trailing : Bool}
    (allowed : trailing = true → items ≠ []) : ∃ derivation : Derivation,
      derivation.yield = .opening :: (Derivation.listed items ++
        Derivation.trailingComma trailing ++ [.closing]) ∧
      derivation.tree = .array (items.map Derivation.tree) := by
  cases items with
  | nil =>
    obtain rfl : trailing = false := by simpa using allowed
    exact ⟨.empty, rfl, rfl⟩
  | cons first rest =>
    exact ⟨.array first rest trailing, Derivation.yield_array first rest trailing,
      Derivation.tree_array first rest trailing⟩

/-! ### Symbols and progress -/

theorem Opens.length_le (opened : Opens limit symbols opens) : opens.length ≤ limit := by
  cases opened with
  | none => exact Nat.zero_le limit
  | array _ room _ => exact room

/-- An element has been derived where one was wanted. -/
theorem Opens.withElement (opened : Opens limit symbols opens) (derivation : Derivation)
    (room : opens.length + derivation.tree.depth ≤ limit) :
    Reaches limit (symbols ++ derivation.yield) (withElement derivation.tree opens) := by
  cases opens with
  | nil =>
    cases opened
    rw [List.length_nil, Nat.zero_add] at room
    exact .complete room
  | cons innermost outer => exact .behindElement opened room

/-- An array has been derived where an element was wanted. -/
theorem Opens.withArray (opened : Opens limit symbols outer) (below : outer.length < limit)
    (each : ∀ item ∈ items, outer.length + 1 + item.tree.depth ≤ limit) (trailing : Bool)
    (allowed : trailing = true → items ≠ []) :
    Reaches limit (symbols ++ .opening :: (Derivation.listed items ++
      Derivation.trailingComma trailing ++ [.closing]))
      (Progress.withElement (.array (items.map Derivation.tree)) outer) := by
  obtain ⟨derivation, yield, tree⟩ := exists_derivation items allowed
  rw [← yield, ← tree]
  apply opened.withElement derivation
  rw [tree, Node.add_depth_array_le_iff below, List.forall_mem_map]
  exact each

/-- A step leads to the symbols with one more. -/
theorem Reaches.moves (reached : Reaches limit symbols progress)
    (moves : Moves limit progress symbol later) : Reaches limit (symbols ++ [symbol]) later := by
  cases reached with
  | @wanting symbols opens opened =>
    cases moves with
    | literal => exact opened.withElement (.literal _) opened.length_le
    | opening room => exact .wanting (@Opens.array limit _ _ [] opened room (by simp))
    | closing inside =>
      obtain same | same := inside
      · obtain rfl := Progress.wanting.inj same
        cases opened with
        | @array symbols outer items opened below each =>
          have closed := opened.withArray below each (decide (items ≠ [])) (by simp)
          rw [← followed_eq_listed] at closed
          simpa using closed
      · simp at same
  | @behindElement symbols innermost outer last opened fits =>
    cases opened with
    | @array symbols outer items opened below each =>
      -- the last element has no comma behind it yet, so it joins the others either way
      have eachToLast : ∀ item ∈ items ++ [last], outer.length + 1 + item.tree.depth ≤ limit :=
        List.forall_mem_append.mpr ⟨each, List.forall_mem_singleton.mpr fits⟩
      cases moves with
      | comma =>
        have further := Reaches.wanting (opened.array below eachToLast)
        simpa [followed] using further
      | closing inside =>
        obtain same | same := inside
        · simp at same
        · have closed := opened.withArray below eachToLast false (by simp)
          obtain ⟨rfl, rfl⟩ := Progress.behindElement.inj same
          rw [← followed_append_yield] at closed
          simpa [Derivation.trailingComma] using closed
  | complete room =>
    cases moves with
    | closing inside => simp at inside

/-- A run leads to the symbols of all that it has read. -/
theorem Reaches.run (reached : Reaches limit symbols progress)
    (read : run limit progress tokens = .ok later) :
    Reaches limit (symbols ++ tokens.map Token.symbol) later := by
  induction tokens generalizing symbols progress with
  | nil =>
    obtain rfl := Except.ok.inj read
    rwa [List.map_nil, List.append_nil]
  | cons token tokens ih =>
    obtain ⟨between, step, rest⟩ := Result.bind_eq_ok_iff.mp read
    have further := ih (reached.moves (next_eq_ok_iff.mp step)) rest
    rwa [List.append_assoc] at further

/-- The progress behind the tokens that have been read from the start on. -/
theorem reaches_of_run (read : run limit (.wanting []) tokens = .ok later) :
    Reaches limit (tokens.map Token.symbol) later :=
  Reaches.run (.wanting .none) read

end LiteralLang.Progress
