import LiteralLang.Proofs.Node.Progress

/-!
# Reading elements by recursion

The other way to build a tree: an element is read by a function that calls itself for the elements
of an array.  It counts the open arrays as it goes, and its calls nest only as deep as a budget
allows.  One call more than the bound on arrays is enough for every list of tokens, whether it has a
tree or not, and then the tree, the fault and the report are those of `Node.build`.
-/

namespace LiteralLang

/-- A computation on a budget of nested calls: there is no result at all where the budget is used
up, and otherwise there is a value or a fault. -/
abbrev Budgeted (α : Type) := ExceptT CompileError Option α

/-- Where reading by recursion stands: the tokens that are left, the count of the open arrays, and
the greatest that this count has been. -/
structure Descent where
  rest : List Token
  depth : Nat
  deepest : Nat

namespace Descent

/-- A state with fewer tokens left. -/
abbrev Behind (state : Descent) := { later : Descent // later.rest.length < state.rest.length }

/-- An element that is read from a state on, and the state behind it. -/
abbrev Reading (state : Descent) := Budgeted (Node × state.Behind)

/-- The same element, seen from an earlier state. -/
def Reading.since {state later : Descent} (reading : later.Reading)
    (shorter : later.rest.length ≤ state.rest.length) : state.Reading := do
  let (node, ⟨behind, fewer⟩) ← reading
  return (node, ⟨behind, Nat.lt_of_lt_of_le fewer shorter⟩)

/-- The next token plays the part. -/
def comes (symbol : Symbol) (state : Descent) : Bool :=
  state.rest.head?.any fun token => token.symbol = symbol

/-- The state behind the next token. -/
def skip (state : Descent) : Descent := { state with rest := state.rest.tail }

theorem length_skip_lt {state : Descent} {symbol : Symbol} (next : state.comes symbol = true) :
    state.skip.rest.length < state.rest.length := by
  obtain ⟨tokens, depth, deepest⟩ := state
  cases tokens with
  | nil => simp [comes] at next
  | cons token tokens => exact Nat.lt_succ_self _

/-- The end of an array with the given elements, the last first. -/
def close (found : OpenArray) : (state : Descent) → state.Reading
  | ⟨[], _, _⟩ => throw (.unexpectedToken .closingBracket none)
  | ⟨token :: rest, depth, deepest⟩ =>
      if token.symbol = .closing then
        return (.array found.reverse, ⟨⟨rest, depth - 1, deepest⟩, Nat.lt_succ_self _⟩)
      else throw (.unexpectedToken .closingBracket (some token.text))

/-- The next element of an array and all that follow, with a comma behind each but the last, and the
end of the array. -/
def elements (element : (state : Descent) → state.Reading) (found : OpenArray)
    (state : Descent) : state.Reading := do
  let (node, ⟨behind, fewer⟩) ← element state
  if comma : behind.comes .comma then
    have shorter := Nat.lt_trans (length_skip_lt comma) fewer
    if behind.skip.comes .closing then
      (close (node :: found) behind.skip).since (Nat.le_of_lt shorter)
    else (elements element (node :: found) behind.skip).since (Nat.le_of_lt shorter)
  else (close (node :: found) behind).since (Nat.le_of_lt fewer)
termination_by state.rest.length

/-- An array behind its opening bracket. -/
def array (limit : Nat) (element : (state : Descent) → state.Reading) (state : Descent) :
    state.Reading :=
  let depth := state.depth + 1
  if limit < depth then throw (.recursionLimit limit)
  else
    let inside : Descent := ⟨state.rest, depth, max state.deepest depth⟩
    if inside.comes .closing then close [] inside else elements element [] inside

/-- An element.  Every call takes one from the budget. -/
def primary (limit : Nat) : (budget : Nat) → (state : Descent) → state.Reading
  | 0, _ => (none : Option _)
  | _ + 1, ⟨[], _, _⟩ => throw (.unexpectedToken .literal none)
  | budget + 1, ⟨token :: rest, depth, deepest⟩ =>
      match token.symbol with
      | .opening =>
          (array limit (primary limit budget) ⟨rest, depth, deepest⟩).since (Nat.le_succ _)
      | .literal value => return (.literal value, ⟨⟨rest, depth, deepest⟩, Nat.lt_succ_self _⟩)
      | _ => throw (.unexpectedToken .literal (some token.text))

/-- A program, with the greatest number of arrays that were open at once. -/
def program (limit budget : Nat) (tokens : List Token) : Budgeted (Node × Nat) := do
  let (body, ⟨behind, _⟩) ← primary limit budget ⟨tokens, 0, 0⟩
  match behind.rest with
  | [] => return (.program body, behind.deepest)
  | token :: _ => throw (.unexpectedToken .endOfInput (some token.text))

end Descent

/-! ### The builder from any progress on -/

namespace Build

/-- What a build comes to that goes on with further tokens. -/
def outcome (limit : Nat) (build : Build) (tokens : List Token) :
    Except CompileError (Node × Nat) := do
  let later ← tokens.foldlM (next limit) build
  let tree ← later.progress.finish
  return (tree, later.deepest)

variable {limit deepest : Nat} {progress later : Progress} {token : Token} {tokens : List Token}
  {fault : CompileError}

theorem outcome_nil (unfinished : progress.finish = .error fault) :
    outcome limit ⟨progress, deepest⟩ [] = .error fault := by
  change (progress.finish >>= _) = _
  rw [unfinished]
  rfl

theorem outcome_cons (step : progress.next limit token = .ok later) :
    outcome limit ⟨progress, deepest⟩ (token :: tokens) =
      outcome limit ⟨later, max deepest later.openCount⟩ tokens := by
  rw [outcome, List.foldlM_cons, next]
  simp only [step]
  rfl

theorem outcome_cons_error (refused : progress.next limit token = .error fault) :
    outcome limit ⟨progress, deepest⟩ (token :: tokens) = .error fault := by
  rw [outcome, List.foldlM_cons, next]
  simp only [refused]
  rfl

end Build

/-! ### Following the builder -/

namespace Descent

open Build (outcome outcome_nil outcome_cons outcome_cons_error)

/-- The counts are those of as many open arrays. -/
def Counts (state : Descent) (opens : Nat) : Prop := state.depth = opens ∧ opens ≤ state.deepest

/-- What has been read by recursion is what the builder reads from the progress on.  The budget has
not been used up, and behind an element of the outer arrays the counts are theirs again. -/
inductive Follows (limit : Nat) (progress : Progress) (outer : List OpenArray) (state : Descent) :
    state.Reading → Prop
  | element {node} {later : state.Behind} : later.1.Counts outer.length →
      outcome limit ⟨progress, state.deepest⟩ state.rest =
        outcome limit ⟨Progress.withElement node outer, later.1.deepest⟩ later.1.rest →
      Follows limit progress outer state (return (node, later))
  | fault {fault} : outcome limit ⟨progress, state.deepest⟩ state.rest = .error fault →
      Follows limit progress outer state (throw fault)

/-- Every element of an array inside the outer ones is read as the builder reads it. -/
def FollowsInside (limit : Nat) (outer : List OpenArray)
    (element : (state : Descent) → state.Reading) : Prop :=
  ∀ innermost state, state.Counts (outer.length + 1) → state.comes .closing = false →
    Follows limit (.wanting (innermost :: outer)) (innermost :: outer) state (element state)

variable {limit budget depth deepest : Nat} {progress later : Progress}
  {outer opens : List OpenArray} {found : OpenArray} {state next : Descent} {token : Token}
  {tokens : List Token} {symbol : Symbol} {element : (state : Descent) → state.Reading}

theorem comes_iff : state.comes symbol = true ↔
    ∃ token tokens, state.rest = token :: tokens ∧ token.symbol = symbol := by
  rw [comes]
  cases state.rest with
  | nil => simp
  | cons token tokens => simp

/-- What follows the builder from a later state on also does so from an earlier one. -/
theorem Follows.since {reading : next.Reading} (follows : Follows limit later outer next reading)
    (shorter : next.rest.length ≤ state.rest.length)
    (same : outcome limit ⟨progress, state.deepest⟩ state.rest =
      outcome limit ⟨later, next.deepest⟩ next.rest) :
    Follows limit progress outer state (reading.since shorter) := by
  cases follows with
  | element counts goesOn => exact .element counts (same.trans goesOn)
  | fault stops => exact .fault (same.trans stops)

/-- An array is closed behind its last element, or behind the comma that follows it. -/
theorem follows_close (counts : state.Counts (outer.length + 1))
    (inside : progress = .behindElement found outer ∧ state.comes .comma = false ∨
      progress = .wanting (found :: outer) ∧ state.comes .closing = true) :
    Follows limit progress outer state (close found state) := by
  obtain ⟨tokens, depth, deepest⟩ := state
  cases tokens with
  | nil =>
    obtain ⟨rfl, -⟩ := inside.resolve_right fun wanting => Bool.false_ne_true wanting.2
    exact .fault (outcome_nil rfl)
  | cons token tokens =>
    by_cases plays : token.symbol = .closing
    · have step : progress.next limit token = .ok (.withElement (.array found.reverse) outer) := by
        apply Progress.next_closing plays
        exact inside.elim (fun behind => Or.inr behind.1) (fun wanting => Or.inl wanting.1)
      rw [close, if_pos plays]
      refine .element ⟨?_, ?_⟩ ?_
      · exact Nat.sub_eq_of_eq_add counts.1
      · exact Nat.le_of_succ_le counts.2
      · change outcome limit ⟨progress, deepest⟩ (token :: tokens) = _
        rw [outcome_cons step, Progress.openCount_withElement,
          Nat.max_eq_left (Nat.le_of_succ_le counts.2)]
    · obtain ⟨rfl, noComma⟩ := inside.resolve_right fun wanting =>
        plays (of_decide_eq_true wanting.2)
      have stuck : ∀ bound later,
          ¬ Progress.Moves bound (.behindElement found outer) token.symbol later := by
        intro bound later moves
        generalize symbolEq : token.symbol = symbol at moves
        cases moves with
        | comma => exact of_decide_eq_false noComma symbolEq
        | closing => exact plays symbolEq
      rw [close, if_neg plays]
      exact .fault (outcome_cons_error (Progress.next_eq_unexpected stuck))

/-- Behind the comma that follows an element, another one is wanted. -/
theorem outcome_skip_comma (counts : state.Counts (outer.length + 1))
    (comma : state.comes .comma = true) :
    outcome limit ⟨.behindElement found outer, state.deepest⟩ state.rest =
      outcome limit ⟨.wanting (found :: outer), state.skip.deepest⟩ state.skip.rest := by
  obtain ⟨token, tokens, rest, plays⟩ := comes_iff.mp comma
  have behindComma : state.skip.rest = tokens := by rw [skip, rest]; rfl
  rw [rest, behindComma, outcome_cons (Progress.next_comma plays), Progress.openCount,
    List.length_cons, Nat.max_eq_left counts.2]
  rfl

/-- The elements of an array follow the builder if each of them does. -/
theorem follows_elements (each : FollowsInside limit outer element)
    (counts : state.Counts (outer.length + 1)) (stays : state.comes .closing = false) :
    Follows limit (.wanting (found :: outer)) outer state (elements element found state) := by
  -- an element takes one token or more, and fewer are left behind it
  induction long : state.rest.length using Nat.strongRecOn generalizing found state with
  | ind n ih =>
    subst long
    rw [elements]
    have first := each found state counts stays
    generalize element state = reading at first ⊢
    cases first with
    | fault stops => exact .fault stops
    | @element node later counts goesOn =>
      obtain ⟨behind, fewer⟩ := later
      change Follows _ _ _ _ (if comma : behind.comes .comma then _ else _)
      split
      case isFalse ends =>
        have closes := @follows_close limit _ outer (node :: found) behind counts
          (Or.inl ⟨rfl, Bool.eq_false_iff.mpr ends⟩)
        exact closes.since (Nat.le_of_lt fewer) goesOn
      case isTrue comma =>
        have shorter := Nat.lt_trans (length_skip_lt comma) fewer
        have same := goesOn.trans (outcome_skip_comma counts comma)
        split
        case isTrue closing =>
          have closes := @follows_close limit _ outer (node :: found) behind.skip counts
            (Or.inr ⟨rfl, closing⟩)
          exact closes.since (Nat.le_of_lt shorter) same
        case isFalse goesOn =>
          have others := @ih _ shorter (node :: found) behind.skip counts
            (Bool.eq_false_iff.mpr goesOn) rfl
          exact others.since (Nat.le_of_lt shorter) same

/-- An array follows the builder if each of its elements does.  Where the bound has been reached,
none of them is read. -/
theorem follows_array (each : outer.length < limit → FollowsInside limit outer element)
    (counts : Counts ⟨token :: tokens, depth, deepest⟩ outer.length)
    (plays : token.symbol = .opening) :
    Follows limit (.wanting outer) outer ⟨token :: tokens, depth, deepest⟩
      ((array limit element ⟨tokens, depth, deepest⟩).since (Nat.le_succ _)) := by
  obtain ⟨rfl, -⟩ := counts
  rw [array]
  split
  case isTrue full =>
    have refused : Progress.next limit (.wanting outer) token = .error (.recursionLimit limit) := by
      simp only [Progress.next, plays, if_pos (Nat.le_of_lt_succ full)]
    exact .fault (outcome_cons_error refused)
  case isFalse room =>
    have below : outer.length < limit := Nat.lt_of_succ_le (Nat.le_of_not_lt room)
    have step : Progress.next limit (.wanting outer) token = .ok (.wanting ([] :: outer)) :=
      Progress.next_opening plays below
    let inside : Descent := ⟨tokens, outer.length + 1, max deepest (outer.length + 1)⟩
    have insideCounts : inside.Counts (outer.length + 1) := ⟨rfl, Nat.le_max_right _ _⟩
    have shorter : inside.rest.length ≤ (token :: tokens).length := Nat.le_succ _
    have same : outcome limit ⟨.wanting outer, deepest⟩ (token :: tokens) =
        outcome limit ⟨.wanting ([] :: outer), inside.deepest⟩ inside.rest :=
      outcome_cons step
    change Follows _ _ _ _ (Reading.since (if inside.comes .closing then _ else _) shorter)
    split
    case isTrue closing =>
      exact (follows_close insideCounts (Or.inr ⟨rfl, closing⟩)).since shorter same
    case isFalse stays =>
      have others := @follows_elements limit outer [] inside element (each below) insideCounts
        (Bool.eq_false_iff.mpr stays)
      exact others.since shorter same

/-- An element follows the builder, if the budget covers the arrays that can still be opened. -/
theorem follows_primary (counts : state.Counts opens.length) (room : opens.length ≤ limit)
    (covers : limit + 1 ≤ opens.length + budget)
    (wants : opens = [] ∨ state.comes .closing = false) :
    Follows limit (.wanting opens) opens state (primary limit budget state) := by
  induction budget generalizing opens state with
  | zero => omega
  | succ budget ih =>
    obtain ⟨tokens, depth, deepest⟩ := state
    cases tokens with
    | nil => exact .fault (outcome_nil rfl)
    | cons token tokens =>
      rw [primary]
      split
      case h_1 plays =>
        refine follows_array ?_ counts plays
        intro below innermost state counts stays
        have covers : limit + 1 ≤ (innermost :: opens).length + budget := by
          rw [List.length_cons]
          omega
        exact ih counts below covers (Or.inr stays)
      case h_2 value plays =>
        refine .element counts ?_
        change outcome limit ⟨.wanting opens, deepest⟩ (token :: tokens) = _
        rw [outcome_cons (Progress.next_literal plays), Progress.openCount_withElement,
          Nat.max_eq_left counts.2]
      case h_3 noOpening noLiteral =>
        refine .fault (outcome_cons_error (Progress.next_eq_unexpected ?_))
        intro bound later moves
        generalize plays : token.symbol = symbol at moves
        cases moves with
        | literal => exact noLiteral _ plays
        | opening => exact noOpening plays
        | closing inside =>
          obtain same | same := inside
          · obtain rfl := Progress.wanting.inj same
            obtain none | stays := wants
            · simp at none
            · exact of_decide_eq_false stays plays
          · simp at same

/-! ### Programs -/

/-- A budget of one call more than the bound is never used up, and the program and the greatest
number of open arrays are those of the builder. -/
theorem program_eq (enough : limit < budget) (tokens : List Token) :
    program limit budget tokens = some (outcome limit .start tokens) := by
  have follows := @follows_primary limit budget [] ⟨tokens, 0, 0⟩ ⟨rfl, Nat.le_refl _⟩
    (Nat.zero_le _) (by rwa [List.length_nil, Nat.zero_add]) (Or.inl rfl)
  rw [program]
  generalize primary limit budget ⟨tokens, 0, 0⟩ = reading at follows ⊢
  cases follows with
  | fault stops => exact congrArg some stops.symm
  | @element body later _ same =>
    obtain ⟨⟨rest, depth, deepest⟩, fewer⟩ := later
    change _ = some (outcome limit ⟨.wanting [], 0⟩ tokens)
    rw [same]
    cases rest with
    | nil => rfl
    | cons token rest =>
      have stuck : ∀ bound later, ¬ Progress.Moves bound (.complete body) token.symbol later := by
        intro bound later moves
        generalize token.symbol = symbol at moves
        cases moves with
        | closing inside => simp at inside
      rw [Progress.withElement, outcome_cons_error (Progress.next_eq_unexpected stuck)]
      rfl

/-- Opening brackets alone use up any smaller budget. -/
theorem primary_eq_none (plays : token.symbol = .opening) (room : depth + budget ≤ limit) :
    primary limit budget ⟨List.replicate budget token, depth, deepest⟩ = none := by
  induction budget generalizing depth deepest with
  | zero => rfl
  | succ budget ih =>
    have below : ¬ limit < depth + 1 := by omega
    let inside : Descent :=
      ⟨List.replicate budget token, depth + 1, max deepest (depth + 1)⟩
    have stays : inside.comes .closing = false := by
      rw [comes, List.head?_replicate]
      split <;> simp [plays]
    have usedUp : primary limit budget inside = none := ih (by omega)
    have arrayUsedUp : array limit (primary limit budget)
        ⟨List.replicate budget token, depth, deepest⟩ = none := by
      rw [array, if_neg below]
      change (if inside.comes .closing then _ else elements _ [] inside) = none
      rw [stays, if_neg Bool.false_ne_true, elements, usedUp]
      rfl
    simp only [List.replicate_succ, primary]
    split
    case h_1 =>
      rw [arrayUsedUp]
      rfl
    case h_2 value literal => simp [plays] at literal
    case h_3 other _ => exact absurd plays other

theorem program_eq_none (plays : token.symbol = .opening) (room : budget ≤ limit) :
    program limit budget (List.replicate budget token) = none := by
  have room : 0 + budget ≤ limit := by rwa [Nat.zero_add]
  rw [program, primary_eq_none plays room]
  rfl

end Descent

/-- The building of a tree by recursion, on a budget of nested calls. -/
def Node.buildWithin (budget : Nat) (options : CompileOptions) (tokens : List Token) :
    Option (Logged CompileError Node) :=
  (Descent.program options.effectiveMaxDepth budget tokens).run.map fun result => do
    let (tree, deepest) ← .silent result
    Logged.report (.built tokens.length deepest)
    return tree

theorem Node.build_eq_outcome (options : CompileOptions) (tokens : List Token) :
    build options tokens = do
      let (tree, deepest) ← .silent (Build.outcome options.effectiveMaxDepth .start tokens)
      Logged.report (.built tokens.length deepest)
      return tree := by
  rw [build, Build.outcome]
  cases tokens.foldlM (Build.next options.effectiveMaxDepth) Build.start with
  | error fault => rfl
  | ok later =>
    rw [Result.ok_bind]
    change (Logged.silent later.progress.finish >>= _) = _
    cases later.progress.finish with
    | error fault => rfl
    | ok tree => rfl

/-- Building by recursion, with more nested calls than the bound on arrays. -/
theorem Node.buildWithin_eq {budget : Nat} {options : CompileOptions}
    (enough : options.effectiveMaxDepth < budget) (tokens : List Token) :
    buildWithin budget options tokens = some (build options tokens) := by
  rw [buildWithin, Descent.program_eq enough, build_eq_outcome]
  rfl

/-- A budget is used up by some tokens exactly if it is no greater than the bound on arrays. -/
theorem Node.exists_buildWithin_eq_none_iff {budget : Nat} {options : CompileOptions} :
    (∃ tokens, buildWithin budget options tokens = none) ↔ budget ≤ options.effectiveMaxDepth := by
  constructor
  · rintro ⟨tokens, usedUp⟩
    by_contra enough
    rw [buildWithin_eq (Nat.lt_of_not_le enough)] at usedUp
    cases usedUp
  · intro room
    have opening : (⟨"[", none, 0⟩ : Token).symbol = .opening := rfl
    refine ⟨List.replicate budget ⟨"[", none, 0⟩, ?_⟩
    rw [buildWithin, Descent.program_eq_none opening room]
    rfl

end LiteralLang
