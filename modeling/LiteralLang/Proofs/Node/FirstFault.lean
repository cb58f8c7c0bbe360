import LiteralLang.Proofs.Node.Acceptance
import Mathlib.Data.List.Induction

/-!
# The first fault

Tokens are `Viable` if some continuation makes them a program, however deep its arrays nest.  The
builder stops at the first token behind which the tokens are not viable any more or leave too many
arrays open.  The kind of its error, the token named in it and what is said to be wanted instead are
told by the tokens up to that one alone.
-/

namespace LiteralLang

/-- The tokens are a program, however deep its arrays nest. -/
def Sentence (tokens : List Token) : Prop :=
  ∃ derivation : Derivation, List.Forall₂ Token.Plays tokens derivation.yield

/-- Some continuation makes the tokens a program. -/
def Viable (tokens : List Token) : Prop := ∃ more, Sentence (tokens ++ more)

/-- How many opening brackets have no closing one. -/
def unclosed (tokens : List Token) : Nat :=
  (tokens.map Token.symbol).count .opening - (tokens.map Token.symbol).count .closing

/-- An array has been opened and not closed, and the tokens end with an element of it. -/
def EndsWithElement (tokens : List Token) : Prop :=
  ∃ (front : List Symbol) (items : List Derivation), items ≠ [] ∧
    List.Forall₂ Token.Plays tokens (front ++ .opening :: Derivation.listed items)

/-- What is said to be wanted behind the tokens. -/
inductive Wants (tokens : List Token) : String → Prop
  | nothing : Sentence tokens → Wants tokens "end of input"
  | closing : ¬ Sentence tokens → EndsWithElement tokens → Wants tokens "']'"
  | element : ¬ Sentence tokens → ¬ EndsWithElement tokens → Wants tokens "a literal"

/-- The tokens cannot be continued to a program, or they have too many arrays open. -/
def Faulty (limit : Nat) (tokens : List Token) : Prop := ¬ Viable tokens ∨ limit < unclosed tokens

/-- The tokens go wrong for the first time with the one at the index. -/
structure FirstFault (limit : Nat) (tokens : List Token) (i : Nat) : Prop where
  faulty : Faulty limit (tokens.take (i + 1))
  earlier : ∀ j < i, ¬ Faulty limit (tokens.take (j + 1))

/-- The error says that one thing was wanted and another found, in these words. -/
def CompileError.Mismatch (fault : CompileError) (wanted found : String) : Prop :=
  ∃ expected what, fault = .unexpectedToken expected what ∧ expected.text = wanted ∧
    CompileError.foundText what = found

namespace Progress

variable {limit bound : Nat} {progress later : Progress} {token : Token} {tokens : List Token}
  {fault : CompileError}

/-! ### Viable tokens -/

theorem sentence_iff_exists_yield : Sentence tokens ↔
    ∃ derivation : Derivation, derivation.yield = tokens.map Token.symbol := by
  simp only [Sentence, forall₂_plays_iff, eq_comm]

/-- Behind an element, closing brackets complete the program. -/
theorem exists_run_closing (limit : Nat) (element : Node) (opens : List OpenArray) :
    ∃ more body, run limit (withElement element opens) more = .ok (.complete body) := by
  induction opens generalizing element with
  | nil => exact ⟨[], element, rfl⟩
  | cons innermost outer ih =>
    obtain ⟨more, body, read⟩ := ih (.array (element :: innermost).reverse)
    refine ⟨⟨"]", none, 0⟩ :: more, body, ?_⟩
    rw [run_cons, withElement, next_closing rfl (Or.inr rfl), Result.ok_bind, read]

/-- Every progress can be led to the end of a program, under any bound. -/
theorem exists_completion (limit : Nat) (progress : Progress) :
    ∃ more body, run limit progress more = .ok (.complete body) := by
  cases progress with
  | wanting opens =>
    obtain ⟨more, body, read⟩ := exists_run_closing limit (.literal .null) opens
    have plays : (⟨"null", none, 0⟩ : Token).symbol = .literal .null := rfl
    refine ⟨⟨"null", none, 0⟩ :: more, body, ?_⟩
    rw [run_cons, next_literal plays, Result.ok_bind, read]
  | behindElement innermost outer =>
    obtain ⟨more, body, read⟩ := exists_run_closing limit (.array innermost.reverse) outer
    refine ⟨⟨"]", none, 0⟩ :: more, body, ?_⟩
    rw [run_cons, next_closing rfl (Or.inr rfl), Result.ok_bind, read]
  | complete body => exact ⟨[], body, rfl⟩

theorem viable_of_run (read : run limit (.wanting []) tokens = .ok progress) : Viable tokens := by
  obtain ⟨more, body, rest⟩ := exists_completion limit progress
  have whole : run limit (.wanting []) (tokens ++ more) = .ok (.complete body) := by
    rw [run_append, read, Result.ok_bind, rest]
  obtain ⟨derivation, yield, -⟩ := run_eq_complete_iff.mp whole
  exact ⟨more, sentence_iff_exists_yield.mpr ⟨derivation, yield⟩⟩

theorem exists_run_of_sentence (sentence : Sentence tokens) :
    ∃ bound body, run bound (.wanting []) tokens = .ok (.complete body) := by
  obtain ⟨derivation, yield⟩ := sentence_iff_exists_yield.mp sentence
  exact ⟨_, _, run_eq_complete_iff.mpr ⟨derivation, yield, rfl, Nat.le_refl _⟩⟩

theorem exists_run_of_viable (viable : Viable tokens) :
    ∃ bound progress, run bound (.wanting []) tokens = .ok progress := by
  obtain ⟨more, sentence⟩ := viable
  obtain ⟨bound, body, read⟩ := exists_run_of_sentence sentence
  rw [run_append, Result.bind_eq_ok_iff] at read
  obtain ⟨progress, front, -⟩ := read
  exact ⟨bound, progress, front⟩

theorem unclosed_of_run (read : run limit (.wanting []) tokens = .ok progress) :
    unclosed tokens = progress.openCount := by
  have counts := openCount_of_run read
  rw [unclosed]
  change 0 + _ = _ at counts
  omega

/-! ### What is wanted -/

theorem sentence_iff_of_run (read : run limit (.wanting []) tokens = .ok progress) :
    Sentence tokens ↔ ∃ body, progress = .complete body := by
  constructor
  · intro sentence
    obtain ⟨bound, body, whole⟩ := exists_run_of_sentence sentence
    exact ⟨body, run_unique read whole⟩
  · rintro ⟨body, rfl⟩
    obtain ⟨derivation, yield, -⟩ := run_eq_complete_iff.mp read
    exact sentence_iff_exists_yield.mpr ⟨derivation, yield⟩

/-- Elements behind an opening bracket are read to the place behind the last of them. -/
theorem run_listed {opens : List OpenArray} {items : List Derivation} (nonempty : items ≠ [])
    (plays : tokens.map Token.symbol = Derivation.listed items)
    (room : opens.length + (Node.array (items.map Derivation.tree)).depth ≤ limit) :
    ∃ innermost, run limit (.wanting ([] :: opens)) tokens =
      .ok (.behindElement innermost opens) := by
  have each : ∀ element ∈ items.map Derivation.tree, ReadsInside limit opens element := by
    intro element member innermost symbols tokens derives plays
    have shallow := Node.depth_lt_of_mem member
    apply run_of_derives derives plays
    rw [List.length_cons]
    omega
  have derived : List.Forall₂ Derives (items.map Derivation.yield)
      (items.map Derivation.tree) := by
    rw [List.forall₂_map_left_iff, List.forall₂_map_right_iff, List.forall₂_same]
    intro item _
    exact Derivation.derives_iff.mpr ⟨item, rfl, rfl⟩
  exact ⟨_, run_elements each (by simpa using nonempty) derived plays⟩

theorem endsWithElement_iff_of_run (read : run limit (.wanting []) tokens = .ok progress) :
    EndsWithElement tokens ↔ ∃ innermost outer, progress = .behindElement innermost outer := by
  constructor
  · rintro ⟨front, items, nonempty, plays⟩
    rw [forall₂_plays_iff, List.map_eq_append_iff] at plays
    obtain ⟨before, behind, rfl, -, behindPlays⟩ := plays
    obtain ⟨bracket, inner, rfl, bracketPlays, innerPlays⟩ := List.map_eq_cons_iff.mp behindPlays
    rw [run_append, Result.bind_eq_ok_iff] at read
    obtain ⟨between, -, rest⟩ := read
    rw [run_cons, Result.bind_eq_ok_iff] at rest
    obtain ⟨inside, step, innerRead⟩ := rest
    have moves := next_eq_ok_iff.mp step
    rw [bracketPlays] at moves
    cases moves with
    | @opening opens room =>
      -- a wider bound leaves room for the elements, and changes nothing else
      have depth := Nat.le_add_right limit (Node.array (items.map Derivation.tree)).depth
      obtain ⟨innermost, listedRead⟩ := run_listed nonempty innerPlays
        (Nat.add_le_add_right (Nat.le_of_lt room) _)
      have same := (run_of_le innerRead room depth).symm.trans listedRead
      exact ⟨innermost, opens, Except.ok.inj same⟩
  · rintro ⟨innermost, outer, rfl⟩
    have reached := reaches_of_run read
    generalize shape : tokens.map Token.symbol = symbols at reached
    cases reached with
    | @behindElement _ _ _ last opened _ =>
      cases opened with
      | @array front _ items _ _ _ =>
        refine ⟨front, items ++ [last], by simp, ?_⟩
        rw [forall₂_plays_iff, shape, ← followed_append_yield, List.append_assoc, List.cons_append]

theorem wants_of_run (read : run limit (.wanting []) tokens = .ok progress) :
    Wants tokens progress.expectation.text := by
  have sentence := sentence_iff_of_run read
  have element := endsWithElement_iff_of_run read
  cases progress with
  | wanting opens => exact .element (by simp [sentence]) (by simp [element])
  | behindElement innermost outer => exact .closing (by simp [sentence]) (by simp [element])
  | complete body => exact .nothing (by simp [sentence])

/-! ### Faults -/

theorem not_faulty_of_run (read : run limit (.wanting []) tokens = .ok progress) :
    ¬ Faulty limit tokens := by
  rintro (notViable | full)
  · exact notViable (viable_of_run read)
  · rw [unclosed_of_run read] at full
    exact Nat.not_le_of_lt full (openCount_le_of_run read (Nat.zero_le limit))

/-- A token that is refused either opens one array too many, or no continuation helps. -/
theorem faulty_of_next_error (read : run limit (.wanting []) tokens = .ok progress)
    (refused : next limit progress token = .error fault) :
    (Viable (tokens ++ [token]) ∧ limit < unclosed (tokens ++ [token]) ∧
      fault = .recursionLimit limit) ∨
    (¬ Viable (tokens ++ [token]) ∧
      fault = .unexpectedToken progress.expectation (some token.text)) := by
  obtain ⟨rfl, plays, opens, rfl, full⟩ | ⟨rfl, never⟩ := next_eq_error refused
  · have count : opens.length ≤ limit := openCount_le_of_run read (Nat.zero_le limit)
    have further : run (limit + 1) (.wanting []) (tokens ++ [token]) =
        .ok (.wanting ([] :: opens)) := by
      rw [run_append, run_of_le read (Nat.zero_le limit) (Nat.le_add_right limit 1),
        Result.ok_bind, run_cons, next_opening plays (Nat.lt_succ_of_le count)]
      rfl
    refine Or.inl ⟨viable_of_run further, ?_, rfl⟩
    rw [unclosed_of_run further]
    exact Nat.lt_succ_of_le full
  · refine Or.inr ⟨?_, rfl⟩
    intro viable
    obtain ⟨bound, later, further⟩ := exists_run_of_viable viable
    rw [run_append, Result.bind_eq_ok_iff] at further
    obtain ⟨between, front, rest⟩ := further
    obtain ⟨after, step, -⟩ := Result.bind_eq_ok_iff.mp rest
    obtain rfl := run_unique read front
    exact never bound after (next_eq_ok_iff.mp step)

/-- The builder gets through tokens of which no first part is faulty. -/
theorem exists_run_of_not_faulty
    (sound : ∀ i < tokens.length, ¬ Faulty limit (tokens.take (i + 1))) :
    ∃ progress, run limit (.wanting []) tokens = .ok progress := by
  -- the last token is read, or else all of the tokens would be a faulty first part
  induction tokens using List.reverseRecOn with
  | nil => exact ⟨.wanting [], rfl⟩
  | append_singleton tokens token ih =>
    obtain ⟨progress, read⟩ := ih fun i inside => by
      have whole := sound i (by simp; omega)
      rwa [List.take_append_of_le_length inside] at whole
    cases step : next limit progress token with
    | ok later =>
      refine ⟨later, ?_⟩
      rw [run_append, read, Result.ok_bind, run_cons, step]
      rfl
    | error fault =>
      have last := sound tokens.length (by simp)
      rw [List.take_of_length_le (by simp)] at last
      obtain ⟨-, full, -⟩ | ⟨notViable, -⟩ := faulty_of_next_error read step
      · exact absurd (Or.inr full) last
      · exact absurd (Or.inl notViable) last

/-- The builder gets as far as the token with which the tokens first go wrong, and no further. -/
theorem exists_fault_of_firstFault {i : Nat} (inside : i < tokens.length)
    (first : FirstFault limit tokens i) : ∃ progress fault,
      run limit (.wanting []) (tokens.take i) = .ok progress ∧
      next limit progress tokens[i] = .error fault := by
  have sound : ∀ j < (tokens.take i).length, ¬ Faulty limit ((tokens.take i).take (j + 1)) := by
    intro j before
    rw [List.length_take_of_le (Nat.le_of_lt inside)] at before
    rw [List.take_take, Nat.min_eq_left before]
    exact first.earlier j before
  obtain ⟨progress, read⟩ := exists_run_of_not_faulty sound
  cases step : next limit progress tokens[i] with
  | error fault => exact ⟨progress, fault, read, step⟩
  | ok later =>
    have further : run limit (.wanting []) (tokens.take (i + 1)) = .ok later := by
      rw [← List.take_append_getElem inside, run_append, read, Result.ok_bind, run_cons, step]
      rfl
    exact absurd first.faulty (not_faulty_of_run further)

end Progress

/-! ### The builder -/

/-- Tokens that begin with a fault fail with it, whatever follows. -/
theorem Node.ofTokens_eq_error {options : CompileOptions} {front tokens : List Token}
    {token : Token} {progress : Progress} {fault : CompileError}
    (read : Progress.run options.effectiveMaxDepth (.wanting []) front = .ok progress)
    (refused : progress.next options.effectiveMaxDepth token = .error fault) :
    ofTokens options (front ++ token :: tokens) = .error fault := by
  rw [ofTokens_eq_run, Progress.run_append, read, Result.ok_bind, Progress.run_cons, refused]
  rfl

/-- If no first part of the tokens is faulty, they are built exactly if they are a program, and
otherwise the end of the input is in the wrong place.  Otherwise the builder stops at the first
token that makes a first part faulty: at a bracket that opens one array too many with the bound, and
at any other token with its text.  What is wanted in its place is told by the tokens in front of
it, and the tokens behind it do not matter. -/
theorem Node.ofTokens_at_first_fault (options : CompileOptions) (tokens : List Token) :
    ((∀ i < tokens.length, ¬ Faulty options.effectiveMaxDepth (tokens.take (i + 1))) →
      (Sentence tokens → ∃ node, ofTokens options tokens = .ok node) ∧
      (¬ Sentence tokens → ∃ fault wanted, ofTokens options tokens = .error fault ∧
        fault.Mismatch wanted "end of input" ∧ Wants tokens wanted)) ∧
    ∀ (i : Nat) (inside : i < tokens.length), FirstFault options.effectiveMaxDepth tokens i →
      (Viable (tokens.take (i + 1)) →
        ofTokens options tokens = .error (.recursionLimit options.effectiveMaxDepth)) ∧
      (¬ Viable (tokens.take (i + 1)) → ∃ fault wanted, ofTokens options tokens = .error fault ∧
        fault.Mismatch wanted tokens[i].text ∧ Wants (tokens.take i) wanted) ∧
      ∀ others : List Token, others.take (i + 1) = tokens.take (i + 1) →
        ofTokens options others = ofTokens options tokens := by
  constructor
  · intro sound
    obtain ⟨progress, read⟩ := Progress.exists_run_of_not_faulty sound
    have wants := Progress.wants_of_run read
    rw [ofTokens_eq_run, read, Result.ok_bind, Progress.sentence_iff_of_run read]
    cases progress with
    | wanting opens => exact ⟨by simp, fun _ => ⟨_, _, rfl, ⟨_, none, rfl, rfl, rfl⟩, wants⟩⟩
    | behindElement innermost outer =>
      exact ⟨by simp, fun _ => ⟨_, _, rfl, ⟨_, none, rfl, rfl, rfl⟩, wants⟩⟩
    | complete body => exact ⟨fun _ => ⟨_, rfl⟩, by simp⟩
  · intro i inside first
    obtain ⟨progress, fault, read, refused⟩ := Progress.exists_fault_of_firstFault inside first
    -- the tokens behind the fault are never read
    have fails (others : List Token) (same : others.take (i + 1) = tokens.take (i + 1)) :
        ofTokens options others = .error fault := by
      have shape := List.take_append_drop (i + 1) others
      rw [same, ← List.take_append_getElem inside, List.append_assoc,
        List.singleton_append] at shape
      rw [← shape]
      exact ofTokens_eq_error read refused
    have kind := Progress.faulty_of_next_error read refused
    rw [List.take_append_getElem inside] at kind
    rw [fails tokens rfl]
    refine ⟨?_, ?_, fails⟩
    · intro viable
      obtain ⟨-, -, rfl⟩ | ⟨notViable, -⟩ := kind
      · rfl
      · exact absurd viable notViable
    · intro notViable
      obtain ⟨viable, -⟩ | ⟨-, rfl⟩ := kind
      · exact absurd viable notViable
      · exact ⟨_, _, rfl, ⟨_, _, rfl, rfl, rfl⟩, Progress.wants_of_run read⟩

end LiteralLang
