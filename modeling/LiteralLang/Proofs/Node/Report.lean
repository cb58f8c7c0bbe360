import LiteralLang.Proofs.Node.Acceptance
import LiteralLang.Proofs.Node.Descent

/-!
# The report of the builder

The builder reports how many arrays were open at once, which it keeps count of token by token.  That
is how deep arrays nest in the tree: a bound on the one is a bound on the other, since either lets
the same tokens pass.
-/

namespace LiteralLang

variable {limit bound deepest : Nat} {progress between other : Progress} {before later : Build}
  {token : Token} {tokens : List Token} {tree : Node}

/-- The bound decides whether a step can be made, but not where it leads. -/
theorem Progress.next_unique (step : next limit progress token = .ok between)
    (step' : next bound progress token = .ok other) : between = other := by
  obtain goesOn | stops := @Moves.next_eq limit _ _ _ _ (next_eq_ok_iff.mp step')
  · exact Except.ok.inj (step.symm.trans goesOn)
  · rw [step] at stops
    contradiction

namespace Build

/-- What one more token does to the count. -/
theorem next_eq_ok_iff : next limit before token = .ok later ↔
    ∃ progress, before.progress.next limit token = .ok progress ∧
      ⟨progress, max before.deepest progress.openCount⟩ = later := by
  rw [next, Result.bind_eq_ok_iff]
  simp only [pure, Except.pure, Except.ok.injEq]

/-- No more arrays have been open than a bound allows exactly if it lets the tokens pass. -/
theorem deepest_le_iff (counted : before.progress.openCount ≤ before.deepest)
    (read : tokens.foldlM (next limit) before = .ok later) : later.deepest ≤ bound ↔
      before.deepest ≤ bound ∧ before.progress.run bound tokens = .ok later.progress := by
  induction tokens generalizing before with
  | nil =>
    obtain rfl := Except.ok.inj read
    simp [Progress.run_nil]
  | cons token tokens ih =>
    obtain ⟨_, first, rest⟩ := Result.bind_eq_ok_iff.mp read
    obtain ⟨between, step, rfl⟩ := next_eq_ok_iff.mp first
    rw [ih (Nat.le_max_right _ _) rest, Nat.max_le, Progress.run_cons, Result.bind_eq_ok_iff]
    constructor
    · rintro ⟨⟨fits, room⟩, further⟩
      have moves := (Progress.next_eq_ok_iff.mp step).of_openCount_le room
      exact ⟨fits, between, Progress.next_eq_ok_iff.mpr moves, further⟩
    · rintro ⟨fits, other, step', further⟩
      obtain rfl := Progress.next_unique step step'
      have room := (Progress.next_eq_ok_iff.mp step').openCount_le (Nat.le_trans counted fits)
      exact ⟨⟨fits, room⟩, further⟩

/-- The greatest number of open arrays is the depth of the tree. -/
theorem deepest_eq_depth (built : outcome limit .start tokens = .ok (tree, deepest)) :
    deepest = tree.depth := by
  obtain ⟨later, read, finished⟩ := Result.bind_eq_ok_iff.mp built
  obtain ⟨_, finish, same⟩ := Result.bind_eq_ok_iff.mp finished
  obtain ⟨rfl, rfl⟩ := Prod.mk.inj (Except.ok.inj same)
  obtain ⟨body, complete, rfl⟩ := Progress.finish_eq_ok_iff.mp finish
  have passes (bound : Nat) : later.deepest ≤ bound ↔
      Progress.run bound (.wanting []) tokens = .ok (.complete body) := by
    rw [deepest_le_iff (Nat.zero_le _) read, complete]
    exact and_iff_right (Nat.zero_le bound)
  have sameBounds (bound : Nat) : later.deepest ≤ bound ↔ body.depth ≤ bound := by
    obtain ⟨derivation, yield, tree, -⟩ :=
      Progress.run_eq_complete_iff.mp ((passes _).mp (Nat.le_refl _))
    rw [passes, Progress.run_eq_complete_iff]
    constructor
    · rintro ⟨_, _, _, room⟩
      exact room
    · intro room
      exact ⟨derivation, yield, tree, room⟩
  exact Nat.le_antisymm ((sameBounds _).mpr (Nat.le_refl _)) ((sameBounds _).mp (Nat.le_refl _))

end Build

namespace Node

/-- A tree is built with one report, of the tokens and the depth of the tree, and a fault of the
builder without any. -/
theorem build_eq (options : CompileOptions) (tokens : List Token) :
    build options tokens =
      match ofTokens options tokens with
      | .ok tree => ⟨[.built tokens.length tree.depth], .ok tree⟩
      | .error fault => ⟨[], .error fault⟩ := by
  rw [ofTokens, build_eq_outcome]
  cases outcome : Build.outcome options.effectiveMaxDepth .start tokens with
  | error fault => rfl
  | ok found =>
    obtain ⟨tree, deepest⟩ := found
    rw [Build.deepest_eq_depth outcome]
    rfl

end Node

end LiteralLang
