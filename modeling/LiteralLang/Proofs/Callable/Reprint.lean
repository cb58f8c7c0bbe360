import LiteralLang.Proofs.Callable.Equality
import LiteralLang.Proofs.Value.Source

/-!
# Printing what was compiled

The value of a compiled callable is printed unless a number in it is infinite or its arrays nest
deeper than is printed.  The printed text compiles to the same callable and is printed as itself, so
it is one text for all spellings of a callable, and for no other callable.
-/

namespace LiteralLang

/-! ### What is not printed -/

/-- What stands in the way of printing: a number that is not finite or has a sign, or the nesting of
arrays. -/
def Value.Obstacle (value : Value) (fault : CompileError) : Prop :=
  (∃ x, .number x ∈ value.tree.literals ∧ (x.isFinite = false ∨ x.negative = true) ∧
    fault = .unprintable (.number x)) ∨
  fault = .unprintable (.nesting defaultMaxDepth)

theorem Scalar.source_eq_error {scalar : Scalar} {fault : CompileError}
    (refused : scalar.source = .error fault) :
    ∃ x, scalar = .number x ∧ (x.isFinite = false ∨ x.negative = true) ∧
      fault = .unprintable (.number x) := by
  cases scalar with
  | number x =>
    rw [source] at refused
    split at refused
    case isTrue bad => exact ⟨x, rfl, by simpa using bad, (Except.error.inj refused).symm⟩
    case isFalse => simp at refused
  | null | boolean _ | text _ => simp [source] at refused

namespace Value

variable {depth : Nat} {value : Value} {elements : List Value} {fault : CompileError}

theorem Obstacle.array {element : Value} (member : element ∈ elements)
    (obstacle : element.Obstacle fault) : (array elements).Obstacle fault := by
  rcases obstacle with ⟨x, literal, bad, rfl⟩ | rfl
  · refine Or.inl ⟨x, ?_, bad, rfl⟩
    rw [tree, trees_eq_map, Node.mem_literals_array]
    exact ⟨element.tree, List.mem_map_of_mem member, literal⟩
  · exact Or.inr rfl

/-- Of several values one with an obstacle is reported. -/
theorem exists_of_sourcesAt_eq_error (refused : sourcesAt depth elements = .error fault) :
    ∃ element ∈ elements, element.sourceAt depth = .error fault := by
  induction elements with
  | nil => simp [sourcesAt] at refused
  | cons element elements ih =>
    rw [sourcesAt] at refused
    obtain first | ⟨text, -, later⟩ := Result.bind_eq_error_iff.mp refused
    · exact ⟨element, List.mem_cons_self, first⟩
    · obtain rest | ⟨texts, -, finished⟩ := Result.bind_eq_error_iff.mp later
      · obtain ⟨other, member, failed⟩ := ih rest
        exact ⟨other, List.mem_cons_of_mem element member, failed⟩
      · cases finished

theorem obstacle_of_sourceAt (refused : value.sourceAt depth = .error fault) :
    value.Obstacle fault := by
  induction value generalizing depth with
  | scalar scalar =>
    obtain ⟨x, rfl, bad, rfl⟩ := Scalar.source_eq_error refused
    exact Or.inl ⟨x, List.mem_singleton.mpr rfl, bad, rfl⟩
  | array elements ih =>
    rw [sourceAt] at refused
    split at refused
    case isTrue => exact Or.inr (Except.error.inj refused).symm
    case isFalse =>
      obtain inner | ⟨texts, -, finished⟩ := Result.bind_eq_error_iff.mp refused
      · obtain ⟨element, member, failed⟩ := exists_of_sourcesAt_eq_error inner
        exact (ih element member failed).array member
      · cases finished

end Value

/-! ### What is printed -/

namespace Callable

variable {callable callable' : Callable} {body body' : Node} {options options' : CompileOptions}
  {source source' printed : String} {fault : CompileError}

theorem Wraps.infinity_mem_iff (wraps : callable.Wraps body) :
    (∃ x, .number x ∈ body.literals ∧ x.magnitude = Binary64.infinityMagnitude) ↔
      .number .infinity ∈ body.literals := by
  constructor
  · rintro ⟨x, literal, infinite⟩
    obtain ⟨finite, -⟩ | rfl := (wraps.literals _ literal).number
    · rw [Binary64.isFinite, decide_eq_true_eq] at finite
      exact absurd infinite (Nat.ne_of_lt finite)
    · exact literal
  · intro literal
    exact ⟨.infinity, literal, rfl⟩

/-- The value of a callable is printed exactly if it has no infinite number and not too deep an
array. -/
theorem Wraps.exists_source_iff (wraps : callable.Wraps body) :
    (∃ printed, callable.call.source = .ok printed) ↔
      .number .infinity ∉ body.literals ∧ callable.call.depth ≤ defaultMaxDepth := by
  simp only [Value.source_eq_ok_iff, wraps.tree_call]
  constructor
  · rintro ⟨printed, ⟨printable, shallow⟩, -⟩
    refine ⟨?_, shallow⟩
    intro literal
    exact absurd (printable _ literal _ rfl).1 (by decide)
  · rintro ⟨finite, shallow⟩
    refine ⟨_, ⟨?_, shallow⟩, rfl⟩
    rintro scalar literal x rfl
    obtain printable | rfl := (wraps.literals _ literal).number
    · exact printable
    · exact absurd literal finite

theorem Wraps.source_eq_error (wraps : callable.Wraps body)
    (refused : callable.call.source = .error fault) :
    fault = .unprintable (.number .infinity) ∨ fault = .unprintable (.nesting defaultMaxDepth) := by
  obtain ⟨x, literal, bad, rfl⟩ | nesting := Value.obstacle_of_sourceAt refused
  · rw [wraps.tree_call] at literal
    obtain ⟨finite, positive⟩ | rfl := (wraps.literals _ literal).number
    · simp [finite, positive] at bad
    · exact Or.inl rfl
  · exact Or.inr nesting

/-- What is printed of a callable compiles to it under all options that leave it room. -/
theorem Wraps.compileWith_source (wraps : callable.Wraps body)
    (accepted : callable.call.source = .ok printed)
    (room : body.depth ≤ options.effectiveMaxDepth) :
    compileWith options printed = .ok callable := by
  obtain ⟨⟨printable, -⟩, rfl⟩ := Value.source_eq_ok_iff.mp accepted
  rw [← wraps.tree_call, Value.depth_tree] at room
  rw [Value.compileWith_printed printable room, wraps.tree_call, wraps.whole]

/-- The standard options leave room for all that is printed. -/
theorem Wraps.compile_source (wraps : callable.Wraps body)
    (accepted : callable.call.source = .ok printed) : compile printed = .ok callable := by
  apply wraps.compileWith_source accepted
  rw [← wraps.tree_call, Value.depth_tree]
  exact (wraps.exists_source_iff.mp ⟨printed, accepted⟩).2

/-- What was compiled is printed unless a number is infinite or arrays nest deeper than is printed,
which is then what the error says.  What is printed compiles to the same callable, under the
standard options and under those of the source, and is printed as itself.  So two sources are
printed alike exactly if their callables are equal. -/
theorem printed_canonical (compiled : compileWith options source = .ok callable) :
    ((∃ fault, callable.call.source = .error fault) ↔
      (∃ x, .number x ∈ callable.call.tree.literals ∧ x.magnitude = Binary64.infinityMagnitude) ∨
        512 < callable.call.depth) ∧
    (∀ fault, callable.call.source = .error fault →
      fault = .unprintable (.number .infinity) ∨ fault = .unprintable (.nesting 512)) ∧
    ∀ printed, callable.call.source = .ok printed →
      (∃ again, compile printed = .ok again ∧ compileWith options printed = .ok again ∧
        again.tree = callable.tree ∧ again.code = callable.code ∧ again.equal callable = true ∧
        again.call.source = .ok printed) ∧
      ∀ (options' : CompileOptions) (source' : String) (callable' : Callable) (printed' : String),
        compileWith options' source' = .ok callable' → callable'.call.source = .ok printed' →
          (printed = printed' ↔ callable.equal callable' = true) := by
  obtain ⟨body, wraps, room⟩ := exists_body_of_compileWith compiled
  refine ⟨?_, fun fault => wraps.source_eq_error, ?_⟩
  · have printed := wraps.exists_source_iff
    rw [Result.exists_error_iff, printed, wraps.tree_call, wraps.infinity_mem_iff, not_and_or,
      not_not, Nat.not_le]
    rfl
  · intro printed accepted
    have again := wraps.compile_source accepted
    refine ⟨⟨callable, again, wraps.compileWith_source accepted room, rfl, rfl,
      (wraps.equal_iff wraps).mpr rfl, accepted⟩, ?_⟩
    intro options' source' callable' printed' compiled' accepted'
    obtain ⟨body', wraps', -⟩ := exists_body_of_compileWith compiled'
    rw [wraps.equal_iff wraps']
    constructor
    · rintro rfl
      exact Except.ok.inj (again.symm.trans (wraps'.compile_source accepted'))
    · rintro rfl
      exact Except.ok.inj (accepted.symm.trans accepted')

/-- A zero and a string in an array, spelled with more than is printed. -/
theorem printed_canonical_zero_string : ∃ callable,
    compileWith ⟨1⟩ "[ 0.0,'\\u0061', ]" = .ok callable ∧
    callable.call.source = .ok "[0, \"a\"]" ∧
    ∃ again, compile "[0, \"a\"]" = .ok again ∧ again.equal callable = true ∧
      again.call.source = .ok "[0, \"a\"]" := by
  have printed : compileWith ⟨1⟩ "[ 0.0,'\\u0061', ]" >>= (·.call.source) = .ok "[0, \"a\"]" := by
    decide +kernel
  obtain ⟨callable, compiled, accepted⟩ := Result.bind_eq_ok_iff.mp printed
  obtain ⟨-, -, each⟩ := printed_canonical compiled
  obtain ⟨⟨again, compiles, -, -, -, same, reprinted⟩, -⟩ := each _ accepted
  exact ⟨callable, compiled, accepted, again, compiles, same, reprinted⟩

end Callable

end LiteralLang
