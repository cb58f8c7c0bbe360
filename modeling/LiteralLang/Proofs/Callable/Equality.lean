import LiteralLang.Proofs.Callable.Compiled

/-!
# Equality of callables

Callables can be compared as they are, by their trees, by their codes and by the values they return.
Equality of numbers makes these different notions in general, but not for what has been compiled:
there each of them is true exactly if the callables are the same.
-/

namespace LiteralLang.Callable

variable {callable callable' : Callable} {body body' : Node}

theorem Wraps.eq_iff (wraps : callable.Wraps body) (wraps' : callable'.Wraps body') :
    callable = callable' ↔ body = body' := by
  rw [wraps.whole, wraps'.whole, mk.injEq, Node.program.injEq]

theorem Wraps.equal_tree_iff (wraps : callable.Wraps body) (wraps' : callable'.Wraps body') :
    callable.tree.equal callable'.tree = true ↔ callable = callable' := by
  rw [wraps.eq_iff wraps', wraps.whole, wraps'.whole, Node.equal]
  exact Node.equal_iff wraps.literals wraps'.literals

theorem Wraps.code_eq_iff (wraps : callable.Wraps body) (wraps' : callable'.Wraps body') :
    callable.code = callable'.code ↔ callable = callable' := by
  rw [wraps.eq_iff wraps', ← Node.code_inj wraps.plain wraps'.plain wraps.literals wraps'.literals,
    wraps.whole, wraps'.whole, code, code, Node.code, Node.code, ← String.toList_inj,
    ← String.toList_inj]
  simp

/-- The value of a callable has its tree. -/
theorem Wraps.tree_call (wraps : callable.Wraps body) : callable.call.tree = body := by
  rw [wraps.whole]
  exact Node.tree_value wraps.plain

theorem Wraps.equal_call_iff (wraps : callable.Wraps body) (wraps' : callable'.Wraps body') :
    callable.call.equal callable'.call = true ↔ callable = callable' := by
  rw [wraps.eq_iff wraps', ← Value.equal_tree, wraps.tree_call, wraps'.tree_call]
  exact Node.equal_iff wraps.literals wraps'.literals

theorem Wraps.equal_iff (wraps : callable.Wraps body) (wraps' : callable'.Wraps body') :
    callable.equal callable' = true ↔ callable = callable' := by
  rw [equal, Bool.and_eq_true, beq_iff_eq, wraps.equal_tree_iff wraps', wraps.code_eq_iff wraps',
    and_self]

/-- Of any two compiled callables the comparisons as callables, by tree, by code and by returned
value agree.  They are true if the callables are the same, so all are of one callable with itself,
and only then. -/
theorem comparisons_agree {options options' : CompileOptions} {source source' : String}
    (compiled : compileWith options source = .ok callable)
    (compiled' : compileWith options' source' = .ok callable') :
    (callable.tree.equal callable'.tree = callable.equal callable' ∧
      (callable.code == callable'.code) = callable.equal callable' ∧
      callable.call.equal callable'.call = callable.equal callable') ∧
    (callable.equal callable' = true ↔ callable = callable') ∧
    (callable.equal callable = true ∧ callable.tree.equal callable.tree = true ∧
      (callable.code == callable.code) = true ∧ callable.call.equal callable.call = true) := by
  obtain ⟨body, wraps, -⟩ := exists_body_of_compileWith compiled
  obtain ⟨body', wraps', -⟩ := exists_body_of_compileWith compiled'
  have whole := wraps.equal_iff wraps'
  refine ⟨⟨?_, ?_, ?_⟩, whole, ?_, ?_, ?_, ?_⟩
  · rw [Bool.eq_iff_iff, whole, wraps.equal_tree_iff wraps']
  · rw [Bool.eq_iff_iff, whole, beq_iff_eq, wraps.code_eq_iff wraps']
  · rw [Bool.eq_iff_iff, whole, wraps.equal_call_iff wraps']
  · exact (wraps.equal_iff wraps).mpr rfl
  · exact (wraps.equal_tree_iff wraps).mpr rfl
  · exact beq_self_eq_true callable.code
  · exact (wraps.equal_call_iff wraps).mpr rfl

/-- Two spellings of infinity, zero and a string. -/
theorem comparisons_agree_infinity_zero : ∃ callable callable',
    compileWith ⟨1⟩ "[1e999,0,'a']" = .ok callable ∧
    compileWith .standard "[ 1E+999 , 0.0 , \"\\u0061\", ]" = .ok callable' ∧
    callable.tree.equal callable'.tree = true ∧ (callable.code == callable'.code) = true ∧
    callable.call.equal callable'.call = true ∧ callable.equal callable' = true := by
  have coded : compileWith ⟨1⟩ "[1e999,0,'a']" >>= (.ok ·.code) =
      .ok "return [Infinity,0,\"a\"];" := by decide +kernel
  have coded' : compileWith .standard "[ 1E+999 , 0.0 , \"\\u0061\", ]" >>= (.ok ·.code) =
      .ok "return [Infinity,0,\"a\"];" := by decide +kernel
  obtain ⟨callable, compiled, code_eq⟩ := Result.bind_eq_ok_iff.mp coded
  obtain ⟨callable', compiled', code_eq'⟩ := Result.bind_eq_ok_iff.mp coded'
  obtain ⟨⟨tree, code, call⟩, -⟩ := comparisons_agree compiled compiled'
  have same : (callable.code == callable'.code) = true :=
    beq_iff_eq.mpr (Except.ok.inj (code_eq.trans code_eq'.symm))
  have equal : callable.equal callable' = true := code.symm.trans same
  exact ⟨callable, callable', compiled, compiled', tree.trans equal, same, call.trans equal, equal⟩

end LiteralLang.Callable
