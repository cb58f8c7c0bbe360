import LiteralLang.Proofs.Node.Acceptance
import LiteralLang.Proofs.Node.Equality

/-!
# Compiled callables

What every source text compiles to, whatever its spelling: the program around a tree without
programs, whose numbers have no sign and are no NaN, and whose arrays nest no deeper than the bound.
The first is a matter of the builder, the second of the scanner.
-/

namespace LiteralLang

open Lexeme (Spells)
open Scan (Reads)

variable {offset behind : Nat} {text rest run : List Char} {next : Option Char} {shown : String}
  {tokens : List Token} {token : Token} {decoded : Decoded} {value : Scalar} {source : String}
  {options : CompileOptions} {callable : Callable}

/-! ### Tokens -/

theorem Decimal.isNaN_nearest (d : Decimal) : d.nearest.isNaN = false := by
  rw [nearest_eq_ofRatio]
  exact decide_eq_false (Nat.not_lt_of_le (Binary64.nearestMagnitude_le d.ratio))

/-- A number in source text is spelled without a sign. -/
theorem spellable_of_spells (spells : Spells next run shown (some decoded)) :
    decoded.scalar.Spellable := by
  intro x same
  cases spells with
  | @number _ d numeral _ =>
    obtain rfl := Scalar.number.inj same
    exact ⟨d.nearest_negative, d.isNaN_nearest⟩
  | string => simp [Decoded.scalar] at same

theorem spellable_of_reads (run : Reads offset text tokens behind rest) :
    ∀ token ∈ tokens, ∀ decoded, token.decoded = some decoded → decoded.scalar.Spellable := by
  induction run with
  | done => simp
  | blank _ _ ih => exact ih
  | lexeme spells _ ih =>
    rw [List.forall_mem_cons]
    refine ⟨?_, ih⟩
    rintro decoded rfl
    exact spellable_of_spells spells

/-- Constants are no numbers. -/
theorem Token.spellable_of_symbol (plays : token.symbol = .literal value)
    (spelled : ∀ decoded, token.decoded = some decoded → decoded.scalar.Spellable) :
    value.Spellable := by
  have part := plays ▸ token.plays_symbol
  cases part with
  | value => exact spelled _ rfl
  | null | true | false =>
    intro x same
    simp at same

theorem spellable_of_tokenize (cut : tokenize source = .ok tokens) :
    ∀ value, .literal value ∈ tokens.map Token.symbol → value.Spellable := by
  obtain ⟨behind, run⟩ := Scan.tokenize_eq_ok_iff_reads.mp cut
  intro value literal
  obtain ⟨token, member, plays⟩ := List.mem_map.mp literal
  exact token.spellable_of_symbol plays (spellable_of_reads run token member)

/-! ### Callables -/

/-- The callable is the program around a tree that source text can spell: no program stands in it,
and its numbers have no sign and are no NaN. -/
structure Callable.Wraps (callable : Callable) (body : Node) : Prop where
  whole : callable = ⟨.program body⟩
  plain : body.hasProgram = false
  literals : ∀ scalar ∈ body.literals, scalar.Spellable

/-- What source text compiles to is spelled by it, and fits the bound. -/
theorem exists_body_of_compileWith (compiled : compileWith options source = .ok callable) :
    ∃ body, callable.Wraps body ∧ body.depth ≤ options.effectiveMaxDepth := by
  rw [compileWith_eq, Result.bind_eq_ok_iff] at compiled
  obtain ⟨tokens, cut, built⟩ := compiled
  obtain ⟨tree, accepted, finished⟩ := Result.bind_eq_ok_iff.mp built
  obtain ⟨derivation, yield, room, rfl⟩ := Node.ofTokens_eq_ok_iff.mp accepted
  have derives := Derivation.derives_iff.mpr ⟨derivation, yield, rfl⟩
  refine ⟨derivation.tree, ⟨(Except.ok.inj finished).symm, derivation.hasProgram_tree, ?_⟩, room⟩
  intro scalar literal
  exact spellable_of_tokenize cut scalar (derives.mem_literals.mpr literal)

end LiteralLang
