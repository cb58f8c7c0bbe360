import LiteralLang.Main
import LiteralLang.Proofs.CommandLine.Access

/-!
# Runs on real files

What holds of every lawful access holds of the one that the program has to real files.  All that has
to be assumed of the system is that this access is lawful.
-/

namespace LiteralLang.CommandLine

/-- A computation on the real world that does not end with a problem of its own. -/
def Effects.real : Effects IO (Void IO.RealWorld) where
  Ran step before result after := step before = .ok result after
  pure_iff := by
    intro α value result before after
    change EST.Out.ok value before = .ok result after ↔ _
    rw [EST.Out.ok.injEq, eq_comm, @eq_comm _ before]
  bind_iff := by
    intro α β first next result before after
    change EST.bind first next before = _ ↔ _
    unfold EST.bind
    cases first before with
    | ok value between =>
      constructor
      · intro last
        exact ⟨value, between, rfl, last⟩
      · rintro ⟨_, _, ⟨⟩, last⟩
        exact last
    | error problem between =>
      constructor
      · intro ended
        cases ended
      · rintro ⟨_, _, ⟨⟩, _⟩

variable {Untouched : Void IO.RealWorld → Void IO.RealWorld → Prop}
  {Delivered : (path text : String) → Void IO.RealWorld → Void IO.RealWorld → Prop}
  {before after : Void IO.RealWorld} {report : Report} {filter : Option String}
  {arguments : List String}

/-- If access to real files is lawful, the program prints and changes nothing when it fails, and
otherwise changes at most what its output file leads to. -/
theorem run_realAccess_all_or_nothing
    (lawful : realAccess.Lawful .real Untouched Delivered)
    (ran : Effects.real.Ran (run realAccess filter arguments) before report after) :
    report.exitCode ≠ 0 ∧ report.output = "" ∧ Untouched before after ∨
      report.exitCode = 0 ∧
        (Untouched before after ∨ ∃ path text, Delivered path text before after) := by
  obtain ⟨failing, plain, succeeding⟩ := run_all_or_nothing lawful ran
  by_cases failed : report.exitCode = 0
  · refine Or.inr ⟨failed, ?_⟩
    by_cases toFile : ∃ action settings path,
      request arguments = .ok (.perform action settings) ∧ settings.output = some path
    · obtain ⟨action, settings, path, asked, toFile⟩ := toFile
      obtain ⟨-, -, text, -, -, -, -, delivered⟩ := succeeding _ _ _ asked toFile failed
      exact Or.inr ⟨path, text, delivered⟩
    · refine Or.inl (plain fun action settings asked => ?_)
      cases output : settings.output with
      | none => rfl
      | some path => exact (toFile ⟨action, settings, path, asked, output⟩).elim
  · obtain ⟨silent, untouched⟩ := failing failed
    exact Or.inl ⟨failed, silent, untouched⟩

end LiteralLang.CommandLine
