import LiteralLang.CommandLine.Run
import LiteralLang.Proofs.CommandLine.Arguments

/-!
# Laws of access

A run reaches the world through an `Access`.  Whatever the world is, a run has its effects at its
end, and has all of them or none, if the access keeps two promises: reading leaves the world as it
was, and a text that is written is refused, which also leaves the world as it was, or delivered.
-/

namespace LiteralLang.CommandLine

/-- What computations do to a world.  From one state of the world a computation may come to a result
and leave another state behind. -/
structure Effects (m : Type → Type) [Monad m] (World : Type) where
  Ran : {α : Type} → m α → World → α → World → Prop
  pure_iff : ∀ {α : Type} {value result : α} {before after : World},
    Ran (pure value) before result after ↔ result = value ∧ after = before
  bind_iff : ∀ {α β : Type} {first : m α} {next : α → m β} {result : β} {before after : World},
    Ran (first >>= next) before result after ↔
      ∃ value between, Ran first before value between ∧ Ran (next value) between result after

/-- The laws of an access.  `Untouched` says that nothing has changed that would last, and
`Delivered` that a path leads to a text now, and nothing else has changed. -/
structure Access.Lawful {m : Type → Type} [Monad m] {World : Type} (access : Access m)
    (effects : Effects m World) (Untouched : World → World → Prop)
    (Delivered : (path text : String) → World → World → Prop) : Prop where
  refl : ∀ world, Untouched world world
  trans : ∀ {before between after}, Untouched before between → Untouched between after →
    Untouched before after
  readFile : ∀ {path before result after},
    effects.Ran (access.readFile path) before result after → Untouched before after
  readInput : ∀ {before result after},
    effects.Ran access.readInput before result after → Untouched before after
  writeFile : ∀ {path text before result after},
    effects.Ran (access.writeFile path text) before result after →
      (∃ reason, result = .error reason) ∧ Untouched before after ∨
        result = .ok () ∧ Delivered path text before after
  delivered : ∀ {path text before between after}, Untouched before between →
    Delivered path text between after → Delivered path text before after

variable {m : Type → Type} [Monad m]

/-! ### Options, source text and action -/

/-- The options and the source text of a run. -/
def prepared (access : Access m) (settings : Settings) :
    m (Logged Failure (CompileOptions × String)) := do
  match ← settledOptions access settings with
  | .error failure => return .silent (.error failure)
  | .ok options =>
      return ⟨[.settled options], (← sourceText access settings).map fun source =>
        (options, source)⟩

/-- What an action makes of the options and the source text of a run. -/
def Action.performOn (action : Action) (ready : Logged Failure (CompileOptions × String)) :
    Logged Failure String :=
  ready.andThen fun (options, source) => action.perform options source

/-- Delivers what was made, if there is anything. -/
def delivery (access : Access m) (settings : Settings) (made : Logged Failure String) :
    m (Logged Failure String) :=
  match made.result with
  | .error _ => return made
  | .ok text => return ⟨made.events, ← delivered access settings text⟩

/-- The log of a run, with the warnings about its filter. -/
def shownLog (filter : Option String) (events : List LogEvent) : String :=
  let (filter, warnings) := LogFilter.ofText (filter.getD "warn")
  String.join (warnings.map (· ++ "\n") ++ (events.filter filter.admits).map logLine)

/-- The report of a run that came to a result. -/
def Report.of (filter : Option String) (logged : Logged Failure String) : Report :=
  match logged.result with
  | .ok output => ⟨0, output, shownLog filter logged.events⟩
  | .error failure => ⟨1, "", shownLog filter logged.events ++ failure.report⟩

variable {World : Type} {effects : Effects m World} {access : Access m}
  {Untouched : World → World → Prop} {Delivered : (path text : String) → World → World → Prop}
  {before between after : World} {report : Report} {filter : Option String}
  {arguments : List String} {action : Action} {settings : Settings}
  {made logged : Logged Failure String}

/-- When the source text was read, what is left is to perform the action and to deliver. -/
theorem performed_rest (access : Access m) (action : Action) (settings : Settings)
    (options : CompileOptions) (source : Except Failure String) :
    (match source with
      | .error failure =>
          return (Logged.report (.settled options)).andThen fun _ : Unit => .silent (.error failure)
      | .ok source =>
          let made := (Logged.report (.settled options)).andThen fun _ : Unit =>
            action.perform options source
          match made.result with
          | .error _ => return made
          | .ok text => return ⟨made.events, ← delivered access settings text⟩ :
      m (Logged Failure String)) =
      delivery access settings
        (action.performOn ⟨[.settled options], source.map fun source => (options, source)⟩) := by
  cases source with
  | error failure => rfl
  | ok source => rfl

/-- A run prepares, performs and delivers. -/
theorem ran_performed_iff : effects.Ran (performed access action settings) before logged after ↔
    ∃ ready between, effects.Ran (prepared access settings) before ready between ∧
      effects.Ran (delivery access settings (action.performOn ready)) between logged after := by
  rw [performed, effects.bind_iff]
  constructor
  · rintro ⟨settled, later, first, rest⟩
    cases settled with
    | error failure =>
      obtain ⟨rfl, rfl⟩ := effects.pure_iff.mp rest
      refine ⟨.silent (.error failure), _, ?_, effects.pure_iff.mpr ⟨rfl, rfl⟩⟩
      exact effects.bind_iff.mpr ⟨_, _, first, effects.pure_iff.mpr ⟨rfl, rfl⟩⟩
    | ok options =>
      obtain ⟨source, between, second, last⟩ := effects.bind_iff.mp rest
      refine ⟨_, between, effects.bind_iff.mpr ⟨_, _, first, effects.bind_iff.mpr
        ⟨source, between, second, effects.pure_iff.mpr ⟨rfl, rfl⟩⟩⟩, ?_⟩
      rwa [← performed_rest]
  · rintro ⟨ready, between, ran, last⟩
    obtain ⟨settled, later, first, rest⟩ := effects.bind_iff.mp ran
    refine ⟨settled, later, first, ?_⟩
    cases settled with
    | error failure =>
      obtain ⟨rfl, rfl⟩ := effects.pure_iff.mp rest
      exact last
    | ok options =>
      obtain ⟨source, between', second, same⟩ := effects.bind_iff.mp rest
      obtain ⟨rfl, rfl⟩ := effects.pure_iff.mp same
      refine effects.bind_iff.mpr ⟨source, _, second, ?_⟩
      rwa [← performed_rest] at last

/-- A run that performs an action reports what came of it. -/
theorem ran_run_iff (asked : request arguments = .ok (.perform action settings)) :
    effects.Ran (run access filter arguments) before report after ↔
      ∃ logged, effects.Ran (performed access action settings) before logged after ∧
        report = Report.of filter logged := by
  have reports : run access filter arguments =
      performed access action settings >>= fun logged => pure (Report.of filter logged) := by
    rw [run, asked]
    refine bind_congr fun ⟨events, result⟩ => ?_
    cases result <;> rfl
  rw [reports, effects.bind_iff]
  constructor
  · rintro ⟨logged, between, ran, told⟩
    obtain ⟨rfl, rfl⟩ := effects.pure_iff.mp told
    exact ⟨logged, ran, rfl⟩
  · rintro ⟨logged, ran, rfl⟩
    exact ⟨logged, after, ran, effects.pure_iff.mpr ⟨rfl, rfl⟩⟩

/-- The run without the file for the output prints what was made. -/
theorem ran_run_withoutOutput {ready : Logged Failure (CompileOptions × String)} {text : String}
    (asked : request arguments = .ok (.perform action settings))
    (ran : effects.Ran (prepared access settings) before ready between)
    (made : (action.performOn ready).result = .ok text) :
    effects.Ran (run access filter (withoutOutput false arguments)) before
      ⟨0, text ++ "\n", shownLog filter (action.performOn ready).events⟩ between := by
  refine (ran_run_iff (request_withoutOutput asked)).mpr ⟨⟨_, .ok (text ++ "\n")⟩, ?_, rfl⟩
  refine ran_performed_iff.mpr ⟨ready, between, ran, ?_⟩
  rw [delivery, made]
  refine effects.bind_iff.mpr ⟨.ok (text ++ "\n"), between, ?_, ?_⟩
  · exact effects.pure_iff.mpr ⟨rfl, rfl⟩
  · exact effects.pure_iff.mpr ⟨rfl, rfl⟩

/-- A run that performs no action does nothing to the world, and prints nothing if it fails. -/
theorem ran_run_of_not_perform
    (asked : ∀ action settings, request arguments ≠ .ok (.perform action settings))
    (ran : effects.Ran (run access filter arguments) before report after) :
    after = before ∧ (report.exitCode ≠ 0 → report.output = "") := by
  rw [run] at ran
  cases requested : request arguments with
  | error fault =>
    rw [requested] at ran
    obtain ⟨rfl, rfl⟩ := effects.pure_iff.mp ran
    exact ⟨rfl, fun _ => rfl⟩
  | ok wanted =>
    rw [requested] at ran
    cases wanted with
    | version | help _ =>
      obtain ⟨rfl, rfl⟩ := effects.pure_iff.mp ran
      exact ⟨rfl, fun failed => (failed rfl).elim⟩
    | perform action settings => exact (asked action settings requested).elim

namespace Access.Lawful

/-! ### Steps of a run -/

theorem pure {α : Type} {value result : α}
    (lawful : access.Lawful effects Untouched Delivered)
    (ran : effects.Ran (Pure.pure value) before result after) : Untouched before after := by
  obtain ⟨-, rfl⟩ := effects.pure_iff.mp ran
  exact lawful.refl _

theorem pure_bind {α β : Type} {value : α} {next : α → β} {result : β}
    (lawful : access.Lawful effects Untouched Delivered)
    (ran : effects.Ran (Pure.pure value >>= fun value => Pure.pure (next value)) before result
      after) : Untouched before after := by
  obtain ⟨value, between, first, last⟩ := effects.bind_iff.mp ran
  exact lawful.trans (lawful.pure first) (lawful.pure last)

theorem settledOptions (lawful : access.Lawful effects Untouched Delivered)
    {result : Except Failure CompileOptions}
    (ran : effects.Ran (settledOptions access settings) before result after) :
    Untouched before after := by
  rw [CommandLine.settledOptions] at ran
  cases config : settings.config with
  | none =>
    rw [config] at ran
    exact lawful.pure_bind ran
  | some path =>
    rw [config] at ran
    obtain ⟨read, between, reading, rest⟩ := effects.bind_iff.mp ran
    refine lawful.trans (lawful.readFile reading) ?_
    cases read with
    | error reason => exact lawful.pure_bind rest
    | ok text => exact lawful.pure_bind rest

theorem sourceText (lawful : access.Lawful effects Untouched Delivered)
    {result : Except Failure String}
    (ran : effects.Ran (sourceText access settings) before result after) :
    Untouched before after := by
  rw [CommandLine.sourceText] at ran
  cases input : settings.input with
  | none =>
    rw [input] at ran
    obtain ⟨read, between, reading, last⟩ := effects.bind_iff.mp ran
    exact lawful.trans (lawful.readInput reading) (lawful.pure last)
  | some path =>
    rw [input] at ran
    obtain ⟨read, between, reading, last⟩ := effects.bind_iff.mp ran
    exact lawful.trans (lawful.readFile reading) (lawful.pure last)

/-- What comes in front of the delivery only reads. -/
theorem prepared (lawful : access.Lawful effects Untouched Delivered)
    {ready : Logged Failure (CompileOptions × String)}
    (ran : effects.Ran (prepared access settings) before ready after) :
    Untouched before after := by
  obtain ⟨settled, between, first, rest⟩ := effects.bind_iff.mp ran
  refine lawful.trans (lawful.settledOptions first) ?_
  cases settled with
  | error failure => exact lawful.pure rest
  | ok options =>
    obtain ⟨source, later, second, last⟩ := effects.bind_iff.mp rest
    exact lawful.trans (lawful.sourceText second) (lawful.pure last)

/-- A delivery that fails leaves the world as it was.  One that succeeds prints the text that was
made, with a line end, or has delivered it to the path of the output file. -/
theorem delivery (lawful : access.Lawful effects Untouched Delivered)
    (ran : effects.Ran (delivery access settings made) before logged after) :
    (∃ failure, logged.result = .error failure) ∧ Untouched before after ∨
      ∃ text, made.result = .ok text ∧
        (settings.output = none ∧ logged = ⟨made.events, .ok (text ++ "\n")⟩ ∧ after = before ∨
          ∃ path, settings.output = some path ∧ logged.result = .ok "" ∧
            Delivered path text before after) := by
  rw [CommandLine.delivery] at ran
  cases result : made.result with
  | error failure =>
    rw [result] at ran
    obtain ⟨rfl, rfl⟩ := effects.pure_iff.mp ran
    exact Or.inl ⟨⟨failure, result⟩, lawful.refl _⟩
  | ok text =>
    rw [result] at ran
    obtain ⟨delivered, between, first, last⟩ := effects.bind_iff.mp ran
    obtain ⟨rfl, rfl⟩ := effects.pure_iff.mp last
    rw [CommandLine.delivered] at first
    cases toFile : settings.output with
    | none =>
      rw [toFile] at first
      obtain ⟨rfl, rfl⟩ := effects.pure_iff.mp first
      exact Or.inr ⟨text, rfl, Or.inl ⟨rfl, rfl, rfl⟩⟩
    | some path =>
      rw [toFile] at first
      obtain ⟨written, later, writing, same⟩ := effects.bind_iff.mp first
      obtain ⟨rfl, rfl⟩ := effects.pure_iff.mp same
      obtain ⟨⟨reason, rfl⟩, untouched⟩ | ⟨rfl, delivered⟩ := lawful.writeFile writing
      · exact Or.inl ⟨⟨_, rfl⟩, untouched⟩
      · exact Or.inr ⟨text, rfl, Or.inr ⟨path, rfl, rfl, delivered⟩⟩

end Access.Lawful

/-! ### Runs -/

/-- Whatever the world is, a run that fails prints nothing and leaves the world as it was, and so
does every run without an output file.  A run that succeeds with one prints nothing either, and has
delivered to it what the same words without the file print, less the line end. -/
theorem run_all_or_nothing (lawful : access.Lawful effects Untouched Delivered)
    (ran : effects.Ran (run access filter arguments) before report after) :
    (report.exitCode ≠ 0 → report.output = "" ∧ Untouched before after) ∧
    ((∀ action settings, request arguments = .ok (.perform action settings) →
        settings.output = none) → Untouched before after) ∧
    ∀ action settings path, request arguments = .ok (.perform action settings) →
      settings.output = some path → report.exitCode = 0 →
      request (withoutOutput false arguments) = .ok (.perform action settings.withoutOutput) ∧
      report.output = "" ∧
      ∃ text shown between,
        effects.Ran (run access filter (withoutOutput false arguments)) before
          ⟨0, text ++ "\n", shown⟩ between ∧
        Untouched before between ∧ Delivered path text before after := by
  by_cases performs : ∃ action settings, request arguments = .ok (.perform action settings)
  · obtain ⟨action, settings, asked⟩ := performs
    obtain ⟨logged, made, rfl⟩ := (ran_run_iff asked).mp ran
    obtain ⟨ready, between, first, last⟩ := ran_performed_iff.mp made
    have untouched := lawful.prepared first
    obtain ⟨⟨failure, failed⟩, same⟩ | ⟨text, result, ⟨noFile, rfl, rfl⟩ |
      ⟨path, toFile, printed, delivered⟩⟩ := lawful.delivery last
    · have reported : Report.of filter logged =
          ⟨1, "", shownLog filter logged.events ++ failure.report⟩ := by
        rw [Report.of, failed]
      rw [reported]
      have whole := lawful.trans untouched same
      exact ⟨fun _ => ⟨rfl, whole⟩, fun _ => whole, fun _ _ _ _ _ succeeded => nomatch succeeded⟩
    · refine ⟨fun failed => (failed rfl).elim, fun _ => untouched, ?_⟩
      intro action' settings' path asked' toFile
      obtain ⟨rfl, rfl⟩ := Request.perform.inj (Except.ok.inj (asked'.symm.trans asked))
      exact absurd (noFile.symm.trans toFile) (by simp)
    · have reported : Report.of filter logged = ⟨0, "", shownLog filter logged.events⟩ := by
        rw [Report.of, printed]
      rw [reported]
      refine ⟨fun failed => (failed rfl).elim, fun noFile => ?_, ?_⟩
      · exact absurd ((noFile _ _ asked).symm.trans toFile) (by simp)
      · intro action' settings' path' asked' toFile' _
        obtain ⟨rfl, rfl⟩ := Request.perform.inj (Except.ok.inj (asked'.symm.trans asked))
        obtain rfl := Option.some.inj (toFile'.symm.trans toFile)
        exact ⟨request_withoutOutput asked, rfl, text, _, between,
          ran_run_withoutOutput asked first result, untouched,
          lawful.delivered untouched delivered⟩
  · have idle : ∀ action settings, request arguments ≠ .ok (.perform action settings) :=
      fun action settings asked => performs ⟨action, settings, asked⟩
    obtain ⟨rfl, silent⟩ := ran_run_of_not_perform idle ran
    exact ⟨fun failed => ⟨silent failed, lawful.refl _⟩, fun _ => lawful.refl _,
      fun _ _ _ asked => (idle _ _ asked).elim⟩

end LiteralLang.CommandLine
