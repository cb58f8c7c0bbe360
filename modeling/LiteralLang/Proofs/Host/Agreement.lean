import LiteralLang.Host
import LiteralLang.Proofs.CommandLine.Actions
import LiteralLang.Proofs.CommandLine.Failure
import LiteralLang.Proofs.Node.Json
import Mathlib.Data.List.TFAE

/-!
# Agreement of the program and the embedding

The program and the two calls of an embedding host accept the same source texts, and what they make
of a text is the same up to blanks and a line end.  A text that is refused is refused for the same
cause.  Options change which texts are accepted, but for all actions that compile alike.
-/

namespace LiteralLang

open CommandLine

variable {directory : Directory} {input : ByteArray} {filter : Option String}
  {arguments : List String} {action : Action} {settings : Settings} {options : CompileOptions}
  {source : String} {callable : Callable} {fault : CompileError}

/-! ### Runs -/

/-- The report of a run of an action without flags, with a source text on the standard input. -/
def reportOn (directory : Directory) (filter : Option String) (source : String) (action : Action) :
    Report :=
  (runIn directory source.toUTF8 filter [action.word]).1

theorem request_word (action : Action) : request [action.word] = .ok (.perform action .empty) := by
  cases action <;> rfl

/-- The parts of a run, when options and source text are ready. -/
theorem runIn_of_ready (asked : request arguments = .ok (.perform action settings))
    (prepared : (ready directory input settings).result = .ok (options, source)) :
    ∃ events,
      let last := deliveryIn directory settings.output (action.perform options source).result
      runIn directory input filter arguments =
        (⟨last.1.exitCode, last.1.output, shownLog filter events ++ last.1.errors⟩, last.2) := by
  have made_result : (made directory input action settings).result =
      (action.perform options source).result := by
    rw [made, Action.performOn, Logged.andThen, prepared]
  refine ⟨(made directory input action settings).events, ?_⟩
  rw [runIn_of_perform asked, performIn, made_result]

theorem ready_standard (directory : Directory) (source : String) :
    (ready directory source.toUTF8 .empty).result = .ok (.standard, source) := by
  have given : Settings.empty.Gives (.start directory source.toUTF8) .standard :=
    ⟨.standard, rfl, rfl⟩
  rw [ready_of_stdin rfl (by simp [Settings.empty]) given]

/-- What compiles is treated by every action. -/
theorem reportOn_of_compile (directory : Directory) (filter : Option String)
    (compiled : compile source = .ok callable) :
    ∃ tokens, ∀ action : Action, ∃ shown, reportOn directory filter source action =
      ⟨0, action.make tokens callable ++ "\n", shown⟩ := by
  obtain ⟨tokens, made⟩ := exists_make_of_compileWith compiled
  refine ⟨tokens, fun action => ?_⟩
  obtain ⟨events, ran⟩ := runIn_of_ready (request_word action) (ready_standard directory source)
  exact ⟨_, by rw [reportOn, ran, made action]; rfl⟩

/-- What does not compile is refused by every action that compiles. -/
theorem reportOn_of_error (directory : Directory) (filter : Option String)
    (refused : compile source = .error fault) (compiles : action ≠ .tokens) :
    ∃ events, ∃ failure : Failure,
      reportOn directory filter source action =
        ⟨1, "", shownLog filter events ++ failure.report⟩ ∧
      failure.causes = Failure.compileCauses fault := by
  obtain ⟨failure, failed, causes⟩ := exists_failure_of_compileWith refused compiles
  obtain ⟨events, ran⟩ := runIn_of_ready (request_word action) (ready_standard directory source)
  exact ⟨events, failure, by rw [reportOn, ran, failed]; rfl, causes⟩

theorem head?_compileCauses (fault : CompileError) :
    (Failure.compileCauses fault).head? = some fault.message := by
  cases fault <;> rfl

/-- What compiles under the options of a run is treated by every action, if nothing but the standard
output is asked for. -/
theorem exitCode_eq_zero_of_ready (asked : request arguments = .ok (.perform action settings))
    (noFile : settings.output = none)
    (prepared : (ready directory input settings).result = .ok (options, source))
    (compiled : compileWith options source = .ok callable) :
    (runIn directory input filter arguments).1.exitCode = 0 := by
  obtain ⟨tokens, made⟩ := exists_make_of_compileWith compiled
  obtain ⟨events, ran⟩ := runIn_of_ready asked prepared
  rw [ran, made, noFile]
  rfl

/-- What one action compiles every action treats, and can deliver where the first one could. -/
theorem exists_of_exitCode_eq_zero {arguments : Action → List String}
    (asked : ∀ action, request (arguments action) = .ok (.perform action settings))
    (compiles : action ≠ .tokens)
    (succeeded : (runIn directory input filter (arguments action)).1.exitCode = 0) :
    (∀ other, (runIn directory input filter (arguments other)).1.exitCode = 0) ∧
      ∃ options source callable, settings.Gives (.start directory input) options ∧
        (ready directory input settings).result = .ok (options, source) ∧
        compileWith options source = .ok callable := by
  rw [runIn_of_perform (asked action), performIn, made, Action.performOn, Logged.andThen]
    at succeeded
  cases prepared : (ready directory input settings).result with
  | error failure => simp [prepared, deliveryIn] at succeeded
  | ok settled =>
    obtain ⟨options, source⟩ := settled
    simp only [prepared] at succeeded
    cases compiled : compileWith options source with
    | error fault =>
      obtain ⟨failure, failed, -⟩ := exists_failure_of_compileWith compiled compiles
      simp [failed, deliveryIn] at succeeded
    | ok callable =>
      obtain ⟨tokens, made⟩ := exists_make_of_compileWith compiled
      rw [made, deliveryIn_exitCode_eq_zero_iff] at succeeded
      obtain ⟨text, same, accepts⟩ := succeeded
      obtain rfl := Except.ok.inj same
      refine ⟨fun other => ?_, options, source, callable, gives_of_ready prepared, rfl, compiled⟩
      obtain ⟨events, ran⟩ := runIn_of_ready (asked other) prepared
      rw [ran, made]
      exact deliveryIn_exitCode_eq_zero_iff.mpr
        ⟨_, rfl, accepts.other (make_ne_empty compiled tokens compiles) _⟩

/-- Two runs with the same filter came out alike, the log aside. -/
def SameOutcome (filter : Option String) (ran ran' : Report × Directory) : Prop :=
  ran.1.exitCode = ran'.1.exitCode ∧ ran.1.output = ran'.1.output ∧ ran.2 = ran'.2 ∧
    ∃ events events' problem,
      ran.1.errors = shownLog filter events ++ problem ∧
      ran'.1.errors = shownLog filter events' ++ problem

/-- The tokens of a source text are the same under all options. -/
theorem sameOutcome_of_ready {arguments' : List String} {input' : ByteArray}
    {settings' : Settings} {options' : CompileOptions}
    (asked : request arguments = .ok (.perform .tokens settings))
    (asked' : request arguments' = .ok (.perform .tokens settings'))
    (sameOutput : settings.output = settings'.output)
    (prepared : (ready directory input settings).result = .ok (options, source))
    (prepared' : (ready directory input' settings').result = .ok (options', source)) :
    SameOutcome filter (runIn directory input filter arguments)
      (runIn directory input' filter arguments') := by
  have same : Action.tokens.perform options' source = Action.tokens.perform options source := rfl
  obtain ⟨events, ran⟩ := runIn_of_ready asked prepared
  obtain ⟨events', ran'⟩ := runIn_of_ready asked' prepared'
  rw [same, ← sameOutput] at ran'
  rw [ran, ran']
  exact ⟨rfl, rfl, rfl, events, events', _, rfl, rfl⟩

/-! ### Agreement -/

/-- The program, run without flags in a directory, agrees with an embedding host about a source
text. -/
structure AgreesOn (directory : Directory) (filter : Option String) (source : String) : Prop where
  /-- The calls return exactly if the actions that compile succeed. -/
  together : List.TFAE [
    ∃ json, Host.evaluate source = .ok json,
    (reportOn directory filter source .eval).exitCode = 0,
    (reportOn directory filter source .emit).exitCode = 0,
    (reportOn directory filter source .ast).exitCode = 0,
    ∃ code, Host.generate source = .ok code]
  /-- The printed value is the returned one but for blanks, the code is the same, and the printed
  tree shows the returned value, once the objects that stand for its nodes are taken away. -/
  returned : ∀ json, Host.evaluate source = .ok json →
    (∃ text, (reportOn directory filter source .eval).output = text ++ "\n" ∧
      Json.withoutBlanks (text ++ "\n") = json) ∧
    (∃ code, Host.generate source = .ok code ∧
      (reportOn directory filter source .emit).output = code ++ "\n") ∧
    ∃ tree : Node, compile source = .ok ⟨tree⟩ ∧
      (reportOn directory filter source .ast).output = tree.toJson.indented ++ "\n" ∧
      Json.withoutBlanks (reportOn directory filter source .ast).output = tree.toJson.compact ∧
      tree.toJson.unwrapped.compact = json ∧ tree.value.toJson.compact = json
  /-- What a call throws is the nearest cause for which the actions that compile fail, and their
  reports show it. -/
  thrown : ∀ message,
    Host.evaluate source = .error message ∨ Host.generate source = .error message →
    Host.evaluate source = .error message ∧ Host.generate source = .error message ∧
    ∀ action, action ≠ .tokens → ∃ events, ∃ failure : Failure,
      reportOn directory filter source action =
        ⟨1, "", shownLog filter events ++ failure.report⟩ ∧
      failure.causes.head? = some message ∧ failure.Shows message

theorem agreesOn (directory : Directory) (filter : Option String) (source : String) :
    AgreesOn directory filter source := by
  cases compiled : compile source with
  | ok callable =>
    have evaluated : Host.evaluate source = .ok callable.call.toJson.compact := by
      rw [Host.evaluate, compiled]
    have generated : Host.generate source = .ok callable.code := by
      rw [Host.generate, compiled]
    obtain ⟨tokens, ran⟩ := reportOn_of_compile directory filter compiled
    have succeeded (action : Action) : (reportOn directory filter source action).exitCode = 0 := by
      obtain ⟨shown, ran⟩ := ran action
      rw [ran]
    have printed (action : Action) : (reportOn directory filter source action).output =
        action.make tokens callable ++ "\n" := by
      obtain ⟨shown, ran⟩ := ran action
      rw [ran]
    refine ⟨List.tfae_of_forall True _ ?_, ?_, ?_⟩
    · simp [evaluated, generated, succeeded]
    · intro json same
      obtain rfl := Except.ok.inj (evaluated.symm.trans same)
      refine ⟨⟨_, printed .eval, callable.call.toJson.withoutBlanks_indented⟩,
        ⟨_, generated, printed .emit⟩, callable.tree, compiled, printed .ast, ?_, ?_, rfl⟩
      · rw [printed .ast]
        exact callable.tree.toJson.withoutBlanks_indented
      · rw [callable.tree.unwrapped_toJson]
        rfl
    · simp [evaluated, generated]
  | error fault =>
    have evaluated : Host.evaluate source = .error fault.message := by
      rw [Host.evaluate, compiled]
    have generated : Host.generate source = .error fault.message := by
      rw [Host.generate, compiled]
    have failed (action : Action) (compiles : action ≠ .tokens) :
        (reportOn directory filter source action).exitCode ≠ 0 := by
      obtain ⟨events, failure, ran, -⟩ := reportOn_of_error directory filter compiled compiles
      simp [ran]
    refine ⟨List.tfae_of_forall False _ ?_, ?_, ?_⟩
    · simp [evaluated, generated, failed]
    · simp [evaluated]
    · intro message refused
      obtain rfl : fault.message = message := by
        simpa [evaluated, generated] using refused
      refine ⟨evaluated, generated, fun action compiles => ?_⟩
      obtain ⟨events, failure, ran, causes⟩ := reportOn_of_error directory filter compiled compiles
      have nearest : failure.causes.head? = some fault.message := by
        rw [causes, head?_compileCauses]
      exact ⟨events, failure, ran, nearest, Failure.shows_of_causes nearest⟩

/-- Embedding hosts and the program agree on every source text.  Under any settings the actions that
compile succeed together, exactly on what compiles with the options that the settings come to, and
then the listing of tokens succeeds as well.  That listing is the same under all options. -/
theorem hosts_agree (directory : Directory) (filter : Option String) :
    (∀ source, AgreesOn directory filter source) ∧
    (∀ input settings (arguments : Action → List String),
      (∀ action, request (arguments action) = .ok (.perform action settings)) →
      (∀ action, action ≠ .tokens →
        (runIn directory input filter (arguments action)).1.exitCode = 0 →
        (∀ other, (runIn directory input filter (arguments other)).1.exitCode = 0) ∧
        ∃ options source callable, settings.Gives (.start directory input) options ∧
          (ready directory input settings).result = .ok (options, source) ∧
          compileWith options source = .ok callable) ∧
      ∀ options source callable, settings.output = none →
        (ready directory input settings).result = .ok (options, source) →
        compileWith options source = .ok callable →
        ∀ action, (runIn directory input filter (arguments action)).1.exitCode = 0) ∧
    ∀ input input' settings settings' arguments arguments' options options' source,
      request arguments = .ok (.perform .tokens settings) →
      request arguments' = .ok (.perform .tokens settings') →
      settings.output = settings'.output →
      (ready directory input settings).result = .ok (options, source) →
      (ready directory input' settings').result = .ok (options', source) →
      SameOutcome filter (runIn directory input filter arguments)
        (runIn directory input' filter arguments') := by
  refine ⟨agreesOn directory filter, fun input settings arguments asked => ⟨?_, ?_⟩, ?_⟩
  · intro action compiles succeeded
    exact exists_of_exitCode_eq_zero asked compiles succeeded
  · intro options source callable noFile prepared compiled action
    exact exitCode_eq_zero_of_ready (asked action) noFile prepared compiled
  · intro input input' settings settings' arguments arguments' options options' source asked asked'
    exact sameOutcome_of_ready asked asked'

/-- A directory with a configuration that allows no array. -/
def flatDirectory : Directory := ⟨[("c", "\x7b\"max_depth\":0\x7d".toUTF8)]⟩

/-- The flag for the bound goes before the configuration. -/
theorem ready_flatDirectory :
    (ready flatDirectory "[1]".toUTF8 ⟨none, none, some "c", some 1⟩).result =
      .ok (⟨1⟩, "[1]") := by
  have config : ((Scene.start flatDirectory "[1]".toUTF8).read "c").1 =
      .ok "\x7b\"max_depth\":0\x7d" := by decide +kernel
  have read : CompileOptions.read "\x7b\"max_depth\":0\x7d" = .ok ⟨0⟩ := by decide +kernel
  have given : Settings.Gives ⟨none, none, some "c", some 1⟩
      (.start flatDirectory "[1]".toUTF8) ⟨1⟩ := ⟨⟨0⟩, ⟨_, config, read⟩, rfl⟩
  have apart : ∀ path, some "c" = some path → flatDirectory.find path ≠ .device .input := by
    rintro _ ⟨⟩
    decide +kernel
  rw [ready_of_stdin rfl apart given]

/-- Each part at work: a text that is accepted, one with a line end in what it is refused for, and
runs whose flag goes before a configuration that refuses them. -/
theorem hosts_agree_flag_over_configuration :
    (∃ text, (reportOn flatDirectory none "[1]" .eval).output = text ++ "\n" ∧
      Json.withoutBlanks (text ++ "\n") = "[1]") ∧
    (∃ events, ∃ failure : Failure, reportOn flatDirectory none "'\\u\n" .ast =
        ⟨1, "", shownLog none events ++ failure.report⟩ ∧
      failure.Shows "invalid unicode escape '\\u\n' at offset 1") ∧
    (∀ action : Action, (runIn flatDirectory "[1]".toUTF8 none
      [action.word, "--config", "c", "--max-depth", "1"]).1.exitCode = 0) ∧
    SameOutcome none
      (runIn flatDirectory "[1]".toUTF8 none ["tokens", "--config", "c", "--max-depth", "1"])
      (runIn flatDirectory "[1]".toUTF8 none ["tokens"]) := by
  have asked (action : Action) : request [action.word, "--config", "c", "--max-depth", "1"] =
      .ok (.perform action ⟨none, none, some "c", some 1⟩) := by
    cases action <;> rfl
  obtain ⟨agree, together, alike⟩ := hosts_agree flatDirectory none
  refine ⟨((agree "[1]").returned "[1]" (by decide +kernel)).1, ?_, ?_, ?_⟩
  · have thrown : Host.evaluate "'\\u\n" =
        .error "invalid unicode escape '\\u\n' at offset 1" := by decide +kernel
    obtain ⟨-, -, refused⟩ := (agree "'\\u\n").thrown _ (Or.inl thrown)
    obtain ⟨events, failure, ran, -, shows⟩ := refused .ast (by simp)
    exact ⟨events, failure, ran, shows⟩
  · have compiled : ∃ callable, compileWith ⟨1⟩ "[1]" = .ok callable := by
      have accepted : (compileWith ⟨1⟩ "[1]").toBool = true := by decide +kernel
      cases outcome : compileWith ⟨1⟩ "[1]" with
      | error fault => simp [outcome, Except.toBool] at accepted
      | ok callable => exact ⟨callable, rfl⟩
    obtain ⟨callable, compiled⟩ := compiled
    exact (together _ _ _ asked).2 _ _ _ rfl ready_flatDirectory compiled
  · exact alike _ _ _ _ _ _ _ _ _ (asked .tokens) (request_word .tokens) rfl ready_flatDirectory
      (ready_standard flatDirectory "[1]")

end LiteralLang
