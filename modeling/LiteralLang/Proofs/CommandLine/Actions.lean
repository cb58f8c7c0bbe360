import LiteralLang.Proofs.Callable.Compiled
import LiteralLang.Proofs.CommandLine.Run
import LiteralLang.Proofs.Json.Blanks

/-!
# What actions make

Three of the actions compile the source, whether in one step or stage by stage, and succeed exactly
if it compiles; the fourth only cuts it into tokens.  Which options a run compiles with is settled
by the flag for the bound first, by the configuration file where there is no flag, and by the
standard ones where there is neither.
-/

namespace LiteralLang.CommandLine

variable {options : CompileOptions} {source : String} {callable : Callable} {fault : CompileError}
  {action : Action} {directory : Directory} {input : ByteArray} {settings : Settings}

/-! ### Actions -/

/-- What an action makes of the tokens of a source text and the callable of it. -/
def Action.make (tokens : List Token) (callable : Callable) : Action → String
  | .eval => callable.call.toJson.indented
  | .emit => callable.code
  | .ast => callable.tree.toJson.indented
  | .tokens => tokenListing tokens

/-- Whatever compiles can be treated by every action. -/
theorem exists_make_of_compileWith (compiled : compileWith options source = .ok callable) :
    ∃ tokens, ∀ action : Action,
      (action.perform options source).result = .ok (action.make tokens callable) := by
  obtain ⟨tokens, cut, built⟩ := Result.bind_eq_ok_iff.mp (compileWith_eq options source ▸ compiled)
  obtain ⟨tree, accepted, whole⟩ := Result.bind_eq_ok_iff.mp built
  obtain rfl := Except.ok.inj whole
  have scanned : (scan source).result = .ok tokens := cut
  have built : (Node.build options tokens).result = .ok tree := accepted
  have compiled : (compilation options source).result = .ok ⟨tree⟩ := compiled
  refine ⟨tokens, fun action => ?_⟩
  cases action with
  | eval | emit => simp [Action.perform, compiled, Action.make]
  | ast => simp [Action.perform, scanned, built, Action.make]
  | tokens => simp [Action.perform, scanned, Action.make]

/-- What does not compile is refused by every action that compiles, for the same cause. -/
theorem exists_failure_of_compileWith (refused : compileWith options source = .error fault)
    (compiles : action ≠ .tokens) :
    ∃ failure, (action.perform options source).result = .error failure ∧
      failure.causes = Failure.compileCauses fault := by
  have whole : (compilation options source).result = .error fault := refused
  cases action with
  | eval | emit => exact ⟨.compile fault, by simp [Action.perform, whole], rfl⟩
  | ast =>
    obtain cut | ⟨tokens, cut, built⟩ :=
      Result.bind_eq_error_iff.mp (compileWith_eq options source ▸ refused)
    · have scanned : (scan source).result = .error fault := cut
      exact ⟨.tokenize fault, by simp [Action.perform, scanned], rfl⟩
    · have scanned : (scan source).result = .ok tokens := cut
      obtain rejected | ⟨tree, -, whole⟩ := Result.bind_eq_error_iff.mp built
      · have rejected : (Node.build options tokens).result = .error fault := rejected
        exact ⟨.build fault, by simp [Action.perform, scanned, rejected], rfl⟩
      · simp at whole
  | tokens => exact (compiles rfl).elim

theorem make_ne_empty (compiled : compileWith options source = .ok callable) (tokens : List Token)
    (compiles : action ≠ .tokens) : action.make tokens callable ≠ "" := by
  cases action with
  | eval => exact Json.indented_ne_empty _
  | ast => exact Json.indented_ne_empty _
  | emit =>
    obtain ⟨body, wraps, -⟩ := exists_body_of_compileWith compiled
    rw [Action.make, Callable.code, wraps.whole, Node.code]
    simp
  | tokens => exact (compiles rfl).elim

/-! ### Options -/

/-- The options of settings, whose bound goes before that of other options. -/
def Settings.bounded (settings : Settings) (base : CompileOptions) : CompileOptions :=
  (settings.maxDepth.map CompileOptions.mk).getD base

/-- The options that settings come to: the bound of the flag where there is one, and else those of
the configuration file, or the standard ones without it. -/
def Settings.Gives (settings : Settings) (scene : Scene) (options : CompileOptions) : Prop :=
  ∃ base,
    (match settings.config with
      | none => base = .standard
      | some path =>
          ∃ text, (scene.read path).1 = .ok text ∧ CompileOptions.read text = .ok base) ∧
    options = settings.bounded base

theorem run_settledOptions (settings : Settings) (scene : Scene) :
    (settledOptions .inScene settings).run scene =
      match settings.config with
      | none => (.ok (settings.bounded .standard), scene)
      | some path =>
          (match (scene.read path).1 with
            | .error reason => .error (.readConfig path reason)
            | .ok text =>
                ((CompileOptions.read text).mapError (.invalidOptions path)).map settings.bounded,
            (scene.read path).2) := by
  rw [settledOptions]
  cases settings.config with
  | none => rfl
  | some path =>
    have read : (Access.inScene.readFile path).run scene = scene.read path := rfl
    simp only [StateT.run_bind, read]
    obtain ⟨result, after⟩ := scene.read path
    cases result <;> rfl

theorem gives_of_settledOptions {scene : Scene}
    (settled : ((settledOptions .inScene settings).run scene).1 = .ok options) :
    settings.Gives scene options := by
  rw [run_settledOptions] at settled
  rw [Settings.Gives]
  cases config : settings.config with
  | none =>
    rw [config] at settled
    exact ⟨.standard, rfl, (Except.ok.inj settled).symm⟩
  | some path =>
    rw [config] at settled
    simp only at settled
    split at settled
    case h_1 => simp at settled
    case h_2 text read =>
      cases described : CompileOptions.read text with
      | error reason => simp [described, Except.map] at settled
      | ok base =>
        rw [described] at settled
        exact ⟨base, ⟨text, read, described⟩, (Except.ok.inj settled).symm⟩

/-- The preparation in a directory, step by step. -/
theorem ready_eq (directory : Directory) (input : ByteArray) (settings : Settings) :
    ready directory input settings =
      let settled := (settledOptions .inScene settings).run (.start directory input)
      match settled.1 with
      | .error failure => .silent (.error failure)
      | .ok options =>
          ⟨[.settled options], ((sourceText .inScene settings).run settled.2).1.map fun source =>
            (options, source)⟩ := by
  rw [ready, prepared, StateT.run_bind]
  obtain ⟨result, after⟩ := (settledOptions .inScene settings).run (.start directory input)
  cases result <;> rfl

/-- A run that gets as far as its source text has settled its options. -/
theorem gives_of_ready (settled : (ready directory input settings).result = .ok (options, source)) :
    settings.Gives (.start directory input) options := by
  apply gives_of_settledOptions
  rw [ready_eq] at settled
  simp only at settled
  split at settled
  case h_1 => simp at settled
  case h_2 options' first =>
    rw [first]
    cases found : ((sourceText .inScene settings).run
        ((settledOptions .inScene settings).run (.start directory input)).2).1 with
    | error failure => simp [found, Except.map] at settled
    | ok source =>
      rw [found] at settled
      obtain ⟨rfl, -⟩ := Prod.mk.inj (Except.ok.inj settled)
      rfl

/-- A source text on the standard input is read from there, unless the configuration is. -/
theorem ready_of_stdin (stdin : settings.input = none)
    (apart : ∀ path, settings.config = some path → directory.find path ≠ .device .input)
    (given : settings.Gives (.start directory source.toUTF8) options) :
    ready directory source.toUTF8 settings = ⟨[.settled options], .ok (options, source)⟩ := by
  have settled : (settledOptions .inScene settings).run (.start directory source.toUTF8) =
      (.ok options, .start directory source.toUTF8) := by
    rw [run_settledOptions]
    obtain ⟨base, found, rfl⟩ := given
    cases config : settings.config with
    | none =>
      simp only [config] at found
      rw [found]
    | some path =>
      simp only [config] at found
      obtain ⟨text, read, described⟩ := found
      have kept : ((Scene.start directory source.toUTF8).read path).2 =
          .start directory source.toUTF8 := by
        rw [Scene.read]
        split
        case h_2 reads => exact (apart path config reads).elim
        all_goals rfl
      simp only [read, kept, described]
      rfl
  have taken : ((sourceText .inScene settings).run (.start directory source.toUTF8)).1 =
      .ok source := by
    rw [sourceText, stdin]
    change (textOf source.toUTF8).mapError Failure.readInput = _
    rw [textOf_toUTF8]
    rfl
  rw [ready_eq, settled]
  simp only [taken]
  rfl

/-! ### Success -/

/-- The text can be delivered. -/
def Accepts (directory : Directory) (output : Option String) (text : String) : Prop :=
  ∀ path, output = some path → ((Scene.start directory .empty).write path text).1 = .ok ()

theorem deliveryIn_exitCode_eq_zero_iff {output : Option String}
    {result : Except Failure String} :
    (deliveryIn directory output result).1.exitCode = 0 ↔
      ∃ text, result = .ok text ∧ Accepts directory output text := by
  cases result with
  | error failure => simp [deliveryIn]
  | ok text =>
    cases output with
    | none => simp [deliveryIn, Accepts]
    | some path =>
      rw [deliveryIn]
      simp only [Accepts, Except.ok.injEq, Option.some.injEq, forall_eq', exists_eq_left']
      obtain ⟨result, after⟩ := (Scene.start directory .empty).write path text
      cases result <;> simp

/-- Where any text can be delivered, every text can, unless that was nothing. -/
theorem Accepts.other {output : Option String} {text : String}
    (accepts : Accepts directory output text) (nonempty : text ≠ "") (other : String) :
    Accepts directory output other := by
  intro path toFile
  have written := accepts path toFile
  rw [Scene.write] at written ⊢
  simp only [Scene.start] at written ⊢
  cases found : directory.find path with
  | device device =>
    cases device with
    | full => simp [found, nonempty] at written
    | absent => simp [found, Directory.write] at written
    | _ => rfl
  | file place => simp [found, Directory.write]
  | vacant place => simp [found, Directory.write]
  | _ => simp [found, Directory.write] at written

end LiteralLang.CommandLine
