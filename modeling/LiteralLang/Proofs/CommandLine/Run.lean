import LiteralLang.Proofs.CommandLine.Access
import LiteralLang.Proofs.CommandLine.Directory
import LiteralLang.Proofs.Result

/-!
# Runs in a directory

Access to what a run in a directory has around it is lawful: reading takes the standard input at
most, and a text that is written is refused, goes to a device, or is kept in one file.  So a run
that performs an action is told in parts: what it prepares, what it makes of that, and how this is
delivered, which is all that depends on the output file and on the log filter.
-/

namespace LiteralLang.CommandLine

/-- A computation on a state has one outcome. -/
def Effects.ofState (σ : Type) : Effects (StateM σ) σ where
  Ran step before result after := step.run before = (result, after)
  pure_iff := by
    intro α value result before after
    change (value, before) = (result, after) ↔ result = value ∧ after = before
    rw [Prod.mk.injEq, eq_comm, @eq_comm _ before]
  bind_iff := by
    intro α β first next result before after
    constructor
    · intro ran
      exact ⟨_, _, rfl, ran⟩
    · rintro ⟨value, between, ran, last⟩
      have reached : first before = (value, between) := ran
      change (next (first before).1).run (first before).2 = _
      rw [reached]
      exact last

variable {directory : Directory} {input : ByteArray} {filter : Option String}
  {arguments : List String} {action : Action} {settings : Settings}

/-! ### Access in a directory -/

namespace Scene

/-- Nothing has changed but what is left of the standard input. -/
def Untouched (before after : Scene) : Prop := ∃ rest, after = { before with input := rest }

/-- A text was delivered to the place that a path leads to: a device got it, or one file holds
it. -/
def Delivered (path text : String) (before after : Scene) : Prop :=
  ∃ rest,
    (∃ device, before.directory.find path = .device device ∧
      after = { before with
        input := rest
        output := before.output ++ if device = .output then text else ""
        errors := before.errors ++ if device = .errors then text else "" }) ∨
    ∃ place, (before.directory.find path).Keeps place ∧
      after = { before with
        input := rest
        directory := before.directory.put place text.toUTF8 }

theorem read_untouched (scene : Scene) (path : String) :
    scene.Untouched (scene.read path).2 := by
  rw [Scene.read]
  split
  case h_2 => exact ⟨ByteArray.empty, rfl⟩
  case h_1 | h_3 => exact ⟨scene.input, rfl⟩

/-- A text is refused, goes to a device, or is kept in one file; nothing else changes. -/
theorem write_cases (scene : Scene) (path text : String) :
    (∃ reason, scene.write path text = (.error reason, scene)) ∨
      (∃ device, scene.directory.find path = .device device ∧
        scene.write path text = (.ok (), { scene with
          output := scene.output ++ if device = .output then text else ""
          errors := scene.errors ++ if device = .errors then text else "" })) ∨
      ∃ place, (scene.directory.find path).Keeps place ∧
        scene.write path text =
          (.ok (), { scene with directory := scene.directory.put place text.toUTF8 }) := by
  cases found : scene.directory.find path with
  | device device =>
    cases device with
    | full =>
      by_cases empty : text.isEmpty
      · exact Or.inr (Or.inl ⟨.full, rfl, by simp [Scene.write, found, empty]⟩)
      · exact Or.inl ⟨.noRoom, by simp [Scene.write, found, empty]⟩
    | absent => exact Or.inl ⟨.noDevice, by simp [Scene.write, found, Directory.write]⟩
    | nothing | endless | input | output | errors =>
      exact Or.inr (Or.inl ⟨_, rfl, by simp [Scene.write, found]⟩)
  | file _ | vacant _ | closed _ | asDirectory _ | directory | fault _ =>
    cases written : scene.directory.write path text with
    | error reason => exact Or.inl ⟨reason, by simp [Scene.write, found, written]⟩
    | ok after =>
      obtain ⟨place, keeps, rfl⟩ := Directory.exists_of_write written
      rw [found] at keeps
      exact Or.inr (Or.inr ⟨place, keeps, by simp [Scene.write, found, written]⟩)

end Scene

theorem Access.inScene_lawful :
    Access.inScene.Lawful (.ofState Scene) Scene.Untouched Scene.Delivered where
  refl world := ⟨world.input, rfl⟩
  trans := by
    rintro _ _ _ ⟨_, rfl⟩ ⟨rest, rfl⟩
    exact ⟨rest, rfl⟩
  readFile := by
    intro path before result after ran
    have read : before.read path = (result, after) := ran
    have untouched := before.read_untouched path
    rwa [read] at untouched
  readInput := by
    intro before result after ran
    have taken : before.takeInput = (result, after) := ran
    exact ⟨.empty, (congrArg Prod.snd taken).symm⟩
  writeFile := by
    intro path text before result after ran
    have written : before.write path text = (result, after) := ran
    obtain ⟨reason, same⟩ | ⟨device, found, same⟩ | ⟨place, keeps, same⟩ :=
      before.write_cases path text
    all_goals obtain ⟨rfl, rfl⟩ := Prod.mk.inj (same.symm.trans written)
    · exact Or.inl ⟨⟨reason, rfl⟩, before.input, rfl⟩
    · exact Or.inr ⟨rfl, before.input, Or.inl ⟨device, found, rfl⟩⟩
    · exact Or.inr ⟨rfl, before.input, Or.inr ⟨place, keeps, rfl⟩⟩
  delivered := by
    rintro path text before _ after ⟨_, rfl⟩ ⟨rest, delivered⟩
    exact ⟨rest, delivered⟩

/-! ### Runs in a directory -/

/-- The options and the source text of a run in a directory. -/
def ready (directory : Directory) (input : ByteArray) (settings : Settings) :
    Logged Failure (CompileOptions × String) :=
  ((prepared .inScene settings).run (.start directory input)).1

/-- What a run has to deliver. -/
def made (directory : Directory) (input : ByteArray) (action : Action) (settings : Settings) :
    Logged Failure String :=
  action.performOn (ready directory input settings)

/-- The end of a run that came to a result, the log aside. -/
def deliveryIn (directory : Directory) (output : Option String) (result : Except Failure String) :
    Report × Directory :=
  match result with
  | .error failure => (⟨1, "", failure.report⟩, directory)
  | .ok text =>
      match output with
      | none => (⟨0, text ++ "\n", ""⟩, directory)
      | some path =>
          match (Scene.start directory .empty).write path text with
          | (.error reason, _) => (⟨1, "", (Failure.writeFile path reason).report⟩, directory)
          | (.ok (), after) => (⟨0, after.output, after.errors⟩, after.directory)

/-- A run that performs an action. -/
def performIn (directory : Directory) (input : ByteArray) (filter : Option String)
    (action : Action) (settings : Settings) : Report × Directory :=
  let made := made directory input action settings
  let last := deliveryIn directory settings.output made.result
  (⟨last.1.exitCode, last.1.output, shownLog filter made.events ++ last.1.errors⟩, last.2)

/-- What is left of the standard input has no part in writing. -/
theorem write_start (directory : Directory) (rest : ByteArray) (path text : String) :
    (Scene.start directory rest).write path text =
      (((Scene.start directory .empty).write path text).1,
        { ((Scene.start directory .empty).write path text).2 with input := rest }) := by
  simp only [Scene.write, Scene.start]
  cases directory.find path with
  | device device =>
    cases device with
    | absent => cases directory.write path text <;> rfl
    | _ => rfl
  | _ => cases directory.write path text <;> rfl

/-- The report of a run with the result of its last step, and the directory that it leaves. -/
def leftBehind (filter : Option String) (last : Logged Failure String × Scene) :
    Report × Directory :=
  let report := Report.of filter last.1
  (⟨report.exitCode, report.output ++ last.2.output, report.errors ++ last.2.errors⟩,
    last.2.directory)

theorem leftBehind_delivery (directory : Directory) (rest : ByteArray) (filter : Option String)
    (settings : Settings) (made : Logged Failure String) :
    let last := deliveryIn directory settings.output made.result
    leftBehind filter ((delivery .inScene settings made).run (.start directory rest)) =
      (⟨last.1.exitCode, last.1.output, shownLog filter made.events ++ last.1.errors⟩, last.2) := by
  obtain ⟨events, result⟩ := made
  cases result with
  | error failure =>
    change leftBehind filter (⟨events, .error failure⟩, .start directory rest) = _
    simp [leftBehind, Report.of, Scene.start, deliveryIn]
  | ok text =>
    cases toFile : settings.output with
    | none =>
      simp only [delivery, delivered, toFile]
      change leftBehind filter (⟨events, .ok (text ++ "\n")⟩, .start directory rest) = _
      simp [leftBehind, Report.of, Scene.start, deliveryIn]
    | some path =>
      simp only [delivery, delivered, toFile]
      change leftBehind filter
        (⟨events, (((Scene.start directory rest).write path text).1.mapError
            (.writeFile path)).map fun _ => ""⟩,
          ((Scene.start directory rest).write path text).2) = _
      rw [write_start, deliveryIn]
      obtain ⟨reason, written⟩ | ⟨device, -, written⟩ | ⟨place, -, written⟩ :=
        Scene.write_cases (.start directory .empty) path text
      all_goals
        rw [written]
        simp [leftBehind, Report.of, Scene.start, Except.map]

/-- A run that performs an action is its preparation, its action and its delivery. -/
theorem runIn_of_perform (asked : request arguments = .ok (.perform action settings)) :
    runIn directory input filter arguments = performIn directory input filter action settings := by
  rw [runIn]
  generalize outcome : (run .inScene filter arguments).run (.start directory input) = last
  obtain ⟨report, scene⟩ := last
  have ran : (Effects.ofState Scene).Ran (run .inScene filter arguments) (.start directory input)
      report scene := outcome
  obtain ⟨logged, performs, rfl⟩ := (ran_run_iff asked).mp ran
  obtain ⟨prepares, between, first, delivers⟩ := ran_performed_iff.mp performs
  obtain ⟨rest, rfl⟩ := Access.inScene_lawful.prepared first
  have made : action.performOn prepares = made directory input action settings :=
    congrArg (fun ran => action.performOn ran.1) first.symm
  have delivers : (delivery .inScene settings (CommandLine.made directory input action
      settings)).run (.start directory rest) = (logged, scene) := made ▸ delivers
  have left := leftBehind_delivery directory rest filter settings
    (CommandLine.made directory input action settings)
  rw [delivers] at left
  exact left

end LiteralLang.CommandLine
