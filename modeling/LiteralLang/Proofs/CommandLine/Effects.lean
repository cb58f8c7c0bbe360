import LiteralLang.Proofs.CommandLine.Run

/-!
# What a run changes

A run has its effects at its end, and has all of them or none.  A run that fails has printed nothing
to standard output and has changed no file.  A run that was asked for an output file has written to
it what the same run without the file prints, less the line end; everything else stays as it was.
-/

namespace LiteralLang.CommandLine

variable {directory : Directory} {input : ByteArray}

/-! ### Delivery -/

/-- A text was delivered to the place that a path leads to: a device got it, which shows on standard
output only if it is that, or one file holds it and nothing was printed. -/
def DeliveredTo (directory : Directory) (path text : String) (ran : Report × Directory) : Prop :=
  (∃ device, directory.find path = .device device ∧
    ran.1.output = (if device = .output then text else "") ∧ ran.2 = directory) ∨
  ∃ place, (directory.find path).Keeps place ∧ ran.1.output = "" ∧ ran.2.read path = .ok text ∧
    ∀ other, ran.2.bytes? other = if other = place then some text.toUTF8 else directory.bytes? other

/-- What was delivered in a directory shows in the report of the run and in the directory it
leaves. -/
theorem deliveredTo_of_delivered {path text : String} {after : Scene} {report : Report}
    (delivered : (Scene.start directory input).Delivered path text after)
    (printed : report.output = after.output) :
    DeliveredTo directory path text (report, after.directory) := by
  obtain ⟨rest, ⟨device, found, rfl⟩ | ⟨place, keeps, rfl⟩⟩ := delivered
  · refine Or.inl ⟨device, found, ?_, rfl⟩
    rw [printed]
    exact String.empty_append
  · refine Or.inr ⟨place, keeps, printed, Directory.read_put keeps, fun other => ?_⟩
    exact Directory.bytes?_put directory place other text.toUTF8

/-- A text that could be written was delivered. -/
theorem deliveredTo_deliveryIn {path text : String}
    (succeeded : (deliveryIn directory (some path) (.ok text)).1.exitCode = 0) :
    DeliveredTo directory path text (deliveryIn directory (some path) (.ok text)) := by
  rw [deliveryIn] at succeeded ⊢
  generalize outcome : (Scene.start directory .empty).write path text = last at succeeded
  obtain ⟨written, after⟩ := last
  rcases Access.inScene_lawful.writeFile outcome with ⟨⟨reason, rfl⟩, -⟩ | ⟨rfl, delivered⟩
  · simp at succeeded
  · exact deliveredTo_of_delivered delivered rfl

/-! ### Runs -/

/-- A run that fails has printed nothing to standard output and has changed nothing, and no run
changes anything without an output file.  A run that succeeds with one has delivered to it what the
same words without the file print, less the line end: a file on its path holds that then, whether it
was there, or even was read, before, and no other file has changed. -/
theorem runIn_all_or_nothing (directory : Directory) (input : ByteArray) (filter : Option String)
    (arguments : List String) :
    ((runIn directory input filter arguments).1.exitCode ≠ 0 →
      (runIn directory input filter arguments).1.output = "" ∧
        (runIn directory input filter arguments).2 = directory) ∧
    ((∀ action settings, request arguments = .ok (.perform action settings) →
        settings.output = none) →
      (runIn directory input filter arguments).2 = directory) ∧
    ∀ action settings path, request arguments = .ok (.perform action settings) →
      settings.output = some path → (runIn directory input filter arguments).1.exitCode = 0 →
      request (withoutOutput false arguments) = .ok (.perform action settings.withoutOutput) ∧
      ∃ text shown,
        runIn directory input filter (withoutOutput false arguments) =
          (⟨0, text ++ "\n", shown⟩, directory) ∧
        DeliveredTo directory path text (runIn directory input filter arguments) := by
  generalize outcome : (run .inScene filter arguments).run (.start directory input) = last
  obtain ⟨report, scene⟩ := last
  have ran : (Effects.ofState Scene).Ran (run .inScene filter arguments) (.start directory input)
      report scene := outcome
  have left : runIn directory input filter arguments =
      (⟨report.exitCode, report.output ++ scene.output, report.errors ++ scene.errors⟩,
        scene.directory) := by
    rw [runIn, outcome]
  obtain ⟨failing, plain, succeeding⟩ := run_all_or_nothing Access.inScene_lawful ran
  rw [left]
  refine ⟨fun failed => ?_, fun noFile => ?_, ?_⟩
  · obtain ⟨silent, rest, rfl⟩ := failing failed
    exact ⟨by rw [silent]; rfl, rfl⟩
  · obtain ⟨rest, rfl⟩ := plain noFile
    rfl
  · intro action settings path asked toFile succeeded
    obtain ⟨asked', silent, text, shown, between, printed, ⟨rest, rfl⟩, delivered⟩ :=
      succeeding action settings path asked toFile succeeded
    have printed : (run .inScene filter (withoutOutput false arguments)).run
        (.start directory input) = (⟨0, text ++ "\n", shown⟩, .start directory rest) := printed
    refine ⟨asked', text, shown, ?_, deliveredTo_of_delivered delivered ?_⟩
    · rw [runIn, printed]
      simp [Scene.start]
    · rw [silent, String.empty_append]

/-- A file is evaluated in its place. -/
theorem runIn_all_or_nothing_in_place : ∃ text shown,
    runIn ⟨[("a", "[1]".toUTF8)]⟩ .empty none ["eval", "-i", "a"] =
      (⟨0, text ++ "\n", shown⟩, ⟨[("a", "[1]".toUTF8)]⟩) ∧
    DeliveredTo ⟨[("a", "[1]".toUTF8)]⟩ "a" text
      (runIn ⟨[("a", "[1]".toUTF8)]⟩ .empty none ["eval", "-i", "a", "-o", "a"]) :=
  ((runIn_all_or_nothing ⟨[("a", "[1]".toUTF8)]⟩ .empty none
    ["eval", "-i", "a", "-o", "a"]).2.2 .eval ⟨some "a", some "a", none, none⟩ "a" rfl rfl
    (by decide +kernel)).2

/-- An output path may lead to standard output itself, which has the text then. -/
theorem runIn_output_to_stdout :
    request ["emit", "-o", "/dev/stdout"] =
      .ok (.perform .emit ⟨none, some "/dev/stdout", none, none⟩) ∧
    (runIn ⟨[]⟩ "[1]".toUTF8 none ["emit", "-o", "/dev/stdout"]).1.exitCode = 0 ∧
    (runIn ⟨[]⟩ "[1]".toUTF8 none ["emit", "-o", "/dev/stdout"]).1.output = "return [1];" := by
  refine ⟨rfl, by decide +kernel, by decide +kernel⟩

end LiteralLang.CommandLine
