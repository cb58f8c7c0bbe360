import LiteralLang.Callable
import LiteralLang.CommandLine.Arguments
import LiteralLang.CommandLine.Directory
import LiteralLang.CommandLine.Help
import LiteralLang.CommandLine.LogFilter
import LiteralLang.CompileOptions.Read
import LiteralLang.Node.Json
import LiteralLang.Value.Json

/-!
# Runs of the program

One run from its arguments to its exit code: the options are settled, the source is read, the action
is performed, and the result is written, in this order.  The first step that fails ends the run with
a report and without any output.  A run reaches the world through an `Access`, so the same steps run
against real files and against a `Directory`.
-/

namespace LiteralLang.CommandLine

/-! ### Failures -/

/-- The step at which a run failed, and why. -/
inductive Failure where
  | readConfig (path : String) (reason : FileFault)
  | invalidOptions (path : String) (reason : JsonText.Fault)
  | readFile (path : String) (reason : FileFault)
  | readInput (reason : FileFault)
  | tokenize (reason : CompileError)
  | build (reason : CompileError)
  | compile (reason : CompileError)
  | writeFile (path : String) (reason : FileFault)

namespace Failure

/-- What the run was doing. -/
def context : Failure → String
  | .readConfig path _ => "Failed to read config file: " ++ path
  | .invalidOptions path _ => "Invalid compile options in: " ++ path
  | .readFile path _ => "Failed to read file: " ++ path
  | .readInput _ => "Failed to read from stdin"
  | .tokenize _ => "Failed to tokenize input"
  | .build _ => "Failed to build syntax tree"
  | .compile _ => "Failed to compile expression"
  | .writeFile path _ => "Failed to write file: " ++ path

def compileCauses (reason : CompileError) : List String :=
  match reason with
  | .numberFormat _ => [reason.message, CompileError.numberFormatCause]
  | _ => [reason.message]

/-- The causes of a failure, the nearest first. -/
def causes : Failure → List String
  | .readConfig _ reason | .readFile _ reason | .readInput reason | .writeFile _ reason =>
      [reason.message]
  | .invalidOptions _ reason => [reason.message]
  | .tokenize reason | .build reason | .compile reason => compileCauses reason

def indented (margin : String) (cause : String) : String :=
  ("\n" ++ margin).intercalate ((Text.pieces '\n' cause.toList).map String.ofList)

def numbered (number : Nat) : List String → String
  | [] => ""
  | cause :: more =>
      "    " ++ number.repr ++ ": " ++ indented "       " cause ++ "\n"
        ++ numbered (number + 1) more

def report (failure : Failure) : String :=
  let listed :=
    match failure.causes with
    | [cause] => "    " ++ indented "    " cause ++ "\n"
    | several => numbered 0 several
  "Error: " ++ failure.context ++ "\n\nCaused by:\n" ++ listed

end Failure

/-! ### Actions -/

def tokenLine (token : Token) : String := token.offset.repr ++ "\t" ++ Text.escaped token.text

/-- The listing of tokens, one a line. -/
def tokenListing (tokens : List Token) : String := "\n".intercalate (tokens.map tokenLine)

/-- Performs an action on a source text: what the stages report, and the text that the action makes
of it. -/
def Action.perform (action : Action) (options : CompileOptions) (source : String) :
    Logged Failure String :=
  match action with
  | .eval => do
      let callable ← (compilation options source).mapFault .compile
      return callable.call.toJson.indented
  | .emit => do
      let callable ← (compilation options source).mapFault .compile
      return callable.code
  | .ast => do
      let tokens ← (scan source).mapFault .tokenize
      let tree ← (Node.build options tokens).mapFault .build
      return tree.toJson.indented
  | .tokens => do
      let tokens ← (scan source).mapFault .tokenize
      return tokenListing tokens

/-! ### Runs -/

/-- The ways in which a run reaches files and its standard input. -/
structure Access (m : Type → Type) where
  readFile : String → m (Except FileFault String)
  readInput : m (Except FileFault String)
  writeFile : String → String → m (Except FileFault Unit)

/-- What a run leaves behind besides files. -/
structure Report where
  exitCode : Nat
  output : String
  errors : String

def versionText : String := "litexpr 0.1.0"

/-- A record of the log on a line of its own. -/
def logLine (event : LogEvent) : String :=
  "[" ++ event.level.text ++ " " ++ event.target ++ "] " ++ event.message ++ "\n"

variable {m : Type → Type} [Monad m]

/-- The options of a run: those of the configuration file, or the standard ones, with the bound of
the flag in place of theirs. -/
def settledOptions (access : Access m) (settings : Settings) :
    m (Except Failure CompileOptions) := do
  let base : Except Failure CompileOptions ←
    match settings.config with
    | none => pure (.ok .standard)
    | some path => do
        match ← access.readFile path with
        | .error reason => pure (.error (.readConfig path reason))
        | .ok text => pure ((CompileOptions.read text).mapError (.invalidOptions path))
  return base.map fun options => (settings.maxDepth.map CompileOptions.mk).getD options

/-- The source text of a run. -/
def sourceText (access : Access m) (settings : Settings) : m (Except Failure String) :=
  match settings.input with
  | none => return (← access.readInput).mapError .readInput
  | some path => return (← access.readFile path).mapError (.readFile path)

/-- Writes the result of a run: to a file, or to standard output with a line end behind it. -/
def delivered (access : Access m) (settings : Settings) (text : String) :
    m (Except Failure String) :=
  match settings.output with
  | none => return .ok (text ++ "\n")
  | some path => do
      return ((← access.writeFile path text).mapError (.writeFile path)).map fun _ => ""

/-- Performs an action: the events of the log, and the output or the failure. -/
def performed (access : Access m) (action : Action) (settings : Settings) :
    m (Logged Failure String) := do
  match ← settledOptions access settings with
  | .error failure => return .silent (.error failure)
  | .ok options =>
      let settled : Logged Failure Unit := .report (.settled options)
      match ← sourceText access settings with
      | .error failure => return settled.andThen fun _ => .silent (.error failure)
      | .ok source =>
          let made := settled.andThen fun _ => action.perform options source
          match made.result with
          | .error _ => return made
          | .ok text => return ⟨made.events, ← delivered access settings text⟩

/-- A run of the program with the given log filter and arguments.  Without a filter the log shows
warnings and errors. -/
def run (access : Access m) (filter : Option String) (arguments : List String) : m Report := do
  let (filter, warnings) := LogFilter.ofText (filter.getD "warn")
  let shown (events : List LogEvent) : String :=
    String.join (warnings.map (· ++ "\n") ++ (events.filter filter.admits).map logLine)
  match request arguments with
  | .error fault => return ⟨2, "", shown [] ++ "error: " ++ fault.message ++ "\n"⟩
  | .ok .version => return ⟨0, versionText ++ "\n", shown []⟩
  | .ok (.help topic) => return ⟨0, helpText topic, shown []⟩
  | .ok (.perform action settings) =>
      let ⟨events, result⟩ ← performed access action settings
      match result with
      | .ok output => return ⟨0, output, shown events⟩
      | .error failure => return ⟨1, "", shown events ++ failure.report⟩

/-! ### Runs in a directory -/

/-- What a run in a directory has around it. -/
structure Scene where
  directory : Directory
  /-- What is left of the standard input. -/
  input : ByteArray
  /-- What was written to standard output and standard error as to files. -/
  output : String
  errors : String

namespace Scene

def start (directory : Directory) (input : ByteArray) : Scene := ⟨directory, input, "", ""⟩

/-- The rest of the standard input, which is gone then. -/
def takeInput (scene : Scene) : Except FileFault String × Scene :=
  (textOf scene.input, { scene with input := ByteArray.empty })

/-- The text of the file of a path, and the scene behind it. -/
def read (scene : Scene) (path : String) : Except FileFault String × Scene :=
  match scene.directory.find path with
  | .device .nothing => (.ok "", scene)
  | .device .input => scene.takeInput
  | _ => (scene.directory.read path, scene)

/-- Whether a text could be written to the file of a path, and the scene behind it. -/
def write (scene : Scene) (path : String) (text : String) : Except FileFault Unit × Scene :=
  match scene.directory.find path with
  | .device .nothing | .device .endless | .device .input => (.ok (), scene)
  | .device .full => (if text.isEmpty then .ok () else .error .noRoom, scene)
  | .device .output => (.ok (), { scene with output := scene.output ++ text })
  | .device .errors => (.ok (), { scene with errors := scene.errors ++ text })
  | _ =>
      match scene.directory.write path text with
      | .error reason => (.error reason, scene)
      | .ok directory => (.ok (), { scene with directory })

end Scene

/-- Access to what a run in a directory has around it. -/
def Access.inScene : Access (StateM Scene) where
  readFile path := modifyGet fun scene => scene.read path
  readInput := modifyGet Scene.takeInput
  writeFile path text := modifyGet fun scene => scene.write path text

/-- A run in a directory: what it leaves behind, files included. -/
def runIn (directory : Directory) (input : ByteArray) (filter : Option String)
    (arguments : List String) : Report × Directory :=
  let (report, scene) := (run .inScene filter arguments).run (.start directory input)
  (⟨report.exitCode, report.output ++ scene.output, report.errors ++ scene.errors⟩,
    scene.directory)

end LiteralLang.CommandLine
