/-!
# Arguments

What the words of a command line ask for.  One word names the action.  Flags for the options may
stand before or after it, flags for the files only after it; a flag of the later level wins, and
none may be repeated on its level.
-/

namespace LiteralLang.CommandLine

/-- What is done with the source text. -/
inductive Action where
  | eval
  | emit
  | ast
  | tokens
  deriving DecidableEq

def Action.all : List Action := [.eval, .emit, .ast, .tokens]

/-- The word that names an action. -/
def Action.word : Action → String
  | .eval => "eval"
  | .emit => "emit"
  | .ast => "ast"
  | .tokens => "tokens"

/-- The action that a word names. -/
def Action.ofWord? (word : String) : Option Action := all.find? (·.word == word)

inductive Flag where
  | input
  | output
  | config
  | maxDepth
  deriving DecidableEq

def Flag.name : Flag → String
  | .input => "--input"
  | .output => "--output"
  | .config => "--config"
  | .maxDepth => "--max-depth"

/-- The values of the flags of one level. -/
structure Settings where
  input : Option String
  output : Option String
  config : Option String
  maxDepth : Option Nat

def Settings.empty : Settings := ⟨none, none, none, none⟩

inductive Topic where
  | program
  | action (action : Action)
  | help
  deriving DecidableEq

/-- The topic that a word names behind a plain `help`. -/
def Topic.ofWord? (word : String) : Option Topic :=
  if word = "help" then some .help else (Action.ofWord? word).map .action

/-- What a command line asks for. -/
inductive Request where
  | version
  | help (topic : Topic)
  | perform (action : Action) (settings : Settings)

/-- Why a command line asks for nothing that can be done. -/
inductive UsageFault where
  | unexpectedArgument (argument : String)
  | missingValue (flag : Flag)
  | repeatedFlag (flag : Flag)
  | invalidBound (text : String)
  | missingAction

def UsageFault.message : UsageFault → String
  | .unexpectedArgument argument => "unexpected argument '" ++ argument ++ "'"
  | .missingValue flag => "a value is required for '" ++ flag.name ++ "'"
  | .repeatedFlag flag => "'" ++ flag.name ++ "' cannot be used multiple times"
  | .invalidBound text => "invalid value '" ++ text ++ "' for '" ++ Flag.maxDepth.name ++ "'"
  | .missingAction => "one of eval, emit, ast and tokens is required"

/-! ### Words -/

inductive Word where
  | flag (flag : Flag) (attached : Option String)
  | version
  | help
  | separator
  | plain (text : String)
  | unknown

/-- The flag of a long name; flags for the files are known only behind the action. -/
def longFlag? (behindAction : Bool) (name : List Char) : Option Flag :=
  match String.ofList name with
  | "config" => some .config
  | "max-depth" => some .maxDepth
  | "input" => if behindAction then some .input else none
  | "output" => if behindAction then some .output else none
  | _ => none

/-- A word that begins with two dashes, given what follows them. -/
def longWord (behindAction : Bool) (text : List Char) : Word :=
  let name := text.takeWhile (· != '=')
  let attached := (text.dropWhile (· != '=')).tail?.map String.ofList
  match longFlag? behindAction name, attached with
  | some flag, _ => .flag flag attached
  | none, none =>
      if String.ofList name == "help" then .help
      else if !behindAction && String.ofList name == "version" then .version
      else .unknown
  | none, some _ => .unknown

/-- The value that stands in one word with a short flag. -/
def attachedToShort : List Char → Option String
  | [] => none
  | '=' :: value => some (String.ofList value)
  | value => some (String.ofList value)

/-- A word that begins with one dash, given what follows it. -/
def shortWord (behindAction : Bool) : List Char → Word
  | 'i' :: value => if behindAction then .flag .input (attachedToShort value) else .unknown
  | 'o' :: value => if behindAction then .flag .output (attachedToShort value) else .unknown
  | 'V' :: _ => if behindAction then .unknown else .version
  | 'h' :: _ => .help
  | _ => .unknown

/-- What a word of the command line is. -/
def word (behindAction : Bool) (text : String) : Word :=
  match text.toList with
  | ['-', '-'] => .separator
  | '-' :: '-' :: more => longWord behindAction more
  | '-' :: c :: more => shortWord behindAction (c :: more)
  | _ => .plain text

/-! ### Values -/

/-- A bound on array nesting: digits behind an optional plus, for a number that 64 bits hold. -/
def bound? (text : String) : Option Nat :=
  let digits :=
    match text.toList with
    | '+' :: more => more
    | all => all
  if digits.isEmpty || !digits.all Char.isDigit then none
  else
    let value := Nat.ofDigitChars 10 digits 0
    if value < 0x10000000000000000 then some value else none

/-- The settings with one more flag. -/
def Settings.with (settings : Settings) (flag : Flag) (value : String) :
    Except UsageFault Settings :=
  match flag with
  | .input =>
      if settings.input.isSome then .error (.repeatedFlag flag)
      else .ok { settings with input := some value }
  | .output =>
      if settings.output.isSome then .error (.repeatedFlag flag)
      else .ok { settings with output := some value }
  | .config =>
      if settings.config.isSome then .error (.repeatedFlag flag)
      else .ok { settings with config := some value }
  | .maxDepth =>
      match bound? value with
      | none => .error (.invalidBound value)
      | some bound =>
          if settings.maxDepth.isSome then .error (.repeatedFlag flag)
          else .ok { settings with maxDepth := some bound }

/-- The settings of both levels; those behind the action win. -/
def Settings.over (inner outer : Settings) : Settings where
  input := inner.input.or outer.input
  output := inner.output.or outer.output
  config := inner.config.or outer.config
  maxDepth := inner.maxDepth.or outer.maxDepth

/-! ### Command lines -/

/-- The request of the words behind the action.  A separator may only stand at the end. -/
def behindAction (action : Action) (outer inner : Settings) :
    List String → Except UsageFault Request
  | [] => .ok (.perform action (inner.over outer))
  | text :: rest =>
      match word true text with
      | .flag flag (some value) => do behindAction action outer (← inner.with flag value) rest
      | .flag flag none =>
          match rest with
          | [] => .error (.missingValue flag)
          | value :: rest =>
              match word true value with
              | .plain value => do behindAction action outer (← inner.with flag value) rest
              | _ => .error (.missingValue flag)
      | .help => .ok (.help (.action action))
      | .separator =>
          match rest with
          | [] => .ok (.perform action (inner.over outer))
          | extra :: _ => .error (.unexpectedArgument extra)
      | _ => .error (.unexpectedArgument text)

/-- The request of the words behind a plain `help`. -/
def behindHelp : List String → Except UsageFault Request
  | [] => .ok (.help .program)
  | [text] =>
      match Topic.ofWord? text with
      | some topic => .ok (.help topic)
      | none => .error (.unexpectedArgument text)
  | _ :: extra :: _ => .error (.unexpectedArgument extra)

/-- The request of the words from the start, behind the settings read so far. -/
def beforeAction (outer : Settings) : List String → Except UsageFault Request
  | [] => .error .missingAction
  | text :: rest =>
      match word false text with
      | .version => .ok .version
      | .help => .ok (.help .program)
      | .flag flag (some value) => do beforeAction (← outer.with flag value) rest
      | .flag flag none =>
          match rest with
          | [] => .error (.missingValue flag)
          | value :: rest =>
              match word false value with
              | .plain value => do beforeAction (← outer.with flag value) rest
              | _ => .error (.missingValue flag)
      | .plain text =>
          match Action.ofWord? text with
          | some action => behindAction action outer .empty rest
          | none => if text = "help" then behindHelp rest else .error (.unexpectedArgument text)
      | _ => .error (.unexpectedArgument text)

def request (arguments : List String) : Except UsageFault Request := beforeAction .empty arguments

end LiteralLang.CommandLine
