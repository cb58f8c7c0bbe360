import LiteralLang.CompileOptions
import LiteralLang.Decimal.Layout
import LiteralLang.Text.Quoted

/-!
# Log events

What the stages of a compilation report, how important each report is, and the sentence that it is
written as.
-/

namespace LiteralLang

/-- How important a record is, the most important first. -/
inductive LogLevel where
  | error
  | warn
  | info
  | debug
  | trace
  deriving DecidableEq

def LogLevel.text : LogLevel → String
  | .error => "ERROR"
  | .warn => "WARN"
  | .info => "INFO"
  | .debug => "DEBUG"
  | .trace => "TRACE"

/-- How much a level admits: it admits itself and everything more important. -/
def LogLevel.rank : LogLevel → Nat
  | .error => 1
  | .warn => 2
  | .info => 3
  | .debug => 4
  | .trace => 5

/-- What a stage of a compilation reports. -/
inductive LogEvent where
  | numberToken (text : String) (value : Binary64) (offset : Nat)
  | stringToken (text : String) (offset : Nat)
  | wordToken (text : String) (offset : Nat)
  /-- The whole source was cut into tokens. -/
  | tokenized (characters tokens : Nat)
  /-- The tree was built. -/
  | built (tokens depth : Nat)
  /-- The code was generated. -/
  | generated (bytes : Nat)
  /-- The options were settled. -/
  | settled (options : CompileOptions)
  deriving DecidableEq

namespace LogEvent

/-- The level of an event. -/
def level : LogEvent → LogLevel
  | .numberToken .. | .stringToken .. | .wordToken .. => .trace
  | _ => .debug

/-- The part of the program that reports an event. -/
def target : LogEvent → String
  | .numberToken .. | .stringToken .. | .wordToken .. | .tokenized .. => "litexpr_core::lexer"
  | .built .. => "litexpr_core::parser"
  | .generated .. => "litexpr_core::codegen"
  | .settled .. => "litexpr"

def message : LogEvent → String
  | .numberToken text value offset =>
      "number token " ++ Text.quoted text ++ " = " ++ value.displayText ++ " at " ++ offset.repr
  | .stringToken text offset => "string token " ++ Text.quoted text ++ " at " ++ offset.repr
  | .wordToken text offset => "identifier token " ++ Text.quoted text ++ " at " ++ offset.repr
  | .tokenized characters tokens =>
      "tokenized " ++ characters.repr ++ " chars into " ++ tokens.repr ++ " tokens"
  | .built tokens depth =>
      "built AST from " ++ tokens.repr ++ " tokens, array depth " ++ depth.repr
  | .generated bytes => "generated " ++ bytes.repr ++ " bytes of code"
  | .settled options =>
      "compile options: CompileOptions \x7b max_depth: " ++ options.maxDepth.repr ++ " \x7d"

/-- The line of an event in a trace. -/
def line (event : LogEvent) : String := event.level.text ++ " " ++ event.message

end LogEvent

end LiteralLang
