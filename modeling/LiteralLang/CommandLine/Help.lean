import LiteralLang.CommandLine.Arguments

/-!
# Help

What the program says about itself, about each of its actions, and about asking for help.
-/

namespace LiteralLang.CommandLine

def Action.summary : Action → String
  | .eval => "Compile and evaluate, printing the value as JSON"
  | .emit => "Print the generated function body"
  | .ast => "Print the AST as JSON"
  | .tokens => "Print one token per line as `offset<TAB>text`"

def Flag.form : Flag → String
  | .config => "    --config <CONFIG>"
  | .input => "-i, --input <INPUT>"
  | .maxDepth => "    --max-depth <MAX_DEPTH>"
  | .output => "-o, --output <OUTPUT>"

def Flag.summary : Flag → String
  | .config => "JSON file with compile options (e.g. \x7b\"max_depth\": 64\x7d)"
  | .input => "Input file (reads from stdin if omitted)"
  | .maxDepth => "Deepest array nesting accepted, capped at 1024 (overrides --config)"
  | .output => "Output file (writes to stdout if omitted)"

/-- A table of two columns: each row is indented, and the second column starts two places behind the
widest entry of the first. -/
def table (rows : List (String × String)) : String :=
  let width := (rows.map (·.1.length)).foldl max 0
  String.join (rows.map fun (left, right) =>
    "  " ++ left ++ String.ofList (List.replicate (width - left.length + 2) ' ') ++ right ++ "\n")

def flagRows (flags : List Flag) : List (String × String) :=
  flags.map fun flag => (flag.form, flag.summary)

/-- What asking for help does. -/
def helpSummary : String := "Print this message or the help of the given subcommand(s)"

def helpRow : String × String := ("-h, --help", "Print help")

def programHelp : String :=
  "Literal-expression compiler CLI\n\nUsage: litexpr [OPTIONS] <COMMAND>\n\nCommands:\n"
    ++ table (Action.all.map (fun action => (action.word, action.summary))
      ++ [("help", helpSummary)])
    ++ "\nOptions:\n"
    ++ table (flagRows [.config, .maxDepth] ++ [helpRow, ("-V, --version", "Print version")])

def actionHelp (action : Action) : String :=
  action.summary ++ "\n\nUsage: litexpr " ++ action.word ++ " [OPTIONS]\n\nOptions:\n"
    ++ table (flagRows [.config, .input, .maxDepth, .output] ++ [helpRow])

def helpHelp : String :=
  helpSummary ++ "\n\nUsage: litexpr help [COMMAND]...\n\nArguments:\n"
    ++ table [("[COMMAND]...", "Print help for the subcommand(s)")]

def helpText : Topic → String
  | .program => programHelp
  | .action action => actionHelp action
  | .help => helpHelp

end LiteralLang.CommandLine
