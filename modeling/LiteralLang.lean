import LiteralLang.Host
import LiteralLang.Main
import LiteralLang.Session
import LiteralLang.Proofs.Binary64.Rounding
import LiteralLang.Proofs.Decimal.Nearest
import LiteralLang.Proofs.Decimal.Shortest
import LiteralLang.Proofs.Decimal.Numeral
import LiteralLang.Proofs.Text.Units
import LiteralLang.Proofs.Decimal.Layout
import LiteralLang.Proofs.Token.Strings
import LiteralLang.Proofs.Token.Grammar
import LiteralLang.Proofs.Token.Scan
import LiteralLang.Proofs.Node.Build
import LiteralLang.Proofs.Node.Derivation
import LiteralLang.Proofs.Node.Progress
import LiteralLang.Proofs.Node.Acceptance
import LiteralLang.Proofs.Node.FirstFault
import LiteralLang.Proofs.Token.Split
import LiteralLang.Proofs.Node.Written
import LiteralLang.Proofs.Value.Source
import LiteralLang.Proofs.Node.Code
import LiteralLang.Proofs.Node.Equality
import LiteralLang.Proofs.Node.Injection
import LiteralLang.Proofs.Callable.Compiled
import LiteralLang.Proofs.Callable.Equality
import LiteralLang.Proofs.Callable.Reprint
import LiteralLang.Proofs.Token.Inside
import LiteralLang.Proofs.Callable.Bracketed
import LiteralLang.Proofs.Node.Json
import LiteralLang.Proofs.CommandLine.Arguments
import LiteralLang.Proofs.CommandLine.Directory
import LiteralLang.Proofs.CommandLine.Run
import LiteralLang.Proofs.CommandLine.Effects
import LiteralLang.Proofs.Json.Blanks
import LiteralLang.Proofs.CommandLine.Actions
import LiteralLang.Proofs.Host.Agreement
import LiteralLang.Proofs.Token.Raised
import LiteralLang.Proofs.Token.Separated
import LiteralLang.Proofs.Binary64.Text
import LiteralLang.Proofs.Node.Delimited
import LiteralLang.Proofs.Binary64.Order
import LiteralLang.Proofs.Binary64.Nearest
import LiteralLang.Proofs.Token.Numbers
import LiteralLang.Proofs.Decimal.Data
import LiteralLang.Proofs.Decimal.Whole
import LiteralLang.Proofs.Json.Numbers
import LiteralLang.Proofs.Token.Report
import LiteralLang.Proofs.Token.Faults
import LiteralLang.Proofs.Token.NumberFaults
import LiteralLang.Proofs.Token.StringFaults
import LiteralLang.Proofs.Node.Descent
import LiteralLang.Proofs.Node.Nesting
import LiteralLang.Proofs.Node.Report
import LiteralLang.Proofs.Callable.Log
import LiteralLang.Proofs.Text.Quoted
import LiteralLang.Proofs.CommandLine.Listing
import LiteralLang.Proofs.Token.Cursor
import LiteralLang.Proofs.Token.Cursor.Follows
import LiteralLang.Proofs.Token.Cursor.Strings
import LiteralLang.Proofs.Token.Cursor.Scan
import LiteralLang.Proofs.Token.Cursor.Moves
import LiteralLang.Proofs.Token.Cursor.Range
import LiteralLang.Proofs.CommandLine.Access
import LiteralLang.Proofs.CommandLine.Failure
import LiteralLang.Proofs.Main
import LiteralLang.Proofs.Pattern.Matches
import LiteralLang.Proofs.Pattern.Occurrence
import LiteralLang.Proofs.Pattern.Construction
import LiteralLang.Proofs.Token.Classes
import LiteralLang.Proofs.Token.Trace
