import LiteralLang.Logged
import LiteralLang.Token.Lexeme

/-!
# Scanning

Cutting a whole source text into tokens.  `scan` also reports every number, string and word that it
reads in front of the first fault; `tokenize` is the plain answer.
-/

namespace LiteralLang

namespace Scan

/-- The scan of the source from the given offset on, behind the tokens found and the events reported
so far, of both the last first. -/
def continued (found : List Token) (events : List LogEvent) (offset : Nat) :
    List Char → Logged CompileError (List Token)
  | [] => ⟨events.reverse, .ok found.reverse⟩
  | c :: rest =>
      if Lexeme.isSpace c then continued found events (offset + 1) rest
      else
        match lexeme offset c rest with
        | .error fault => ⟨events.reverse, .error fault⟩
        | .ok ⟨token, more, event⟩ =>
            continued (token :: found) (event.toList ++ events) (offset + 1 + more)
              (rest.drop more)
  termination_by text => text.length
  decreasing_by all_goals (simp only [List.length_cons, List.length_drop]; omega)

end Scan

/-- The scan of a source text. -/
def scan (source : String) : Logged CompileError (List Token) := do
  let tokens ← Scan.continued [] [] 0 source.toList
  Logged.report (.tokenized source.length tokens.length)
  return tokens

/-- The tokens of a source text, or the first fault in it. -/
def tokenize (source : String) : Except CompileError (List Token) := (scan source).result

end LiteralLang
