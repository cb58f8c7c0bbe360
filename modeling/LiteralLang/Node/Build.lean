import LiteralLang.CompileError
import LiteralLang.CompileOptions
import LiteralLang.Logged
import LiteralLang.Node
import LiteralLang.Token

/-!
# Building the tree

Reading the tree off a list of tokens, one token at a time.  The grammar is

* an element is a literal, a constant, or an array;
* an array is a pair of brackets around elements with commas between them, and a comma may also
  follow the last element;
* a program is one element.

`Progress` is where the grammar stands after some of the tokens: the arrays still open, innermost
first, each with the elements it has so far, and whether an element is wanted or has just been read.
A `Build` also remembers how many arrays were open at once, which the log reports.
-/

namespace LiteralLang

/-- The elements of an open array, the last first. -/
abbrev OpenArray := List Node

/-- Where the grammar stands. -/
inductive Progress where
  /-- An element may come next; inside an array so may its closing bracket. -/
  | wanting (openArrays : List OpenArray)
  /-- An element of the innermost array has just been read. -/
  | behindElement (innermost : OpenArray) (outer : List OpenArray)
  /-- The element of the program has been read. -/
  | complete (body : Node)

namespace Progress

/-- How many arrays are open. -/
def openCount : Progress → Nat
  | .wanting openArrays => openArrays.length
  | .behindElement _ outer => outer.length + 1
  | .complete _ => 0

/-- An element has been read inside the given open arrays. -/
def withElement (element : Node) : List OpenArray → Progress
  | [] => .complete element
  | innermost :: outer => .behindElement (element :: innermost) outer

/-- What the grammar allows next, as it is named in errors. -/
def expectation : Progress → Expectation
  | .wanting _ => .literal
  | .behindElement _ _ => .closingBracket
  | .complete _ => .endOfInput

/-- Reading one more token.  A bracket that opens one array more than the limit allows is refused
as soon as it is read. -/
def next (limit : Nat) (progress : Progress) (token : Token) : Except CompileError Progress :=
  match progress, token.symbol with
  | .wanting openArrays, .literal value => .ok (withElement (.literal value) openArrays)
  | .wanting openArrays, .opening =>
      if limit ≤ openArrays.length then .error (.recursionLimit limit)
      else .ok (.wanting ([] :: openArrays))
  | .wanting (innermost :: outer), .closing
  | .behindElement innermost outer, .closing =>
      .ok (withElement (.array innermost.reverse) outer)
  | .behindElement innermost outer, .comma => .ok (.wanting (innermost :: outer))
  | _, _ => .error (.unexpectedToken progress.expectation token.text)

/-- The program, if the tokens so far make one. -/
def finish : Progress → Except CompileError Node
  | .complete body => .ok (.program body)
  | progress => .error (.unexpectedToken progress.expectation none)

end Progress

/-- A tree under construction. -/
structure Build where
  progress : Progress
  /-- The greatest number of arrays that were open at once. -/
  deepest : Nat

namespace Build

def start : Build := ⟨.wanting [], 0⟩

/-- Reading one more token. -/
def next (limit : Nat) (build : Build) (token : Token) : Except CompileError Build := do
  let progress ← build.progress.next limit token
  return ⟨progress, max build.deepest progress.openCount⟩

end Build

namespace Node

/-- The building of the program tree of a list of tokens. -/
def build (options : CompileOptions) (tokens : List Token) : Logged CompileError Node := do
  let build ← .silent (tokens.foldlM (Build.next options.effectiveMaxDepth) Build.start)
  let tree ← .silent build.progress.finish
  Logged.report (.built tokens.length build.deepest)
  return tree

def ofTokens (options : CompileOptions) (tokens : List Token) : Except CompileError Node :=
  (build options tokens).result

end Node

end LiteralLang
