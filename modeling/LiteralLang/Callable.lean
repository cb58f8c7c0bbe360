import LiteralLang.Node.Build
import LiteralLang.Node.Code
import LiteralLang.Token.Scan
import LiteralLang.Value.Source

/-!
# Compiling

A source text is cut into tokens, the tokens are built into a tree, and the tree is kept as a
callable.  The first fault of either stage is the answer where there is one.  `compilation` also has
what the stages report.
-/

namespace LiteralLang

/-- A compiled literal expression. -/
structure Callable where
  tree : Node

namespace Callable

def call (callable : Callable) : Value := callable.tree.value

def code (callable : Callable) : String := callable.tree.code

/-- Callables are equal when their trees are and their code is the same. -/
def equal (a b : Callable) : Bool := a.tree.equal b.tree && a.code == b.code

end Callable

/-- The compilation of a source text under the given options: its tokens, their tree, and the code
of that. -/
def compilation (options : CompileOptions) (source : String) : Logged CompileError Callable := do
  let tokens ← scan source
  let tree ← Node.build options tokens
  let callable : Callable := ⟨tree⟩
  Logged.report (.generated callable.code.utf8ByteSize)
  return callable

/-- The callable of a source text under the given options. -/
def compileWith (options : CompileOptions) (source : String) : Except CompileError Callable :=
  (compilation options source).result

/-- The callable of a source text under the standard options. -/
def compile (source : String) : Except CompileError Callable := compileWith .standard source

/-! ### Printing and compiling again -/

/-- The printed value of a callable and what it compiles to under the given options. -/
def Callable.reprint (options : CompileOptions) (callable : Callable) :
    Except CompileError (String × Callable) := do
  let printed ← callable.call.source
  let again ← compileWith options printed
  return (printed, again)

/-- The source text of a value and what it compiles to. -/
def Value.recompile (value : Value) : Except CompileError (String × Callable) := do
  let printed ← value.source
  let callable ← compile printed
  return (printed, callable)

/-- The printed value of a source text, and that of the printed text when it is compiled in turn
under the standard options. -/
def printTwice (options : CompileOptions) (source : String) :
    Except CompileError (String × String) := do
  let callable ← compileWith options source
  let (printed, again) ← callable.reprint .standard
  let printedAgain ← again.call.source
  return (printed, printedAgain)

end LiteralLang
