/-!
# Compile options

The bound on the nesting of arrays.  Any bound can be asked for; what is enforced never exceeds a
fixed ceiling.
-/

namespace LiteralLang

/-- The bound on array nesting where none is asked for, and the depth up to which values are
printed. -/
def defaultMaxDepth : Nat := 512

/-- The greatest bound on array nesting that is ever enforced. -/
def safeDepth : Nat := 1024

/-- Options of a compilation. -/
structure CompileOptions where
  /-- The bound on array nesting that was asked for. -/
  maxDepth : Nat
  deriving DecidableEq

namespace CompileOptions

def standard : CompileOptions := ⟨defaultMaxDepth⟩

/-- The bound on array nesting that is enforced. -/
def effectiveMaxDepth (options : CompileOptions) : Nat := min options.maxDepth safeDepth

end CompileOptions

end LiteralLang
