import LiteralLang.Callable
import LiteralLang.Value.Json

/-!
# Embedding

The two calls that an embedding host makes.  Both use the standard options and report a fault by
its sentence.
-/

namespace LiteralLang.Host

/-- The value of a source text as compact JSON. -/
def evaluate (source : String) : Except String String :=
  match compile source with
  | .ok callable => .ok callable.call.toJson.compact
  | .error fault => .error fault.message

/-- The generated code of a source text. -/
def generate (source : String) : Except String String :=
  match compile source with
  | .ok callable => .ok callable.code
  | .error fault => .error fault.message

end LiteralLang.Host
