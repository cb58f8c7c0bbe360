import LiteralLang.Scalar

/-!
# Values

What a literal expression evaluates to: a scalar or an array of values.
-/

namespace LiteralLang

inductive Value where
  | scalar (value : Scalar)
  | array (elements : List Value)

namespace Value

/-! ### Equality and nesting -/

mutual

/-- Equality as values, element by element; scalars are compared by `Scalar.equal`. -/
def equal : Value → Value → Bool
  | .scalar a, .scalar b => a.equal b
  | .array as, .array bs => equalAll as bs
  | _, _ => false

def equalAll : List Value → List Value → Bool
  | [], [] => true
  | a :: as, b :: bs => a.equal b && equalAll as bs
  | _, _ => false

end

mutual

/-- How deep arrays nest in a value; a scalar has depth zero. -/
def depth : Value → Nat
  | .scalar _ => 0
  | .array elements => depthAll elements + 1

def depthAll : List Value → Nat
  | [] => 0
  | element :: rest => max element.depth (depthAll rest)

end

/-! ### Views -/

def isNull : Value → Bool
  | .scalar .null => true
  | _ => false

def number? : Value → Option Binary64
  | .scalar (.number n) => some n
  | _ => none

def text? : Value → Option String
  | .scalar (.text s) => some s
  | _ => none

def boolean? : Value → Option Bool
  | .scalar (.boolean b) => some b
  | _ => none

def elements? : Value → Option (List Value)
  | .array elements => some elements
  | _ => none

end Value

end LiteralLang
