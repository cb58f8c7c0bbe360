import LiteralLang.Value

/-!
# Expression trees

The tree of a literal expression.  A compiled tree is a program node around literals and arrays;
trees put together by hand may have program nodes anywhere, and all functions on trees accept them.
-/

namespace LiteralLang

inductive Node where
  | program (body : Node)
  | literal (value : Scalar)
  | array (elements : List Node)

namespace Node

mutual

/-- Equality of trees; literals are compared by `Scalar.equal`. -/
def equal : Node → Node → Bool
  | .program a, .program b => a.equal b
  | .literal a, .literal b => a.equal b
  | .array as, .array bs => equalAll as bs
  | _, _ => false

def equalAll : List Node → List Node → Bool
  | [], [] => true
  | a :: as, b :: bs => a.equal b && equalAll as bs
  | _, _ => false

end

mutual

/-- How deep arrays nest in a tree. -/
def depth : Node → Nat
  | .program body => body.depth
  | .literal _ => 0
  | .array elements => depthAll elements + 1

def depthAll : List Node → Nat
  | [] => 0
  | element :: rest => max element.depth (depthAll rest)

end

mutual

def value : Node → Value
  | .program body => body.value
  | .literal scalar => .scalar scalar
  | .array elements => .array (values elements)

def values : List Node → List Value
  | [] => []
  | element :: rest => element.value :: values rest

end

end Node

end LiteralLang
