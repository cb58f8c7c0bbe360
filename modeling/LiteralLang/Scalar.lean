import LiteralLang.Binary64

/-!
# Scalars

The values without parts: null, booleans, numbers and texts.
-/

namespace LiteralLang

/-- A value without parts. -/
inductive Scalar where
  | null
  | boolean (value : Bool)
  | number (value : Binary64)
  | text (value : String)
  deriving DecidableEq

namespace Scalar

/-- Equality as values: numbers are compared as numbers, so that the zeros are equal and a NaN
equals nothing. -/
def equal : Scalar → Scalar → Bool
  | .null, .null => true
  | .boolean a, .boolean b => a == b
  | .number a, .number b => a.equal b
  | .text a, .text b => a == b
  | _, _ => false

/-- The words with a fixed meaning. -/
def constants : List (String × Scalar) :=
  [("null", .null), ("true", .boolean true), ("false", .boolean false)]

/-- The meaning of a word, if it has a fixed one. -/
def constant? (word : String) : Option Scalar := constants.lookup word

end Scalar

end LiteralLang
