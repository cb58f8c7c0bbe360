import LiteralLang.Scalar

/-!
# Tokens

A token has its text, its offset in the source, and for numbers and strings the value it was decoded
to.  What a token means to the grammar is its `symbol`: the value decides first, so a string that
reads like a bracket is still a literal.
-/

namespace LiteralLang

inductive Decoded where
  | number (value : Binary64)
  | text (value : String)
  deriving DecidableEq

def Decoded.scalar : Decoded → Scalar
  | .number value => .number value
  | .text value => .text value

structure Token where
  text : String
  decoded : Option Decoded
  offset : Nat
  deriving DecidableEq

/-- The part that a token plays in the grammar. -/
inductive Symbol where
  | literal (value : Scalar)
  | opening
  | closing
  | comma
  | foreign
  deriving DecidableEq

/-- The part of a token without a value: a bracket, a comma, a word with a fixed meaning, or
nothing the grammar knows. -/
def Symbol.ofWord (word : String) : Symbol :=
  if word = "[" then .opening
  else if word = "]" then .closing
  else if word = "," then .comma
  else (Scalar.constant? word).elim .foreign .literal

/-- The part that a token plays in the grammar. -/
def Token.symbol (token : Token) : Symbol :=
  match token.decoded with
  | some decoded => .literal decoded.scalar
  | none => Symbol.ofWord token.text

end LiteralLang
