/-!
# Ranges of characters as bytes

The bytes of characters in UTF-8, and ranges of characters as sequences of ranges of bytes.  A range
is cut until all its characters have the same number of bytes and any choice of bytes within the
ranges spells one of them.
-/

namespace LiteralLang.Text

/-- The bytes of a code point. -/
def utf8Bytes (code : Nat) : List Nat :=
  if code < 0x80 then [code]
  else if code < 0x800 then [0xC0 + code / 64, 0x80 + code % 64]
  else if code < 0x10000 then [0xE0 + code / 4096, 0x80 + code / 64 % 64, 0x80 + code % 64]
  else
    [0xF0 + code / 262144, 0x80 + code / 4096 % 64, 0x80 + code / 64 % 64, 0x80 + code % 64]

/-- The first of some numbers that lies inside a range and not at its start. -/
def borderInside? (first last : Nat) (borders : List Nat) : Option Nat :=
  borders.find? fun border => decide (first < border) && decide (border ≤ last)

/-- Where a range is to be cut so that its ends differ only in bytes that go through all their
values, given how many characters share the bytes in front: the start of the second piece. -/
def cut? (first last block : Nat) : Option Nat :=
  if first / block = last / block then none
  else if first % block ≠ 0 then some ((first / block + 1) * block)
  else if last % block ≠ block - 1 then some (last / block * block)
  else none

/-- The pieces of a range that are one sequence of ranges of bytes each.  The rounds bound how often
it is cut; surrogates are left out. -/
def utf8Pieces : Nat → Nat → Nat → List (Nat × Nat)
  | 0, _, _ => []
  | rounds + 1, first, last =>
      if last < first then []
      else if first < 0xE000 ∧ 0xD7FF < last then
        utf8Pieces rounds first 0xD7FF ++ utf8Pieces rounds 0xE000 last
      else
        let place := (borderInside? first last [0x80, 0x800, 0x10000]).or <|
          if last < 0x80 then none
          else (cut? first last 64).or ((cut? first last 4096).or (cut? first last 262144))
        match place with
        | none => [(first, last)]
        | some second => utf8Pieces rounds first (second - 1) ++ utf8Pieces rounds second last

/-- The sequences of ranges of bytes of a range of code points, in order. -/
def utf8Sequences (first last : Nat) : List (List (Nat × Nat)) :=
  (utf8Pieces 32 first last).map fun (a, b) => (utf8Bytes a).zip (utf8Bytes b)

end LiteralLang.Text
