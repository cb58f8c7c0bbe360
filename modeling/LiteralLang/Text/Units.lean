/-!
# 16-bit units

The encoding of a character in one or two 16-bit units.  The units from `0xD800` to `0xDFFF` are
surrogates: a high one and the low one after it stand for one character beyond `0xFFFF`, and alone
they stand for none.
-/

namespace LiteralLang.Text

def isHighSurrogate (unit : Nat) : Bool := decide (0xD800 ≤ unit) && decide (unit < 0xDC00)

def isLowSurrogate (unit : Nat) : Bool := decide (0xDC00 ≤ unit) && decide (unit < 0xE000)

/-- The units of a character. -/
def units (c : Char) : List Nat :=
  if c.toNat < 0x10000 then [c.toNat]
  else
    let offset := c.toNat - 0x10000
    [0xD800 + offset / 0x400, 0xDC00 + offset % 0x400]

/-- The character of a high and a low surrogate. -/
def ofPair (high low : Nat) : Char :=
  Char.ofNat (0x10000 + (high - 0xD800) * 0x400 + (low - 0xDC00))

end LiteralLang.Text
