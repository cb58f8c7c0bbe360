/-!
# Blanks

Characters that leave nothing on the page, and the ends of a text without them.
-/

namespace LiteralLang.Text

/-- Characters with the property White_Space. -/
def isBlank (c : Char) : Bool :=
  (decide ('\t' ≤ c) && decide (c ≤ '\r')) || (decide ('\u2000' ≤ c) && decide (c ≤ '\u200a'))
    || [' ', '\u0085', '\u00a0', '\u1680', '\u2028', '\u2029', '\u202f', '\u205f',
      '\u3000'].contains c

def trimmed (text : List Char) : List Char :=
  ((text.dropWhile isBlank).reverse.dropWhile isBlank).reverse

end LiteralLang.Text
