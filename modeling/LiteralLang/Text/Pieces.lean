/-!
# Pieces of a text

Cutting a text at every occurrence of a separator.
-/

namespace LiteralLang.Text

/-- The pieces between the separators, empty ones included; there is always at least one. -/
def pieces (separator : Char) : List Char → List (List Char)
  | [] => [[]]
  | c :: rest =>
      let later := pieces separator rest
      if c = separator then [] :: later
      else
        match later with
        | first :: more => (c :: first) :: more
        | [] => [[c]]

end LiteralLang.Text
