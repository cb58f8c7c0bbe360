import LiteralLang.Text.Pieces

/-!
# Pieces between separators

How cutting a text goes on from its first character, and the pieces of a text cut at its quotes:
they stand outside and inside of the quotes by turns.
-/

namespace LiteralLang.Text

variable {separator c : Char} {run rest : List Char}

theorem pieces_separator : pieces separator (separator :: rest) = [] :: pieces separator rest := by
  rw [pieces]
  exact if_pos rfl

theorem pieces_ne_nil (separator : Char) (text : List Char) : pieces separator text ≠ [] := by
  cases text with
  | nil => exact List.cons_ne_nil _ _
  | cons c rest =>
    rw [pieces]
    split
    · exact List.cons_ne_nil _ _
    · split <;> exact List.cons_ne_nil _ _

/-- A character that is no separator goes on the first piece. -/
theorem pieces_cons_of_ne (rest : List Char) (other : c ≠ separator) :
    ∃ first more, pieces separator rest = first :: more ∧
      pieces separator (c :: rest) = (c :: first) :: more := by
  obtain ⟨first, more, shape⟩ := List.exists_cons_of_ne_nil (pieces_ne_nil separator rest)
  refine ⟨first, more, shape, ?_⟩
  rw [pieces, shape]
  exact if_neg other

/-- Up to the first separator a text is one piece. -/
theorem pieces_append_separator (free : separator ∉ run) :
    pieces separator (run ++ separator :: rest) = run :: pieces separator rest := by
  induction run with
  | nil => exact pieces_separator
  | cons c run ih =>
    rw [List.mem_cons, not_or] at free
    obtain ⟨first, more, shape, whole⟩ :=
      pieces_cons_of_ne (run ++ separator :: rest) (Ne.symm free.1)
    rw [ih free.2, List.cons.injEq] at shape
    rw [List.cons_append, whole, ← shape.1, ← shape.2]

mutual

/-- Every other piece, the first one included: what stands outside of the quotes. -/
def outside : List (List Char) → List (List Char)
  | [] => []
  | piece :: rest => piece :: inside rest

/-- Every other piece, without the first one: what stands inside of the quotes. -/
def inside : List (List Char) → List (List Char)
  | [] => []
  | _ :: rest => outside rest

end

end LiteralLang.Text
