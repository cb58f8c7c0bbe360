import LiteralLang.CommandLine.Run
import LiteralLang.Proofs.Text.Pieces
import Mathlib.Data.List.Basic

/-!
# Reports of failures

What a run says about its failure.  The report names the step that failed and shows the nearest
cause of it in full, whatever lines that has.
-/

namespace LiteralLang.CommandLine.Failure

/-- The report of a failure shows a cause, behind the step that failed.  A cause with others behind
it has the number zero, and its further lines stand under the first. -/
def Shows (failure : Failure) (cause : String) : Prop :=
  ∃ number margin rest, (number, margin) ∈ [("", "    "), ("0: ", "       ")] ∧
    failure.report = "Error: " ++ failure.context ++ "\n\nCaused by:\n" ++
      ("    " ++ number ++ String.ofList (cause.toList.flatMap fun c =>
        if c = '\n' then '\n' :: margin.toList else [c]) ++ "\n" ++ rest)

theorem intercalate_pieces (margin text : List Char) :
    ('\n' :: margin).intercalate (Text.pieces '\n' text) =
      text.flatMap fun c => if c = '\n' then '\n' :: margin else [c] := by
  induction text with
  | nil => rfl
  | cons c text ih =>
    rw [List.flatMap_cons, ← ih]
    by_cases newline : c = '\n'
    · subst newline
      rw [Text.pieces_separator, if_pos rfl,
        List.intercalate_cons_of_ne_nil (Text.pieces_ne_nil _ _)]
      rfl
    · obtain ⟨first, more, shape, whole⟩ := Text.pieces_cons_of_ne text newline
      rw [whole, shape, if_neg newline]
      cases more with
      | nil => simp
      | cons second more => simp [List.intercalate_cons_cons]

theorem indented_eq (margin cause : String) : indented margin cause =
    String.ofList (cause.toList.flatMap fun c =>
      if c = '\n' then '\n' :: margin.toList else [c]) := by
  have lines : ((Text.pieces '\n' cause.toList).map String.ofList).map String.toList =
      Text.pieces '\n' cause.toList := by
    simp
  rw [← String.toList_inj, String.toList_ofList, indented, String.toList_intercalate, lines,
    String.toList_append]
  exact intercalate_pieces margin.toList cause.toList

/-- Every report shows the nearest cause. -/
theorem shows_of_causes {failure : Failure} {cause : String}
    (nearest : failure.causes.head? = some cause) : failure.Shows cause := by
  rw [Shows, report]
  cases causes : failure.causes with
  | nil => simp [causes] at nearest
  | cons first more =>
    rw [causes] at nearest
    obtain rfl := Option.some.inj nearest
    cases more with
    | nil =>
      refine ⟨"", "    ", "", by simp, ?_⟩
      dsimp only
      rw [indented_eq, String.append_empty, String.append_empty]
    | cons second more =>
      refine ⟨"0: ", "       ", numbered 1 (second :: more), by simp, ?_⟩
      have zero : "    " ++ (0 : Nat).repr ++ ": " = "    " ++ "0: " := by decide
      dsimp only
      rw [numbered, indented_eq, zero]

end LiteralLang.CommandLine.Failure
