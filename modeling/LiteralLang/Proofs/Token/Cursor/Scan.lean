import LiteralLang.Proofs.Token.Cursor.Strings

/-!
# The scan by the cursor

From a state between two lexemes the cursor reads the next one as the scanner does.  So its steps
end for every source, with the events of the scan and with its tokens or its fault.
-/

namespace LiteralLang.Cursor

variable {chars rest text : List Char} {c : Char} {index : Nat} {found : List Token}
  {events : List LogEvent}

theorem isWordPart_of_isWordStart (begins : Lexeme.isWordStart c = true) :
    Lexeme.isWordPart c = true :=
  Lexeme.isWordPart_iff.mpr (Or.inr begins)

/-- Where a string begins, the cursor reads it. -/
theorem follows_ofQuote (here : At chars index (c :: rest)) (opens : Lexeme.isQuote c = true) :
    Follows chars ⟨index, found, events, .between⟩ (Lexeme.ofQuote c index rest)
      (behindLexeme index found events) := by
  have entered : Next chars ⟨index, found, events, .between⟩
      ⟨index + 1, found, events, .string ⟨c, index, []⟩ false⟩ := by
    simp only [Next, step, betweenStep, here.current, here.tail.current, List.head?_cons,
      Lexeme.not_isSpace_of_isQuote opens, Lexeme.no_number_of_isQuote opens, opens,
      Bool.false_eq_true, if_false, if_true]
    rfl
  refine .of_next entered rfl ?_
  have read := @follows_stringRest chars rest [] c (index + 1) index found events false here.tail
  rw [Lexeme.ofQuote]
  cases scanned : Lexeme.stringRest c index [] false (index + 1) rest with
  | error fault =>
    rw [scanned] at read
    exact read
  | ok closed =>
    obtain ⟨decoded, behind⟩ := closed
    -- the lexeme counts its characters, and the cursor has the index behind them
    obtain ⟨items, meaning, tail, -, -, -, rfl⟩ := Lexeme.closesAt_of_stringRest scanned
    rw [scanned] at read
    have place : index + 1 + (index + 1 + items.length + 1 - index - 1) =
      index + 1 + items.length + 1 := by omega
    simp only [Follows, behindLexeme, place]
    exact read

/-- Where a word begins, the cursor reads it. -/
theorem reaches_ofWord (here : At chars index (c :: rest)) (noSpace : ¬ Lexeme.isSpace c = true)
    (begins : Lexeme.isWordStart c = true) :
    Relation.ReflTransGen (Next chars) ⟨index, found, events, .between⟩
      (behindLexeme index found events (Lexeme.ofWord index c rest)) := by
  have entered : Next chars ⟨index, found, events, .between⟩
      ⟨index, found, events, .word index []⟩ := by
    obtain ⟨noDigit, noPoint, noQuote, noOpening, noClosing, noComma⟩ :=
      Lexeme.isWordStart_only begins
    simp only [Next, step, betweenStep, here.current, List.head?_cons, if_neg noSpace, noDigit,
      beq_false_of_ne noPoint, noQuote, beq_false_of_ne noOpening, beq_false_of_ne noClosing,
      beq_false_of_ne noComma, begins]
    rfl
  have inside : ∀ d ∈ c :: rest.takeWhile Lexeme.isWordPart, Lexeme.isWordPart d = true := by
    rw [List.forall_mem_cons]
    refine ⟨isWordPart_of_isWordStart begins, ?_⟩
    intro d member
    exact List.mem_takeWhile_imp member
  rw [← List.takeWhile_append_dropWhile (p := Lexeme.isWordPart) (l := rest)] at here
  have read := @reaches_endOfWord chars [] _ _ index index found events here inside
    (Text.head?_dropWhile_any Lexeme.isWordPart rest)
  rw [List.length_cons, Nat.add_comm _ 1, ← Nat.add_assoc] at read
  exact .head entered read

theorem next_punctuation (here : At chars index (c :: rest))
    (which : (c == '[' || c == ']' || c == ',') = true) :
    Next chars ⟨index, found, events, .between⟩
      ⟨index + 1, ⟨c.toString, none, index⟩ :: found, events, .between⟩ := by
  simp only [Next, step, betweenStep, here.current, List.head?_cons]
  simp only [Bool.or_eq_true, beq_iff_eq] at which
  rcases which with (rfl | rfl) | rfl <;> rfl

/-- The cursor reads the lexeme that begins at its index. -/
theorem follows_lexeme (here : At chars index (c :: rest)) (noSpace : ¬ Lexeme.isSpace c = true) :
    Follows chars ⟨index, found, events, .between⟩ (lexeme index c rest)
      (behindLexeme index found events) := by
  unfold lexeme
  split
  case isTrue begins => exact follows_ofNumber here (Lexeme.beginsNumber_iff.mpr begins)
  case isFalse noNumber =>
    split
    case isTrue opens => exact follows_ofQuote here opens
    case isFalse noQuote =>
      split
      case isTrue which => exact .single (next_punctuation here which)
      case isFalse noPunctuation =>
        split
        case isTrue begins => exact reaches_ofWord here noSpace begins
        case isFalse noWord =>
          apply Ends.fault
          simp only [step, betweenStep, here.current, here.tail.current, List.head?_cons,
            if_neg noSpace, if_neg noNumber, if_neg noQuote, if_neg noPunctuation, if_neg noWord]
          rfl

/-- From between two lexemes on, the steps of the cursor end as the scan does. -/
theorem ends_continued (here : At chars index text) :
    Ends chars ⟨index, found, events, .between⟩ (Scan.continued found events index text) := by
  fun_induction Scan.continued found events index text with
  | case1 found events index =>
    apply Ends.done
    simp only [step, betweenStep, here.current, List.head?_nil]
    rfl
  | case2 found events index c rest space ih =>
    refine .next ?_ (ih here.tail)
    simp only [Next, step, betweenStep, here.current, List.head?_cons, if_pos space]
    rfl
  | case3 found events index c rest noSpace fault refused =>
    have ends := @follows_lexeme chars rest c index found events here noSpace
    rw [refused] at ends
    exact ends
  | case4 found events index c rest noSpace token more event read ih =>
    have reached := @follows_lexeme chars rest c index found events here noSpace
    rw [read] at reached
    exact .of_reach reached (ih (here.tail.drop more))

/-- The steps of the cursor end for every source, with what the scan comes to and nothing else. -/
theorem ends_iff (source : String) : ∃ events, ∀ logged,
    Ends source.toList .start logged ↔ logged = ⟨events, tokenize source⟩ := by
  have ends : Ends source.toList .start (Scan.continued [] [] 0 source.toList) :=
    ends_continued rfl
  refine ⟨(Scan.continued [] [] 0 source.toList).events, ?_⟩
  intro logged
  rw [Scan.tokenize_eq_result]
  constructor
  · intro other
    exact other.unique ends
  · rintro rfl
    exact ends

end LiteralLang.Cursor
