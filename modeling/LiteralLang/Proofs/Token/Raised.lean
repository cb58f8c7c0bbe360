import LiteralLang.Proofs.Token.Inside

/-!
# Scans from another offset

Offsets are handed through the scanner and decide nothing.  A scan that begins further behind finds
the same tokens or the same fault, with the offset of each raised by the distance.  One lemma for
each reader says so, up to the scan of a whole text.
-/

namespace LiteralLang

/-- The fault with its offset raised, if it has one. -/
def CompileError.raised (distance : Nat) : CompileError → CompileError
  | .unexpectedCharacter character offset => .unexpectedCharacter character (offset + distance)
  | .unclosedString offset => .unclosedString (offset + distance)
  | .invalidUnicodeEscape offset escape => .invalidUnicodeEscape (offset + distance) escape
  | .mismatchedQuote opening closing offset => .mismatchedQuote opening closing (offset + distance)
  | fault => fault

/-- The event with its offset raised, if it has one. -/
def LogEvent.raised (distance : Nat) : LogEvent → LogEvent
  | .numberToken text value offset => .numberToken text value (offset + distance)
  | .stringToken text offset => .stringToken text (offset + distance)
  | .wordToken text offset => .wordToken text (offset + distance)
  | event => event

/-- The lexeme with all its offsets raised. -/
def Lexeme.raised (distance : Nat) (lexeme : Lexeme) : Lexeme where
  token := lexeme.token.raised distance
  more := lexeme.more
  event := lexeme.event.map (LogEvent.raised distance)

/-- A result seen from further in front: its value by a view, its fault with the offset raised. -/
def raisedBy {α β : Type} (distance : Nat) (view : α → β) (result : Except CompileError α) :
    Except CompileError β :=
  (result.map view).mapError (CompileError.raised distance)

section

variable {α β : Type} {distance : Nat} {view : α → β}

@[simp] theorem raisedBy_ok (value : α) :
    raisedBy distance view (.ok value) = .ok (view value) := rfl

@[simp] theorem raisedBy_error (fault : CompileError) :
    raisedBy distance view (.error fault) = .error (fault.raised distance) := rfl

end

namespace Lexeme

variable (distance offset : Nat)

/-! ### Readers of one lexeme -/

theorem unicodeEscape_raised (text : List Char) :
    unicodeEscape (offset + distance) text = raisedBy distance id (unicodeEscape offset text) := by
  unfold unicodeEscape
  dsimp only
  split
  · rfl
  · split
    · split
      · split
        · simp [CompileError.raised, Nat.add_right_comm]
        · split <;> rfl
      · rfl
    · split <;> rfl

/-- A string is read to the same end, as far behind as it begins. -/
theorem stringRest_raised (quote : Char) (start : Nat) (decoded : List Char) (atOther : Bool)
    (text : List Char) :
    stringRest quote (start + distance) decoded atOther (offset + distance) text =
      raisedBy distance (fun (meaning, behind) => (meaning, behind + distance))
        (stringRest quote start decoded atOther offset text) := by
  fun_induction stringRest quote start decoded atOther offset text with
  | case1 decoded atOther offset =>
    rw [stringRest]
    cases atOther <;> rfl
  | case2 decoded atOther offset =>
    rw [stringRest.eq_def]
    simp [Nat.add_right_comm]
  | case3 decoded atOther offset different =>
    rw [stringRest.eq_def]
    simp [different, CompileError.raised]
  | case4 decoded atOther offset text fault escape different =>
    rw [stringRest.eq_def]
    simp [different, unicodeEscape_raised, escape]
  | case5 decoded atOther offset text named length escape different ih =>
    rw [Nat.add_right_comm, Nat.add_right_comm offset] at ih
    rw [stringRest.eq_def]
    simp [different, unicodeEscape_raised, escape, ih]
  | case6 decoded atOther offset letter text notU different ih =>
    rw [Nat.add_right_comm] at ih
    rw [stringRest.eq_def]
    simp [different, ih]
  | case7 decoded atOther offset c text notQuote notBackslash ih =>
    rw [Nat.add_right_comm] at ih
    rw [stringRest.eq_def]
    simp [notQuote, notBackslash, ih]

/-- A misspelled number is reported without an offset. -/
theorem raised_of_number_eq_error {run : List Char} {fault : CompileError}
    (refused : number run = .error fault) : fault.raised distance = fault := by
  unfold number at refused
  dsimp only at refused
  split at refused
  · cases refused
    rfl
  · split at refused
    · cases refused
    · cases refused
      rfl

theorem ofNumber_raised (c : Char) (rest : List Char) :
    ofNumber (offset + distance) c rest =
      raisedBy distance (raised distance) (ofNumber offset c rest) := by
  unfold ofNumber
  dsimp only
  cases read : number (c :: rest.takeWhile isNumberPart) with
  | error fault =>
    rw [raisedBy_error, raised_of_number_eq_error distance read]
  | ok spelled => rfl

theorem ofQuote_raised (quote : Char) (rest : List Char) :
    ofQuote quote (offset + distance) rest =
      raisedBy distance (raised distance) (ofQuote quote offset rest) := by
  unfold ofQuote
  rw [Nat.add_right_comm, stringRest_raised]
  cases stringRest quote offset [] false (offset + 1) rest with
  | error fault => rfl
  | ok read =>
    have length : read.2 + distance - (offset + distance) - 1 = read.2 - offset - 1 := by omega
    simp [raised, Token.raised, LogEvent.raised, length]

theorem lexeme_raised (c : Char) (rest : List Char) :
    lexeme (offset + distance) c rest =
      raisedBy distance (raised distance) (lexeme offset c rest) := by
  unfold lexeme
  split
  · exact ofNumber_raised distance offset c rest
  · split
    · exact ofQuote_raised distance offset c rest
    · split
      · rfl
      · split
        · rfl
        · rfl

end Lexeme

/-! ### Whole scans -/

namespace Scan

/-- A scan behind tokens that were found before goes on as it would at the start: it adds the same
tokens further behind, or ends with the same fault further behind. -/
theorem continued_raised (distance offset : Nat) (before found : List Token)
    (events events' : List LogEvent) (text : List Char) :
    (continued (found.map (Token.raised distance) ++ before) events' (offset + distance)
        text).result =
      raisedBy distance (fun tokens => before.reverse ++ tokens.map (Token.raised distance))
        (continued found events offset text).result := by
  fun_induction continued found events offset text generalizing events' with
  | case1 found events offset => simp [continued]
  | case2 found events offset c rest space ih =>
    rw [continued, if_pos space, Nat.add_right_comm]
    exact ih events'
  | case3 found events offset c rest noSpace fault refused =>
    rw [continued, if_neg noSpace, Lexeme.lexeme_raised, refused]
    rfl
  | case4 found events offset c rest noSpace token more event read ih =>
    rw [continued, if_neg noSpace, Lexeme.lexeme_raised, read]
    have later := ih ((event.map (LogEvent.raised distance)).toList ++ events')
    rw [List.map_cons, List.cons_append, Nat.add_right_comm, Nat.add_right_comm offset] at later
    exact later

end Scan

end LiteralLang
