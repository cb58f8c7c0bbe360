import LiteralLang.Proofs.Token.Cursor
import LiteralLang.Proofs.Token.NumberFaults

/-!
# Following the readers of lexemes

The steps of the cursor follow a reader: they come to the fault that it gives, or to the state
behind what it reads.  Here are the numbers and the words.
-/

namespace LiteralLang.Cursor

variable {α : Type} {chars rest text front run behind piece : List Char} {c : Char}
  {index start first : Nat} {found : List Token} {events : List LogEvent}
  {state between later : Cursor} {result : Except CompileError α} {stateOf : α → Cursor}
  {logged : Logged CompileError (List Token)} {p : Char → Bool}

/-! ### Steps and ends -/

theorem Ends.of_reach (run : Relation.ReflTransGen (Next chars) state later)
    (ends : Ends chars later logged) : Ends chars state logged := by
  induction run using Relation.ReflTransGen.head_induction_on with
  | refl => exact ends
  | head next _ ih => exact .next next ih

/-- The steps come to one end only. -/
theorem Ends.unique {other : Logged CompileError (List Token)} (ends : Ends chars state logged)
    (ends' : Ends chars state other) : logged = other := by
  induction ends with
  | done run =>
    cases ends' with
    | done run' =>
      cases run.symm.trans run'
      rfl
    | fault run' | next run' => cases run.symm.trans run'
  | fault run =>
    cases ends' with
    | fault run' =>
      cases run.symm.trans run'
      rfl
    | done run' | next run' => cases run.symm.trans run'
  | next run _ ih =>
    cases ends' with
    | next run' later =>
      cases run.symm.trans run'
      exact ih later
    | done run' | fault run' => cases run.symm.trans run'

/-- From the state on the steps come to the result: to its fault, or to the state of its value. -/
def Follows (chars : List Char) (state : Cursor) (result : Except CompileError α)
    (stateOf : α → Cursor) : Prop :=
  match result with
  | .error fault => Ends chars state ⟨state.events.reverse, .error fault⟩
  | .ok value => Relation.ReflTransGen (Next chars) state (stateOf value)

theorem Follows.of_reach (run : Relation.ReflTransGen (Next chars) state between)
    (quiet : between.events = state.events) (follows : Follows chars between result stateOf) :
    Follows chars state result stateOf := by
  cases result with
  | error fault =>
    rw [Follows, ← quiet]
    exact .of_reach run follows
  | ok value => exact run.trans follows

theorem Follows.of_next (next : Next chars state between) (quiet : between.events = state.events)
    (follows : Follows chars between result stateOf) : Follows chars state result stateOf :=
  .of_reach (.single next) quiet follows

/-- The state behind a lexeme that begins at the index. -/
def behindLexeme (index : Nat) (found : List Token) (events : List LogEvent) : Lexeme → Cursor
  | ⟨token, more, event⟩ => ⟨index + 1 + more, token :: found, event.toList ++ events, .between⟩

/-- To the result of a reader that goes on with what the other has read. -/
theorem Follows.map {β : Type} {f : α → β} {stateOf : β → Cursor}
    (follows : Follows chars state result (fun value => stateOf (f value))) :
    Follows chars state (result.map f) stateOf := by
  cases result with
  | error fault => exact follows
  | ok value => exact follows

/-! ### Characters -/

/-- The rest of the characters, from the index on. -/
def At (chars : List Char) (index : Nat) (rest : List Char) : Prop := chars.drop index = rest

theorem At.current (here : At chars index rest) : chars[index]? = rest.head? := by
  rw [← here, List.head?_drop]

theorem At.drop (here : At chars index rest) (n : Nat) : At chars (index + n) (rest.drop n) := by
  rw [At, ← List.drop_drop, here]

theorem At.append (here : At chars index (front ++ rest)) :
    At chars (index + front.length) rest := by
  have behind := here.drop front.length
  rwa [List.drop_left] at behind

theorem At.tail (here : At chars index (c :: rest)) : At chars (index + 1) rest :=
  here.drop 1

theorem At.length_add (here : At chars index rest) (inside : index ≤ chars.length) :
    index + rest.length = chars.length := by
  rw [← here, List.length_drop]
  omega

theorem At.lt (here : At chars index (c :: rest)) : index < chars.length := by
  have shorter := congrArg List.length here
  rw [List.length_drop, List.length_cons] at shorter
  omega

theorem At.slice_eq (here : At chars first (piece ++ rest)) (inside : first ≤ chars.length) :
    slice chars first (first + piece.length) = return piece := by
  have long := here.length_add inside
  rw [List.length_append] at long
  rw [slice, if_pos (by omega), List.drop_take, here, Nat.add_sub_cancel_left, List.take_left]

theorem At.previous_eq (here : At chars start (front ++ rest)) (nonempty : front ≠ []) :
    previous chars (start + front.length) = front.getLast? := by
  obtain ⟨before, c, rfl⟩ := (List.eq_nil_or_concat front).resolve_left nonempty
  rw [List.concat_eq_append, List.append_assoc] at here
  rw [List.concat_eq_append, List.length_append, List.length_singleton, ← Nat.add_assoc, previous,
    here.append.current, List.getLast?_concat]
  rfl

theorem At.filter_eq_some (here : At chars index (c :: rest)) (part : p c = true) :
    chars[index]?.filter p = some c := by
  rw [here.current]
  exact Option.filter_some_pos part

theorem At.filter_eq_none (here : At chars index rest) (outside : rest.head?.any p = false) :
    chars[index]?.filter p = none := by
  rw [here.current]
  cases head : rest.head? with
  | none => rfl
  | some c =>
    rw [head] at outside
    exact Option.filter_some_neg outside

/-! ### Numbers -/

theorem isNumberPart_of_plain (plain : c.isDigit = true ∨ c = '.') :
    Lexeme.isNumberPart c = true := by
  rcases plain with digit | rfl
  · exact Lexeme.isNumberPart_of_isDigit digit
  · rfl

/-- The number that a text in lower case spells. -/
def spelled (text : List Char) : Except CompileError (String × Binary64) :=
  match Decimal.ofText? text with
  | some decimal => .ok (String.ofList text, decimal.nearest)
  | none => .error (.numberFormat (String.ofList text))

/-- The number of a run behind its first characters, which are in order. -/
def numberBehind (front run : List Char) : Except CompileError (String × Binary64) :=
  match Lexeme.misplaced? front.getLast? run with
  | some word => .error (.invalidNumber (String.ofList (front ++ word)))
  | none => spelled ((front ++ run).map Char.toLower)

theorem numberBehind_cons (placed : Lexeme.isMisplaced front.getLast? c run.head? = false) :
    numberBehind front (c :: run) = numberBehind (front ++ [c]) run := by
  rw [numberBehind, numberBehind, Lexeme.misplaced?, if_neg (by simp [placed]),
    List.getLast?_concat, ← List.append_cons]
  cases Lexeme.misplaced? (some c) run with
  | none => rfl
  | some word => simp only [Option.map_some, List.append_assoc, List.singleton_append]

/-- The state behind a number. -/
def behindNumber (index : Nat) (found : List Token) (events : List LogEvent) (start : Nat) :
    String × Binary64 → Cursor
  | (shown, value) =>
      ⟨index, ⟨shown, some (.number value), start⟩ :: found,
        .numberToken shown value start :: events, .between⟩

theorem follows_endOfNumber (here : At chars index behind)
    (maximal : behind.head?.any Lexeme.isNumberPart = false) :
    Follows chars ⟨index, found, events, .number start text⟩ (spelled text)
      (behindNumber index found events start) := by
  have stops := here.filter_eq_none maximal
  rw [spelled]
  cases read : Decimal.ofText? text with
  | none =>
    apply Ends.fault
    simp only [step, numberStep, stops, endOfNumber, read]
    rfl
  | some decimal =>
    apply Relation.ReflTransGen.single
    simp only [Next, step, numberStep, stops, endOfNumber, read]
    rfl

theorem next_number (here : At chars index (c :: rest)) (part : Lexeme.isNumberPart c = true)
    (placed : Lexeme.isMisplaced (previous chars index) c rest.head? = false) :
    Next chars ⟨index, found, events, .number start text⟩
      ⟨index + 1, found, events, .number start (text ++ [c.toLower])⟩ := by
  simp only [Next, step, numberStep, here.filter_eq_some part, here.tail.current, placed]
  rfl

theorem refusedNumber_eq (here : At chars start (front ++ c :: rest)) (task : Task) :
    refusedNumber chars ⟨start + front.length, found, events, task⟩ start =
      throw (.invalidNumber (String.ofList (front ++ [c]))) := by
  have inText := here.append.lt
  have behind : min (start + front.length + 1) chars.length = start + (front ++ [c]).length := by
    rw [List.length_append, List.length_singleton]
    omega
  rw [List.append_cons] at here
  rw [refusedNumber, behind, here.slice_eq (by omega)]
  rfl

/-- Behind its first characters a number is read to its end, or to the first of its characters that
is misplaced. -/
theorem follows_run (here : At chars start (front ++ (run ++ behind))) (nonempty : front ≠ [])
    (inside : ∀ c ∈ run, Lexeme.isNumberPart c = true)
    (maximal : behind.head?.any Lexeme.isNumberPart = false) :
    Follows chars ⟨start + front.length, found, events, .number start (front.map Char.toLower)⟩
      (numberBehind front run)
      (behindNumber (start + (front ++ run).length) found events start) := by
  induction run generalizing front with
  | nil =>
    rw [numberBehind, Lexeme.misplaced?, List.append_nil]
    exact follows_endOfNumber here.append maximal
  | cons c run ih =>
    rw [List.forall_mem_cons] at inside
    rw [List.cons_append] at here
    have looked : Lexeme.isMisplaced (previous chars (start + front.length)) c
        (run ++ behind).head? = Lexeme.isMisplaced front.getLast? c run.head? := by
      rw [here.previous_eq nonempty, isMisplaced_head? maximal]
    cases misplaced : Lexeme.isMisplaced front.getLast? c run.head? with
    | true =>
      rw [numberBehind, Lexeme.misplaced?, if_pos misplaced]
      apply Ends.fault
      simp only [step, numberStep, here.append.filter_eq_some inside.1, here.append.tail.current,
        looked, misplaced, if_true, refusedNumber_eq here]
      rfl
    | false =>
      -- the character joins those in front of the run
      rw [numberBehind_cons misplaced, List.append_cons front c run]
      refine .of_next (next_number here.append inside.1 (looked.trans misplaced)) rfl ?_
      rw [List.append_cons] at here
      have moved : start + (front ++ [c]).length = start + front.length + 1 := by
        rw [List.length_append, List.length_singleton, Nat.add_assoc]
      have later := ih here (by simp) inside.2
      rwa [moved, List.map_append] at later

/-- The lexeme of a number, with its text and value. -/
def numberLexeme (offset more : Nat) : String × Binary64 → Lexeme
  | (shown, value) =>
      ⟨⟨shown, some (.number value), offset⟩, more, some (.numberToken shown value offset)⟩

theorem ofNumber_eq (plain : c.isDigit = true ∨ c = '.') (offset : Nat) (rest : List Char) :
    Lexeme.ofNumber offset c rest = (numberBehind [c] (rest.takeWhile Lexeme.isNumberPart)).map
      (numberLexeme offset (rest.takeWhile Lexeme.isNumberPart).length) := by
  have whole : Lexeme.number (c :: rest.takeWhile Lexeme.isNumberPart) =
      numberBehind [] (c :: rest.takeWhile Lexeme.isNumberPart) := rfl
  rw [Lexeme.ofNumber, whole, numberBehind_cons (Lexeme.isMisplaced_of_plain plain),
    List.nil_append]
  cases numberBehind [c] (rest.takeWhile Lexeme.isNumberPart) with
  | error fault => rfl
  | ok spelled => rfl

/-- Where a number begins, the cursor reads it. -/
theorem follows_ofNumber (here : At chars index (c :: rest))
    (begins : Lexeme.BeginsNumber (c :: rest)) :
    Follows chars ⟨index, found, events, .between⟩ (Lexeme.ofNumber index c rest)
      (behindLexeme index found events) := by
  have entered : Next chars ⟨index, found, events, .between⟩
      ⟨index, found, events, .number index []⟩ := by
    simp only [Next, step, betweenStep, here.current, here.tail.current, List.head?_cons,
      begins.not_isSpace, Bool.false_eq_true, if_false, Lexeme.beginsNumber_iff.mp begins, if_true]
    rfl
  have first : Next chars ⟨index, found, events, .number index []⟩
      ⟨index + 1, found, events, .number index ([] ++ [c.toLower])⟩ :=
    next_number here (isNumberPart_of_plain begins.plain)
      (Lexeme.isMisplaced_of_plain begins.plain)
  rw [ofNumber_eq begins.plain]
  refine .of_next entered rfl (.of_next first rfl (.map ?_))
  rw [← List.takeWhile_append_dropWhile (p := Lexeme.isNumberPart) (l := rest)] at here
  have inside : ∀ d ∈ rest.takeWhile Lexeme.isNumberPart, Lexeme.isNumberPart d = true := by
    intro d member
    exact List.mem_takeWhile_imp member
  have later := @follows_run chars [c] _ _ index found events here (by simp) inside
    (Text.head?_dropWhile_any Lexeme.isNumberPart rest)
  rw [List.length_append, ← Nat.add_assoc] at later
  exact later

/-! ### Words -/

/-- A word is read to its end. -/
theorem reaches_endOfWord (here : At chars index (run ++ behind))
    (inside : ∀ c ∈ run, Lexeme.isWordPart c = true)
    (maximal : behind.head?.any Lexeme.isWordPart = false) :
    Relation.ReflTransGen (Next chars) ⟨index, found, events, .word start text⟩
      ⟨index + run.length, ⟨String.ofList (text ++ run), none, start⟩ :: found,
        .wordToken (String.ofList (text ++ run)) start :: events, .between⟩ := by
  induction run generalizing index text with
  | nil =>
    have stops := here.filter_eq_none maximal
    rw [List.append_nil]
    apply Relation.ReflTransGen.single
    simp only [Next, step, wordStep, stops]
    rfl
  | cons c run ih =>
    rw [List.forall_mem_cons] at inside
    have next : Next chars ⟨index, found, events, .word start text⟩
        ⟨index + 1, found, events, .word start (text ++ [c])⟩ := by
      simp only [Next, step, wordStep, here.filter_eq_some inside.1]
      rfl
    have later := @ih (text ++ [c]) (index + 1) here.tail inside.2
    rw [← List.append_cons, Nat.add_assoc, Nat.add_comm 1] at later
    exact .head next later

end LiteralLang.Cursor
