import LiteralLang.Proofs.Result
import LiteralLang.Proofs.Token.Report
import LiteralLang.Token.Scan

/-!
# Runs of the scanner

`Reads` is a run of the scanner over a piece of source text, from one offset to another: every step
takes one blank or one lexeme.  Runs can be put together, and a whole text is cut into tokens
exactly if a run takes all of it.  Otherwise a run leads up to a character where no lexeme can be
read, and the fault there is the fault of the text.
-/

namespace LiteralLang.Scan

open Lexeme (isSpace Spells lexeme_of_spells isRead_of_lexeme event_of_lexeme)

/-- The scanner takes the text up to the rest, from one offset to the other, and finds the
tokens. -/
inductive Reads : (offset : Nat) → (text : List Char) → (tokens : List Token) → (behind : Nat) →
    (rest : List Char) → Prop
  | done {offset rest} : Reads offset rest [] offset rest
  | blank {offset c text tokens behind rest} : isSpace c = true →
      Reads (offset + 1) text tokens behind rest → Reads offset (c :: text) tokens behind rest
  | lexeme {offset c part tail shown decoded tokens behind rest} :
      Spells tail.head? (c :: part) shown decoded →
      Reads (offset + 1 + part.length) tail tokens behind rest →
      Reads offset (c :: (part ++ tail)) (⟨shown, decoded, offset⟩ :: tokens) behind rest

variable {offset middle behind : Nat} {text between rest run : List Char}
  {tokens later found : List Token} {events : List LogEvent} {c : Char} {source : String}
  {fault : CompileError}

theorem Reads.append (first : Reads offset text tokens middle between)
    (second : Reads middle between later behind rest) :
    Reads offset text (tokens ++ later) behind rest := by
  induction first with
  | done => exact second
  | blank space _ ih => exact .blank space (ih second)
  | lexeme spells _ ih => exact .lexeme spells (ih second)

/-- The rest is the end of the text, as far behind as the offsets say. -/
theorem Reads.exists_front (run : Reads offset text tokens behind rest) :
    ∃ front, text = front ++ rest ∧ behind = offset + front.length := by
  induction run with
  | done => exact ⟨[], rfl, rfl⟩
  | @blank offset c text tokens behind rest _ _ ih =>
    obtain ⟨front, rfl, rfl⟩ := ih
    refine ⟨c :: front, rfl, ?_⟩
    rw [List.length_cons]
    omega
  | @lexeme offset c part tail shown decoded tokens behind rest _ _ ih =>
    obtain ⟨front, rfl, rfl⟩ := ih
    refine ⟨c :: (part ++ front), by simp, ?_⟩
    rw [List.length_cons, List.length_append]
    omega

theorem Reads.drop_eq (run : Reads 0 text tokens behind rest) : text.drop behind = rest := by
  obtain ⟨front, rfl, rfl⟩ := run.exists_front
  rw [Nat.zero_add, List.drop_left]

/-- The offset of the rest counts the characters in front of it. -/
theorem Reads.behind_eq (run : Reads offset text tokens behind rest) :
    behind + rest.length = offset + text.length := by
  obtain ⟨front, rfl, rfl⟩ := run.exists_front
  rw [List.length_append, Nat.add_assoc]

theorem Reads.offset_le (run : Reads offset text tokens behind rest) :
    ∀ token ∈ tokens, offset ≤ token.offset := by
  induction run with
  | done => simp
  | blank _ _ ih =>
    intro token member
    exact Nat.le_of_succ_le (ih token member)
  | @lexeme offset c part tail shown decoded tokens behind rest _ _ ih =>
    rw [List.forall_mem_cons]
    refine ⟨Nat.le_refl offset, ?_⟩
    intro token member
    have later := ih token member
    omega

/-- Tokens are found at greater and greater offsets. -/
theorem Reads.pairwise_offset (run : Reads offset text tokens behind rest) :
    tokens.Pairwise fun earlier later => earlier.offset < later.offset := by
  induction run with
  | done => exact .nil
  | blank _ _ ih => exact ih
  | @lexeme offset c part tail shown decoded tokens behind rest _ later ih =>
    refine .cons ?_ ih
    intro token member
    have reached := later.offset_le token member
    change offset < token.offset
    omega

/-- Blanks are skipped. -/
theorem Reads.blanks (space : ∀ c ∈ run, isSpace c = true) :
    Reads offset (run ++ rest) [] (offset + run.length) rest := by
  induction run generalizing offset with
  | nil => exact .done
  | cons c run ih =>
    rw [List.length_cons, Nat.add_comm run.length, ← Nat.add_assoc]
    apply Reads.blank (space c List.mem_cons_self)
    apply ih
    intro d member
    exact space d (List.mem_cons_of_mem c member)

/-- One lexeme is taken as one token. -/
theorem Reads.single {written : List Char} {shown : String} {decoded : Option Decoded}
    (spells : Spells rest.head? written shown decoded) :
    Reads offset (written ++ rest) [⟨shown, decoded, offset⟩] (offset + written.length) rest := by
  obtain ⟨c, part, rfl⟩ := List.exists_cons_of_ne_nil spells.ne_nil
  rw [List.length_cons, Nat.add_comm part.length, ← Nat.add_assoc]
  exact .lexeme spells .done

/-- The scan follows a run, with the tokens of the run and their records. -/
theorem Reads.continued_eq (run : Reads offset text tokens behind rest) (found : List Token)
    (events : List LogEvent) :
    continued found events offset text =
      continued (tokens.reverse ++ found) ((tokens.filterMap Token.event?).reverse ++ events)
        behind rest := by
  induction run generalizing found events with
  | done => rfl
  | @blank offset c text tokens behind rest space _ ih =>
    rw [Scan.continued, if_pos space, ih]
  | @lexeme offset c part tail shown decoded tokens behind rest spells _ ih =>
    obtain ⟨event, read⟩ := lexeme_of_spells spells offset
    have report : (tokens.filterMap Token.event?).reverse ++ (event.toList ++ events) =
        ((⟨shown, decoded, offset⟩ :: tokens).filterMap Token.event?).reverse ++ events := by
      rw [event_of_lexeme read, List.filterMap_cons]
      cases (⟨shown, decoded, offset⟩ : Token).event? <;> simp
    rw [Scan.continued, if_neg (by simp [spells.head_not_isSpace]), read]
    simp only [List.drop_left]
    rw [ih, report, List.reverse_cons, List.append_assoc, List.singleton_append]

theorem Reads.continued (run : Reads offset text tokens behind rest) (found : List Token)
    (events : List LogEvent) :
    ∃ events', continued found events offset text =
      continued (tokens.reverse ++ found) events' behind rest :=
  ⟨_, run.continued_eq found events⟩

/-- A scan without a fault is a run over the whole text. -/
theorem reads_of_continued (scanned : (continued found events offset text).result = .ok tokens) :
    ∃ later, tokens = found.reverse ++ later ∧
      Reads offset text later (offset + text.length) [] := by
  fun_induction continued found events offset text with
  | case1 found events offset =>
    obtain rfl := Except.ok.inj scanned
    exact ⟨[], (List.append_nil _).symm, .done⟩
  | case2 found events offset c rest space ih =>
    obtain ⟨later, rfl, run⟩ := ih scanned
    refine ⟨later, rfl, .blank space ?_⟩
    rwa [List.length_cons, Nat.add_comm rest.length, ← Nat.add_assoc]
  | case3 => simp at scanned
  | case4 found events offset c rest _ token more event read ih =>
    obtain ⟨later, rfl, run⟩ := ih scanned
    obtain ⟨part, tail, rfl, rfl, rfl, spells⟩ := isRead_of_lexeme read
    refine ⟨token :: later, by simp, ?_⟩
    rw [List.drop_left] at run
    rw [List.length_cons, List.length_append, show token.offset + (part.length + tail.length + 1) =
      token.offset + 1 + part.length + tail.length by omega]
    exact .lexeme spells run

/-- The scan of a whole text, its report aside. -/
theorem tokenize_eq_result (source : String) :
    tokenize source = (continued [] [] 0 source.toList).result := by
  rw [tokenize, scan]
  simp only [Logged.result_bind, Logged.result_report, Logged.result_pure, Result.ok_bind]
  cases (continued [] [] 0 source.toList).result <;> rfl

/-- A text is cut into the tokens of the run that takes all of it. -/
theorem tokenize_eq_ok_iff_reads {source : String} :
    tokenize source = .ok tokens ↔ ∃ behind, Reads 0 source.toList tokens behind [] := by
  rw [tokenize_eq_result]
  constructor
  · intro scanned
    obtain ⟨later, rfl, run⟩ := reads_of_continued scanned
    exact ⟨_, run⟩
  · rintro ⟨behind, run⟩
    obtain ⟨events, same⟩ := run.continued [] []
    rw [same, List.append_nil, Scan.continued, List.reverse_reverse]

/-! ### Faults -/

/-- A scan with a fault is a run up to the character where it stops. -/
theorem exists_reads_of_error
    (stopped : (continued found events offset text).result = .error fault) :
    ∃ later behind c rest, Reads offset text later behind (c :: rest) ∧ isSpace c = false ∧
      lexeme behind c rest = .error fault := by
  fun_induction continued found events offset text with
  | case1 => simp at stopped
  | case2 found events offset c rest space ih =>
    obtain ⟨later, behind, d, tail, run, begins, refused⟩ := ih stopped
    exact ⟨later, behind, d, tail, .blank space run, begins, refused⟩
  | case3 found events offset c rest noSpace fault' refused =>
    obtain rfl := Except.error.inj stopped
    exact ⟨[], offset, c, rest, .done, Bool.eq_false_iff.mpr noSpace, refused⟩
  | case4 found events offset c rest _ token more event read ih =>
    obtain ⟨later, behind, d, tail, run, begins, refused⟩ := ih stopped
    obtain ⟨part, tail', rfl, rfl, rfl, spells⟩ := isRead_of_lexeme read
    rw [List.drop_left] at run
    exact ⟨token :: later, behind, d, tail, .lexeme spells run, begins, refused⟩

/-- Where no lexeme can be read, the scan stops with the fault there. -/
theorem Reads.continued_eq_error (run : Reads offset text tokens behind (c :: rest))
    (begins : isSpace c = false) (refused : LiteralLang.lexeme behind c rest = .error fault) :
    Scan.continued [] [] offset text = ⟨tokens.filterMap Token.event?, .error fault⟩ := by
  rw [run.continued_eq, Scan.continued, if_neg (by simp [begins]), refused]
  simp

/-- The fault of a text is that of the first character where no lexeme can be read. -/
theorem tokenize_eq_error_iff : tokenize source = .error fault ↔
    ∃ tokens behind c rest, Reads 0 source.toList tokens behind (c :: rest) ∧ isSpace c = false ∧
      lexeme behind c rest = .error fault := by
  rw [tokenize_eq_result]
  constructor
  · exact exists_reads_of_error
  · rintro ⟨tokens, behind, c, rest, run, begins, refused⟩
    rw [run.continued_eq_error begins refused]

/-! ### Reports -/

/-- The scan of a whole text reports its tokens, and then how many they are. -/
theorem Reads.scan_eq (run : Reads 0 source.toList tokens behind []) :
    scan source =
      ⟨tokens.filterMap Token.event? ++ [.tokenized source.length tokens.length], .ok tokens⟩ := by
  have scanned : Scan.continued [] [] 0 source.toList =
      ⟨tokens.filterMap Token.event?, .ok tokens⟩ := by
    rw [run.continued_eq, Scan.continued]
    simp
  rw [scan, scanned]
  rfl

/-- A scan with a fault reports the tokens in front of it, and nothing else. -/
theorem Reads.scan_eq_error (run : Reads 0 source.toList tokens behind (c :: rest))
    (begins : isSpace c = false) (refused : LiteralLang.lexeme behind c rest = .error fault) :
    scan source = ⟨tokens.filterMap Token.event?, .error fault⟩ := by
  rw [scan, run.continued_eq_error begins refused]
  rfl

end LiteralLang.Scan
