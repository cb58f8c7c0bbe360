import LiteralLang.Proofs.Token.Raised
import LiteralLang.Proofs.Token.Split
import Mathlib.Data.List.Forall2

/-!
# Texts joined at a separator

A text in front of a separator is cut into its tokens whatever stands behind, and what stands behind
is read as it is read alone, so two texts with a separator between them give the tokens of both, or
the fault of the second.  Blanks around the lexemes of a source matter even less: more of them move
its tokens and change nothing else.
-/

namespace LiteralLang

open Lexeme (isSpace isSeparator Spells)
open Scan (Reads)

/-- The tokens of a separator at the offset: none of a blank, one of a bracket or a comma. -/
def separatorTokens (c : Char) (offset : Nat) : List Token :=
  if isSpace c then [] else [⟨c.toString, none, offset⟩]

variable {c : Char} {offset offset' : Nat} {rest : List Char} {tokens : List Token}

/-- What a token is apart from its place. -/
def Token.content (token : Token) : String × Option Decoded := (token.text, token.decoded)

theorem Token.map_raised_zero (tokens : List Token) : tokens.map (Token.raised 0) = tokens :=
  List.map_id tokens

/-! ### One separator -/

/-- A separator is taken by itself. -/
theorem reads_separator (separates : isSeparator c = true) (offset : Nat) (rest : List Char) :
    Reads offset (c :: rest) (separatorTokens c offset) (offset + 1) rest := by
  unfold separatorTokens
  by_cases space : isSpace c = true
  · rw [if_pos space]
    exact .blank space .done
  · have which : c = '[' ∨ c = ']' ∨ c = ',' := by
      simpa [isSeparator, space, or_assoc] using separates
    rw [if_neg space]
    exact Reads.single (.punctuation which)

/-- The scan of a text in front of a separator goes on behind the separator. -/
theorem exists_continued_separated {text : List Char} {behind : Nat}
    (run : Reads 0 text tokens behind []) (separates : isSeparator c = true) (rest : List Char) :
    ∃ events, Scan.continued [] [] 0 (text ++ c :: rest) =
      Scan.continued (tokens ++ separatorTokens c behind).reverse events (behind + 1) rest := by
  have stops : (c :: rest).head?.all isSeparator = true := separates
  have front := run.raised stops 0
  rw [Token.map_raised_zero, Nat.zero_add, Nat.add_zero] at front
  have whole := front.append (reads_separator separates behind rest)
  simpa using whole.continued [] []

/-- What stands behind a separator is read as it is read alone, further behind. -/
theorem tokenize_separated {front : String} (cut : tokenize front = .ok tokens)
    (separates : isSeparator c = true) (back : String) :
    tokenize (front ++ c.toString ++ back) =
      raisedBy (front.length + 1)
        (fun later => tokens ++ separatorTokens c front.length ++
          later.map (Token.raised (front.length + 1)))
        (tokenize back) := by
  obtain ⟨behind, run⟩ := Scan.tokenize_eq_ok_iff_reads.mp cut
  obtain rfl : behind = front.length := by
    rw [← String.length_toList]
    simpa using run.behind_eq
  obtain ⟨events, goesOn⟩ := exists_continued_separated run separates back.toList
  have moved := Scan.continued_raised (front.length + 1) 0
    (tokens ++ separatorTokens c front.length).reverse [] [] events back.toList
  rw [List.map_nil, List.nil_append, Nat.zero_add, List.reverse_reverse] at moved
  rw [Scan.tokenize_eq_result, Scan.tokenize_eq_result back, ← moved, ← goesOn]
  simp

/-! ### More blanks -/

namespace Split

/-- The same lexeme, with blanks added to those behind it. -/
def WidenedPart (part part' : List Char × List Char) : Prop :=
  part'.1 = part.1 ∧ part.2.Sublist part'.2 ∧ Blank part'.2

/-- The second split has the lexemes of the first and blanks added in front of them, between them
or behind them. -/
structure Widened (split split' : Split) : Prop where
  front : split.blanks.Sublist split'.blanks
  blank : Blank split'.blanks
  parts : List.Forall₂ WidenedPart split.parts split'.parts

variable {parts parts' : List (List Char × List Char)} {blanks blanks' lexeme : List Char}

/-- The same character stands in front, or a blank. -/
theorem head?_widened (wider : List.Forall₂ WidenedPart parts parts')
    (names : Names offset parts tokens) (more : blanks.Sublist blanks') (blank : Blank blanks') :
    (blanks' ++ written parts').head? = (blanks ++ written parts).head? ∨
      (blanks' ++ written parts').head?.all isSeparator = true := by
  cases blanks' with
  | cons c blanks' =>
    right
    have space : isSpace c = true := blank c List.mem_cons_self
    simp [isSeparator, space]
  | nil =>
    obtain rfl : blanks = [] := List.sublist_nil.mp more
    left
    cases wider with
    | nil => rfl
    | @cons part part' parts parts' first _ =>
      cases names with
      | cons spells _ _ =>
        obtain ⟨c, more, rfl⟩ := List.exists_cons_of_ne_nil spells.ne_nil
        obtain ⟨lexeme', blanks'⟩ := part'
        obtain ⟨rfl, -⟩ := first
        simp [written_cons]

/-- The lexemes of a widened split are the same, with the same tokens further behind. -/
theorem Names.widened (names : Names offset parts tokens)
    (wider : List.Forall₂ WidenedPart parts parts') (offset' : Nat) :
    ∃ tokens', Names offset' parts' tokens' ∧
      tokens'.map Token.content = tokens.map Token.content := by
  induction names generalizing offset' parts' with
  | nil =>
    cases wider
    exact ⟨[], .nil, rfl⟩
  | @cons offset lexeme blanks parts shown decoded tokens spells blank names ih =>
    cases wider with
    | @cons _ part' _ parts' first others =>
      obtain ⟨lexeme', blanks'⟩ := part'
      obtain ⟨rfl, more, blank'⟩ := first
      obtain ⟨tokens', names', same⟩ := ih others (offset' + lexeme'.length + blanks'.length)
      have spells' : Spells (blanks' ++ written parts').head? lexeme' shown decoded := by
        rcases head?_widened others names more blank' with unchanged | separates
        · rw [unchanged]
          exact spells
        · exact spells.separated separates
      refine ⟨⟨shown, decoded, offset'⟩ :: tokens', .cons spells' blank' names', ?_⟩
      rw [List.map_cons, List.map_cons, same]
      rfl

/-- A widened split of a source is a split of its own text. -/
theorem Of.widened {split split' : Split} {source : List Char} (isSplit : split.Of source tokens)
    (wider : split.Widened split') :
    ∃ tokens', split'.Of split'.text tokens' ∧
      tokens'.map Token.content = tokens.map Token.content := by
  obtain ⟨tokens', names, same⟩ := isSplit.names.widened wider.parts split'.blanks.length
  exact ⟨tokens', ⟨rfl, wider.blank, names⟩, same⟩

/-- A source with a split is cut into the tokens that the split names. -/
theorem Of.tokenize_eq {split : Split} {source : String} (isSplit : split.Of source.toList tokens) :
    tokenize source = .ok tokens := by
  have lexemes := isSplit.names.reads
  rw [← Nat.zero_add split.blanks.length] at lexemes
  rw [Scan.tokenize_eq_ok_iff_reads, ← isSplit.whole]
  exact ⟨_, (Reads.blanks isSplit.blank).append lexemes⟩

end Split

/-- Two texts with a separator between them are read one after the other: the tokens of the second,
or its fault, come out behind those of the first and of the separator, with every offset raised by
what stands in front.  Blanks put in front of, between or behind the lexemes of a source change
nothing but the offsets of its tokens. -/
theorem tokenize_around_separators :
    (∀ (front back : String) (c : Char) (tokens : List Token), tokenize front = .ok tokens →
      isSeparator c = true →
        (∀ later, tokenize back = .ok later →
          tokenize (front ++ c.toString ++ back) =
            .ok (tokens ++ separatorTokens c front.length ++
              later.map (Token.raised (front.length + 1)))) ∧
        ∀ fault, tokenize back = .error fault →
          tokenize (front ++ c.toString ++ back) = .error (fault.raised (front.length + 1))) ∧
    ∀ (source : String) (tokens : List Token), tokenize source = .ok tokens →
      ∃ split : Split, split.Of source.toList tokens ∧
        ∀ split', split.Widened split' →
          ∃ tokens', tokenize (String.ofList split'.text) = .ok tokens' ∧
            tokens'.map Token.content = tokens.map Token.content := by
  constructor
  · intro front back c tokens cut separates
    have joined := tokenize_separated cut separates back
    constructor
    · intro later read
      rw [joined, read, raisedBy_ok]
    · intro fault refused
      rw [joined, refused, raisedBy_error]
  · intro source tokens cut
    obtain ⟨behind, run⟩ := Scan.tokenize_eq_ok_iff_reads.mp cut
    obtain ⟨split, whole, blank, names⟩ := Split.exists_of_reads run rfl
    rw [Nat.zero_add] at names
    have isSplit : split.Of source.toList tokens := ⟨whole, blank, names⟩
    refine ⟨split, isSplit, ?_⟩
    intro split' wider
    obtain ⟨tokens', isSplit', same⟩ := isSplit.widened wider
    rw [← String.toList_ofList (l := split'.text)] at isSplit'
    exact ⟨tokens', isSplit'.tokenize_eq, same⟩

/-- A fault behind a comma, and a blank between a word and a string that touch. -/
theorem tokenize_around_comma_and_blank :
    tokenize "null,'x" = .error (.unclosedString 5) ∧
    ∃ tokens', tokenize "null 'x'" = .ok tokens' ∧
      tokens'.map Token.content = [("null", none), ("x", some (.text "x"))] := by
  have cut : tokenize "null" = .ok [⟨"null", none, 0⟩] := by decide +kernel
  have refused : tokenize "'x" = .error (.unclosedString 0) := by decide +kernel
  have touching : tokenize "null'x'" = .ok [⟨"null", none, 0⟩, ⟨"x", some (.text "x"), 4⟩] := by
    decide +kernel
  refine ⟨(tokenize_around_separators.1 "null" "'x" ',' _ cut rfl).2 _ refused, ?_⟩
  obtain ⟨split, isSplit, wider⟩ := tokenize_around_separators.2 _ _ touching
  have word : Spells (some '\x27') ['n', 'u', 'l', 'l'] "null" none :=
    .word rfl (List.all_eq_true.mp rfl) rfl
  have string : Spells none ['\x27', 'x', '\x27'] "x" (some (.text "x")) :=
    .string rfl (.cons (.raw (by decide) (by decide)) .nil)
  have parts : Split.Of ⟨[], [(['n', 'u', 'l', 'l'], []), (['\x27', 'x', '\x27'], [])]⟩
      "null'x'".toList [⟨"null", none, 0⟩, ⟨"x", some (.text "x"), 4⟩] :=
    ⟨rfl, by simp [Split.Blank], .cons word (by simp [Split.Blank])
      (.cons string (by simp [Split.Blank]) .nil)⟩
  obtain rfl := isSplit.unique parts
  exact wider ⟨[], [(['n', 'u', 'l', 'l'], [' ']), (['\x27', 'x', '\x27'], [])]⟩
    ⟨by simp, by simp [Split.Blank],
      by simp [Split.WidenedPart, Split.Blank, isSpace]⟩

end LiteralLang
