import LiteralLang.Proofs.Token.Scan

/-!
# Splits of a source text

A `Split` cuts a source text into blanks and lexemes.  A text is accepted by `tokenize` exactly if
it has a split, the split is unique, and it names every token together with its offset: nothing of
the text is lost, and nothing is read twice.
-/

namespace LiteralLang

open Lexeme (isSpace Spells lexeme_of_spells)
open Scan (Reads)

/-- Blanks in front, and lexemes with the blanks behind each. -/
structure Split where
  blanks : List Char
  parts : List (List Char × List Char)

namespace Split

/-- The text of lexemes and the blanks behind them. -/
def written (parts : List (List Char × List Char)) : List Char :=
  parts.flatMap fun (lexeme, blanks) => lexeme ++ blanks

/-- The whole text of a split. -/
def text (split : Split) : List Char := split.blanks ++ written split.parts

/-- Nothing but blanks. -/
def Blank (text : List Char) : Prop := ∀ c ∈ text, isSpace c = true

/-- From the given offset on the parts are lexemes and blanks, and the tokens are those of the
lexemes, each with the offset of its lexeme. -/
inductive Names : (offset : Nat) → List (List Char × List Char) → List Token → Prop
  | nil {offset} : Names offset [] []
  | cons {offset lexeme blanks parts shown decoded tokens} :
      Spells (blanks ++ written parts).head? lexeme shown decoded → Blank blanks →
      Names (offset + lexeme.length + blanks.length) parts tokens →
      Names offset ((lexeme, blanks) :: parts) (⟨shown, decoded, offset⟩ :: tokens)

/-- The split is one of the given source, with the given tokens. -/
structure Of (split : Split) (source : List Char) (tokens : List Token) : Prop where
  whole : split.text = source
  blank : Blank split.blanks
  names : Names split.blanks.length split.parts tokens

variable {offset offset' behind : Nat} {source run blanks rest lexeme : List Char}
  {parts parts' : List (List Char × List Char)} {tokens tokens' : List Token}
  {split split' : Split}

theorem written_cons :
    written ((lexeme, blanks) :: parts) = lexeme ++ (blanks ++ written parts) := by
  rw [written, List.flatMap_cons, List.append_assoc]
  rfl

/-- Lexemes begin behind all the blanks in front of them. -/
theorem Names.head_not_blank (names : Names offset parts tokens) :
    (written parts).head?.any isSpace = false := by
  cases names with
  | nil => rfl
  | cons spells _ _ =>
    obtain ⟨c, part, rfl⟩ := List.exists_cons_of_ne_nil spells.ne_nil
    rw [written_cons, List.cons_append, List.head?_cons, Option.any_some, spells.head_not_isSpace]

/-! ### Uniqueness -/

/-- Blanks are all blanks up to the next lexeme. -/
theorem blanks_unique (blank : Blank run) (blank' : Blank blanks)
    (names : Names offset parts tokens) (names' : Names offset' parts' tokens')
    (same : run ++ written parts = blanks ++ written parts') :
    run = blanks ∧ written parts = written parts' := by
  have taken := congrArg (List.takeWhile isSpace) same
  rw [Text.takeWhile_append_eq blank names.head_not_blank,
    Text.takeWhile_append_eq blank' names'.head_not_blank] at taken
  subst taken
  exact ⟨rfl, List.append_cancel_left same⟩

/-- Two lexemes that the same text begins with are the same. -/
theorem lexeme_unique {lexeme lexeme' tail tail' : List Char} {shown shown' : String}
    {decoded decoded' : Option Decoded} (spells : Spells tail.head? lexeme shown decoded)
    (spells' : Spells tail'.head? lexeme' shown' decoded')
    (same : lexeme ++ tail = lexeme' ++ tail') : lexeme = lexeme' ∧ tail = tail' := by
  obtain ⟨c, part, rfl⟩ := List.exists_cons_of_ne_nil spells.ne_nil
  obtain ⟨c', part', rfl⟩ := List.exists_cons_of_ne_nil spells'.ne_nil
  obtain ⟨rfl, -⟩ := List.cons.inj same
  have behind : part ++ tail = part' ++ tail' := (List.cons.inj same).2
  obtain ⟨event, read⟩ := lexeme_of_spells spells 0
  obtain ⟨event', read'⟩ := lexeme_of_spells spells' 0
  -- the scanner decides how long the lexeme is
  rw [behind, read'] at read
  have long : part'.length = part.length := (Lexeme.mk.inj (Except.ok.inj read)).2.1
  obtain ⟨rfl, rfl⟩ := List.append_inj behind long.symm
  exact ⟨rfl, rfl⟩

theorem parts_unique (names : Names offset parts tokens) (names' : Names offset' parts' tokens')
    (same : written parts = written parts') : parts = parts' := by
  induction names generalizing offset' parts' tokens' with
  | nil =>
    cases names' with
    | nil => rfl
    | cons spells' _ _ =>
      rw [written_cons] at same
      exact absurd (List.append_eq_nil_iff.mp same.symm).1 spells'.ne_nil
  | cons spells blank names ih =>
    cases names' with
    | nil =>
      rw [written_cons] at same
      exact absurd (List.append_eq_nil_iff.mp same).1 spells.ne_nil
    | cons spells' blank' names' =>
      rw [written_cons, written_cons] at same
      obtain ⟨rfl, behind⟩ := lexeme_unique spells spells' same
      obtain ⟨rfl, later⟩ := blanks_unique blank blank' names names' behind
      rw [ih names' later]

theorem Of.unique (first : split.Of source tokens) (second : split'.Of source tokens') :
    split = split' := by
  obtain ⟨blanks, parts⟩ := split
  obtain ⟨blanks', parts'⟩ := split'
  obtain ⟨sameBlanks, later⟩ := blanks_unique first.blank second.blank first.names second.names
    (first.whole.trans second.whole.symm)
  have sameParts := parts_unique first.names second.names later
  exact congrArg₂ Split.mk sameBlanks sameParts

/-! ### Splits and runs -/

theorem Names.reads (names : Names offset parts tokens) :
    Reads offset (written parts) tokens (offset + (written parts).length) [] := by
  induction names with
  | nil => exact .done
  | @cons offset lexeme blanks parts shown decoded tokens spells blank _ ih =>
    have run := (Reads.single spells).append ((Reads.blanks blank).append ih)
    rw [written_cons, List.length_append, List.length_append, ← Nat.add_assoc, ← Nat.add_assoc]
    exact run

theorem exists_of_reads (run : Reads offset source tokens behind rest) (whole : rest = []) :
    ∃ split : Split, split.text = source ∧ Blank split.blanks ∧
      Names (offset + split.blanks.length) split.parts tokens := by
  induction run with
  | done =>
    subst whole
    exact ⟨⟨[], []⟩, rfl, by simp [Blank], .nil⟩
  | @blank offset c text tokens behind rest space _ ih =>
    obtain ⟨⟨blanks, parts⟩, rfl, blank, names⟩ := ih whole
    refine ⟨⟨c :: blanks, parts⟩, rfl, List.forall_mem_cons.mpr ⟨space, blank⟩, ?_⟩
    rwa [List.length_cons, Nat.add_comm blanks.length, ← Nat.add_assoc]
  | @lexeme offset c part tail shown decoded tokens behind rest spells _ ih =>
    obtain ⟨⟨blanks, parts⟩, rfl, blank, names⟩ := ih whole
    refine ⟨⟨[], (c :: part, blanks) :: parts⟩, written_cons, by simp [Blank],
      .cons spells blank ?_⟩
    have place : offset + (c :: part).length = offset + 1 + part.length := by
      rw [List.length_cons]
      omega
    change Names (offset + (c :: part).length + blanks.length) parts tokens
    rwa [place]

/-- A source is cut into tokens exactly if it has a split, with the tokens that the split names, and
it has one split at most. -/
theorem tokenize_eq_ok_iff_split (source : String) :
    (∀ tokens, tokenize source = .ok tokens ↔ ∃ split : Split, split.Of source.toList tokens) ∧
      ∀ (split split' : Split) (tokens tokens' : List Token),
        split.Of source.toList tokens → split'.Of source.toList tokens' → split = split' := by
  constructor
  · intro tokens
    rw [Scan.tokenize_eq_ok_iff_reads]
    constructor
    · rintro ⟨behind, run⟩
      obtain ⟨split, whole, blank, names⟩ := exists_of_reads run rfl
      rw [Nat.zero_add] at names
      exact ⟨split, whole, blank, names⟩
    · rintro ⟨split, whole, blank, names⟩
      have lexemes := names.reads
      rw [← Nat.zero_add split.blanks.length] at lexemes
      rw [← whole]
      exact ⟨_, (Reads.blanks blank).append lexemes⟩
  · intro split split' tokens tokens' first second
    exact first.unique second

end Split

end LiteralLang
