import LiteralLang.Proofs.CommandLine.Effects
import LiteralLang.Proofs.Host.Agreement
import LiteralLang.Proofs.Text.Quoted
import LiteralLang.Proofs.Token.Scan
import Mathlib.Data.List.Forall2

/-!
# The listing of tokens

A listing has one line for each token, whatever is in the texts of the tokens, and each line tells
the offset of its token in front of its first tab.  Offsets and texts of all the tokens can be read
off it, so sources with the same listing have the same tokens as far as these go.
-/

namespace LiteralLang.CommandLine

/-- The lines of a text.  The empty text has none. -/
def linesOf (text : String) : List (List Char) :=
  if text = "" then [] else text.toList.splitOn '\n'

/-- What the line has in front of its first tab is the offset of the token. -/
def TellsOffset (line : List Char) (token : Token) : Prop :=
  '\t' ∈ line ∧ line.takeWhile (· != '\t') = token.offset.repr.toList

/-- The text has a line for each of the tokens, in their order, with greater and greater offsets. -/
structure Lists (listing : String) (tokens : List Token) : Prop where
  empty : listing = "" ↔ tokens = []
  lines : List.Forall₂ TellsOffset (linesOf listing) tokens
  increasing : tokens.Pairwise fun earlier later => earlier.offset < later.offset

/-- The offset and the text of a token. -/
def place (token : Token) : Nat × String := (token.offset, token.text)

variable {token token' : Token} {tokens tokens' : List Token}

/-! ### Lines -/

theorem toList_tokenLine (token : Token) : (tokenLine token).toList =
    token.offset.repr.toList ++ '\t' :: (Text.escaped token.text).toList := by
  rw [tokenLine, String.toList_append, String.toList_append, List.append_assoc]
  rfl

theorem isDigit_of_mem_repr {n : Nat} {c : Char} (member : c ∈ n.repr.toList) :
    c.isDigit = true := by
  rw [Nat.toList_repr] at member
  exact Nat.isDigit_of_mem_toDigits (by decide) (by decide) member

theorem tab_not_in_repr (n : Nat) : ∀ c ∈ n.repr.toList, (c != '\t') = true := by
  intro c member
  rw [bne_iff_ne]
  rintro rfl
  exact absurd (isDigit_of_mem_repr member) (by decide)

theorem tellsOffset_tokenLine (token : Token) : TellsOffset (tokenLine token).toList token := by
  rw [TellsOffset, toList_tokenLine]
  refine ⟨by simp, ?_⟩
  exact Text.takeWhile_append_eq (tab_not_in_repr token.offset) rfl

theorem newline_not_mem_tokenLine (token : Token) : '\n' ∉ (tokenLine token).toList := by
  rw [toList_tokenLine, List.mem_append, List.mem_cons, not_or, not_or]
  refine ⟨?_, by decide, (Text.escaped_toList token.text).newline_not_mem⟩
  intro member
  exact absurd (isDigit_of_mem_repr member) (by decide)

/-- A line tells the offset and the text of its token. -/
theorem tokenLine_eq_iff : tokenLine token = tokenLine token' ↔ place token = place token' := by
  constructor
  · intro same
    have whole := congrArg String.toList same
    rw [toList_tokenLine, toList_tokenLine] at whole
    have front := congrArg (List.takeWhile (· != '\t')) whole
    rw [Text.takeWhile_append_eq (tab_not_in_repr token.offset) rfl,
      Text.takeWhile_append_eq (tab_not_in_repr token'.offset) rfl] at front
    rw [front] at whole
    have behind := (List.cons.inj (List.append_cancel_left whole)).2
    have text : token.text = token'.text := Text.escaped_injective (String.toList_inj.mp behind)
    have offset : token.offset = token'.offset := by
      have value := congrArg (Nat.ofDigitChars 10 · 0) front
      simpa only [Nat.toList_repr, Nat.ofDigitChars_ten_toDigits] using value
    rw [place, place, offset, text]
  · intro same
    obtain ⟨offset, text⟩ := Prod.mk.inj same
    rw [tokenLine, tokenLine, offset, text]

/-- No line is lost, and none is cut. -/
theorem linesOf_tokenListing (tokens : List Token) :
    linesOf (tokenListing tokens) = (tokens.map tokenLine).map String.toList := by
  cases tokens with
  | nil => rfl
  | cons token tokens =>
    have uncut : ∀ line ∈ ((token :: tokens).map tokenLine).map String.toList, '\n' ∉ line := by
      simp only [List.forall_mem_map]
      exact fun token _ => newline_not_mem_tokenLine token
    have lines := List.splitOn_intercalate '\n' uncut (by simp)
    rw [show ['\n'] = "\n".toList from rfl, ← String.toList_intercalate, ← tokenListing] at lines
    have nonempty : tokenListing (token :: tokens) ≠ "" := by
      intro empty
      rw [empty] at lines
      have first := (tellsOffset_tokenLine token).1
      rw [← (List.cons.inj lines).1] at first
      exact List.not_mem_nil first
    rw [linesOf, if_neg nonempty, lines]

/-- Listings are the same for tokens of the same offsets and texts only. -/
theorem tokenListing_eq_iff :
    tokenListing tokens = tokenListing tokens' ↔ tokens.map place = tokens'.map place := by
  have sameLines : tokenListing tokens = tokenListing tokens' ↔
      tokens.map tokenLine = tokens'.map tokenLine := by
    constructor
    · intro same
      have lines := congrArg linesOf same
      rw [linesOf_tokenListing, linesOf_tokenListing] at lines
      exact List.map_injective_iff.mpr (fun _ _ => String.toList_inj.mp) lines
    · intro same
      rw [tokenListing, tokenListing, same]
  rw [sameLines, ← List.forall₂_eq_eq_eq, ← List.forall₂_eq_eq_eq]
  simp only [List.forall₂_map_left_iff, List.forall₂_map_right_iff, tokenLine_eq_iff]

theorem tokenListing_eq_empty_iff : tokenListing tokens = "" ↔ tokens = [] := by
  have same := @tokenListing_eq_iff tokens []
  rw [List.map_nil, List.map_eq_nil_iff] at same
  exact same

theorem lists_tokenListing {source : String} (cut : tokenize source = .ok tokens) :
    Lists (tokenListing tokens) tokens := by
  obtain ⟨behind, run⟩ := Scan.tokenize_eq_ok_iff_reads.mp cut
  refine ⟨tokenListing_eq_empty_iff, ?_, run.pairwise_offset⟩
  rw [linesOf_tokenListing, List.forall₂_map_left_iff, List.forall₂_map_left_iff, List.forall₂_same]
  exact fun token _ => tellsOffset_tokenLine token

/-! ### Runs -/

/-- A run of the program that is asked for the tokens of a source text. -/
structure ListingRun (source : String) where
  directory : Directory
  input : ByteArray
  filter : Option String
  arguments : List String
  settings : Settings
  options : CompileOptions
  asked : request arguments = .ok (.perform .tokens settings)
  prepared : (ready directory input settings).result = .ok (options, source)

namespace ListingRun

variable {source source' : String}

/-- The run without flags. -/
def plain (directory : Directory) (filter : Option String) (source : String) :
    ListingRun source where
  directory := directory
  input := source.toUTF8
  filter := filter
  arguments := ["tokens"]
  settings := .empty
  options := .standard
  asked := rfl
  prepared := ready_standard directory source

/-- What the run leaves behind. -/
def outcome (run : ListingRun source) : Report × Directory :=
  runIn run.directory run.input run.filter run.arguments

/-- The text is what the run puts out: on standard output, with a line end behind it, or where its
flag for the output leads to, if it can be written there. -/
def PutsOut (run : ListingRun source) (text : String) : Prop :=
  match run.settings.output with
  | none => run.outcome.1.exitCode = 0 ∧ run.outcome.1.output = text ++ "\n"
  | some path => run.outcome.1.exitCode = 0 → DeliveredTo run.directory path text run.outcome

theorem putsOut_tokenListing (run : ListingRun source) (cut : tokenize source = .ok tokens) :
    run.PutsOut (tokenListing tokens) := by
  have scanned : (scan source).result = .ok tokens := cut
  have made : (Action.tokens.perform run.options source).result = .ok (tokenListing tokens) := by
    simp [Action.perform, scanned]
  obtain ⟨events, ran⟩ := @runIn_of_ready run.directory run.input run.filter _ _ _ _ _ run.asked
    run.prepared
  rw [made] at ran
  rw [PutsOut, outcome, ran]
  cases run.settings.output with
  | none => exact ⟨rfl, rfl⟩
  | some path => exact deliveredTo_deliveryIn

end ListingRun

/-- Whatever a source text has in its strings, a run puts out one line for each of its tokens, in
their order, which tells the offset of the token in front of its first tab, and the offsets grow
from line to line.  Two runs put out the same listing exactly if the tokens of their sources have
the same offsets and texts. -/
theorem tokens_listed_by_line {source source' : String} (run : ListingRun source)
    (run' : ListingRun source') (cut : tokenize source = .ok tokens)
    (cut' : tokenize source' = .ok tokens') :
    ∃ listing listing',
      (run.PutsOut listing ∧ Lists listing tokens) ∧
      (run'.PutsOut listing' ∧ Lists listing' tokens') ∧
      (listing = listing' ↔ tokens.map place = tokens'.map place) :=
  ⟨tokenListing tokens, tokenListing tokens',
    ⟨run.putsOut_tokenListing cut, lists_tokenListing cut⟩,
    ⟨run'.putsOut_tokenListing cut', lists_tokenListing cut'⟩,
    tokenListing_eq_iff⟩

/-- A line end in a string, and a string that reads like its escape. -/
theorem tokens_listed_by_line_newline_and_escape :
    ∃ listing listing',
      ((ListingRun.plain ⟨[]⟩ none "\"\n\"").PutsOut listing ∧
        Lists listing [⟨"\n", some (.text "\n"), 0⟩]) ∧
      ((ListingRun.plain ⟨[]⟩ none "\"\\\\n\"").PutsOut listing' ∧
        Lists listing' [⟨"\\n", some (.text "\\n"), 0⟩]) ∧
      listing ≠ listing' := by
  have newline : tokenize "\"\n\"" = .ok [⟨"\n", some (.text "\n"), 0⟩] :=
    Scan.tokenize_eq_ok_iff_reads.mpr
      ⟨3, .single (.string rfl (.cons (.raw (by decide) (by decide)) .nil))⟩
  have escape : tokenize "\"\\\\n\"" = .ok [⟨"\\n", some (.text "\\n"), 0⟩] :=
    Scan.tokenize_eq_ok_iff_reads.mpr
      ⟨5, .single (.string rfl
        (.cons (.escape (by decide)) (.cons (.raw (by decide) (by decide)) .nil)))⟩
  obtain ⟨listing, listing', first, second, same⟩ :=
    tokens_listed_by_line (.plain ⟨[]⟩ none "\"\n\"") (.plain ⟨[]⟩ none "\"\\\\n\"") newline escape
  exact ⟨listing, listing', first, second, same.not.mpr (by decide)⟩

end LiteralLang.CommandLine
