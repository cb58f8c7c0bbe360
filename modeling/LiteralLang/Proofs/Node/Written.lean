import LiteralLang.Callable
import LiteralLang.Proofs.Decimal.Layout
import LiteralLang.Proofs.Node.Build
import LiteralLang.Proofs.Token.Scan

/-!
# Written trees

Printed source and generated code write a tree in the same way: literals by some spelling, arrays in
brackets with a comma and blanks between the elements.  If every literal is spelled so that its text
is one token again, the written tree compiles back to the tree.
-/

namespace LiteralLang

open Lexeme (Spells StringItem StringItems isSpace)
open Scan (Reads)

/-! ### Spelled literals -/

/-- What may stand behind a literal: a comma, a closing bracket or the end. -/
def Stops (next : Option Char) : Prop := next = none ∨ next = some ',' ∨ next = some ']'

/-- The text is one token that stands for the literal. -/
def Denotes (text : String) (value : Scalar) : Prop :=
  ∀ next, Stops next → ∃ shown decoded, Spells next text.toList shown decoded ∧
    ∀ offset, Token.Shows ⟨shown, decoded, offset⟩ (.literal value)

variable {offset : Nat} {next : Option Char} {rest : List Char} {text : String} {value : Scalar}

theorem Stops.not_isWordPart (stops : Stops next) : next.any Lexeme.isWordPart = false := by
  rcases stops with rfl | rfl | rfl <;> rfl

theorem Stops.not_isNumberPart (stops : Stops next) : next.any Lexeme.isNumberPart = false := by
  rcases stops with rfl | rfl | rfl <;> rfl

/-- A word is a lexeme. -/
theorem spells_word {word : String}
    (isWord : ∃ c part, word.toList = c :: part ∧ Lexeme.isWordStart c = true ∧
      part.all Lexeme.isWordPart = true)
    (stops : Stops next) : Spells next word.toList word none := by
  obtain ⟨c, part, spelled, begins, inside⟩ := isWord
  have spells := Spells.word begins (List.all_eq_true.mp inside) stops.not_isWordPart
  rwa [← spelled, String.ofList_toList] at spells

theorem denotes_null : Denotes "null" .null := by
  intro next stops
  refine ⟨_, _, spells_word ⟨'n', ['u', 'l', 'l'], by decide⟩ stops, ?_⟩
  intro offset
  exact .plain rfl (by simp) (by simp)

theorem denotes_boolean (value : Bool) :
    Denotes (if value then "true" else "false") (.boolean value) := by
  intro next stops
  cases value with
  | true =>
    refine ⟨_, _, spells_word ⟨'t', ['r', 'u', 'e'], by decide⟩ stops, ?_⟩
    intro offset
    exact .plain rfl (by simp) (by simp)
  | false =>
    refine ⟨_, _, spells_word ⟨'f', ['a', 'l', 's', 'e'], by decide⟩ stops, ?_⟩
    intro offset
    exact .plain rfl (by simp) (by simp)

/-- A finite number without a sign is its plain text. -/
theorem denotes_number {x : Binary64} (words : SpecialWords) (finite : x.isFinite = true)
    (positive : x.negative = false) : Denotes (x.plainText words) (.number x) := by
  intro next stops
  obtain ⟨d, numeral, nearest⟩ := x.exists_numeral_plainText words finite positive
  refine ⟨_, _, .number numeral stops.not_isNumberPart, ?_⟩
  intro offset
  apply Token.Shows.plain
  · rw [nearest]
    rfl
  · simp
  · intro same
    obtain rfl : x = .infinity := by simpa using same
    exact absurd finite (by decide)

/-- Infinity is a word without a meaning. -/
theorem denotes_infinity : Denotes "Infinity" (.number .infinity) := by
  intro next stops
  refine ⟨_, _, spells_word ⟨'I', ['n', 'f', 'i', 'n', 'i', 't', 'y'], by decide⟩ stops, ?_⟩
  intro offset
  exact .infinity rfl rfl

/-- A string is its text, character by character, in double quotes. -/
theorem denotes_text {spelling : Char → List Char} (each : ∀ c, StringItem '"' (spelling c) c)
    (text : String) :
    Denotes (String.ofList ('"' :: (text.toList.flatMap spelling ++ ['"']))) (.text text) := by
  intro next _
  have spells : Spells next _ _ _ := .string rfl (StringItems.flatMap each text.toList)
  rw [String.ofList_toList] at spells
  rw [String.toList_ofList]
  refine ⟨_, _, spells, ?_⟩
  intro offset
  exact .plain rfl (by simp) (by simp)

/-! ### Runs over written text -/

/-- In front of the rest the text is read as tokens that play the given parts. -/
def Conveys (text rest : List Char) (symbols : List Symbol) : Prop :=
  ∀ offset, ∃ tokens behind, Reads offset (text ++ rest) tokens behind rest ∧
    List.Forall₂ Token.Shows tokens symbols

theorem Conveys.append {front back rest : List Char} {symbols more : List Symbol}
    (first : Conveys front (back ++ rest) symbols) (second : Conveys back rest more) :
    Conveys (front ++ back) rest (symbols ++ more) := by
  intro offset
  obtain ⟨tokens, middle, run, shows⟩ := first offset
  obtain ⟨later, behind, run', shows'⟩ := second middle
  rw [List.append_assoc]
  exact ⟨tokens ++ later, behind, run.append run', List.rel_append shows shows'⟩

theorem Conveys.blanks {blanks : List Char} (blank : ∀ c ∈ blanks, isSpace c = true) :
    Conveys blanks rest [] := by
  intro offset
  exact ⟨[], _, .blanks blank, .nil⟩

theorem Conveys.literal (denotes : Denotes text value) (stops : Stops rest.head?) :
    Conveys text.toList rest [.literal value] := by
  intro offset
  obtain ⟨shown, decoded, spells, shows⟩ := denotes rest.head? stops
  exact ⟨_, _, .single spells, .cons (shows offset) .nil⟩

/-- A bracket or a comma is a token of its own. -/
theorem Conveys.punctuation {mark : Char} (which : mark = '[' ∨ mark = ']' ∨ mark = ',') :
    Conveys [mark] rest [Symbol.ofWord (String.ofList [mark])] := by
  intro offset
  refine ⟨_, _, .single (.punctuation which), .cons (.plain rfl ?_ ?_) .nil⟩
  · rcases which with rfl | rfl | rfl <;> decide
  · rcases which with rfl | rfl | rfl <;> decide

/-! ### Writing a tree -/

namespace Node

mutual

/-- A tree as text, by the spelling of its literals and what stands between elements. -/
def written (separator : String) (spell : Scalar → String) : Node → String
  | .program body => body.written separator spell
  | .literal value => spell value
  | .array elements =>
      "[" ++ separator.intercalate (writtenAll separator spell elements) ++ "]"

/-- Several trees as texts. -/
def writtenAll (separator : String) (spell : Scalar → String) : List Node → List String
  | [] => []
  | element :: rest => element.written separator spell :: writtenAll separator spell rest

end

variable {separator : String} {spell : Scalar → String} {tree element : Node}
  {elements : List Node} {blanks : List Char}

theorem writtenAll_eq_map (elements : List Node) :
    writtenAll separator spell elements = elements.map (written separator spell) := by
  induction elements with
  | nil => rfl
  | cons element elements ih => rw [writtenAll, ih, List.map_cons]

theorem toList_written_array :
    ((array elements).written separator spell).toList =
      ['['] ++ (separator.toList.intercalate
        (elements.map fun element => (element.written separator spell).toList) ++ [']']) := by
  rw [written, String.toList_append, String.toList_append, String.toList_intercalate,
    writtenAll_eq_map, List.map_map]
  rfl

/-- Elements with separators between them are read one after the other. -/
theorem conveys_elements (separates : separator.toList = [','] ++ blanks)
    (blank : ∀ c ∈ blanks, isSpace c = true)
    (each : ∀ element ∈ elements, ∀ rest, Stops rest.head? →
      ∃ symbols, Conveys (element.written separator spell).toList rest symbols ∧
        Derives symbols element)
    (stops : Stops rest.head?) :
    ∃ parts, Conveys (separator.toList.intercalate
        (elements.map fun element => (element.written separator spell).toList)) rest
        ([.comma].intercalate parts) ∧
      List.Forall₂ Derives parts elements := by
  induction elements with
  | nil => exact ⟨[], .blanks (by simp), .nil⟩
  | cons element elements ih =>
    rw [List.forall_mem_cons] at each
    cases elements with
    | nil =>
      obtain ⟨symbols, conveys, derives⟩ := each.1 rest stops
      refine ⟨[symbols], ?_, .cons derives .nil⟩
      rwa [List.map_singleton, List.intercalate_singleton, List.intercalate_singleton]
    | cons second elements =>
      obtain ⟨parts, later, derived⟩ := ih each.2
      have between {behind : List Char} : Conveys separator.toList behind [.comma] := by
        have comma : Conveys [','] (blanks ++ behind) [.comma] :=
          .punctuation (Or.inr (Or.inr rfl))
        rw [separates]
        exact comma.append (.blanks blank)
      obtain ⟨symbols, conveys, derives⟩ := each.1
        (separator.toList ++ separator.toList.intercalate ((second :: elements).map
          fun element => (element.written separator spell).toList) ++ rest)
        (by rw [separates]; exact Or.inr (Or.inl rfl))
      cases derived with
      | @cons part _ parts _ first others =>
        refine ⟨symbols :: part :: parts, ?_, .cons derives (.cons first others)⟩
        rw [List.map_cons, List.map_cons, List.intercalate_cons_cons, List.intercalate_cons_cons,
          List.append_assoc, List.append_assoc]
        exact conveys.append (between.append later)

/-- A written tree is read as symbols that derive the tree. -/
theorem conveys_written (separates : separator.toList = [','] ++ blanks)
    (blank : ∀ c ∈ blanks, isSpace c = true)
    (spelled : ∀ value ∈ tree.literals, Denotes (spell value) value)
    (plain : tree.hasProgram = false) (stops : Stops rest.head?) :
    ∃ symbols, Conveys (tree.written separator spell).toList rest symbols ∧
      Derives symbols tree := by
  induction tree generalizing rest with
  | program => exact absurd plain (by simp [hasProgram])
  | literal value =>
    exact ⟨_, .literal (spelled value (by simp [literals])) stops, .literal⟩
  | array elements ih =>
    rw [hasProgram_array] at plain
    have each : ∀ element ∈ elements, ∀ rest, Stops rest.head? →
        ∃ symbols, Conveys (element.written separator spell).toList rest symbols ∧
          Derives symbols element := by
      intro element member rest stops
      apply ih element member
      · intro value literal
        exact spelled value (mem_literals_array.mpr ⟨element, member, literal⟩)
      · exact plain element member
      · exact stops
    have inside : Stops ([']'] ++ rest).head? := Or.inr (Or.inr rfl)
    obtain ⟨parts, conveys, derived⟩ := conveys_elements separates blank each inside
    have opening {behind : List Char} : Conveys ['['] behind [.opening] := .punctuation (Or.inl rfl)
    have closing : Conveys [']'] rest [.closing] := .punctuation (Or.inr (Or.inl rfl))
    have derives := Derives.array derived (Or.inl rfl)
    rw [List.append_nil] at derives
    rw [toList_written_array]
    exact ⟨_, opening.append (conveys.append closing), derives⟩

end Node

/-! ### Compiling -/

theorem compileWith_eq (options : CompileOptions) (source : String) :
    compileWith options source = tokenize source >>= fun tokens =>
      Node.ofTokens options tokens >>= fun tree => .ok ⟨tree⟩ := by
  rw [compileWith, compilation]
  simp only [Logged.result_bind, Logged.result_report, Logged.result_pure, Result.ok_bind]
  rfl

/-- A written tree compiles to itself, unless a literal is infinite. -/
theorem compileWith_written {separator : String} {spell : Scalar → String} {tree : Node}
    {blanks : List Char} {options : CompileOptions} (separates : separator.toList = [','] ++ blanks)
    (blank : ∀ c ∈ blanks, isSpace c = true)
    (spelled : ∀ value ∈ tree.literals, Denotes (spell value) value)
    (plain : tree.hasProgram = false) (room : tree.depth ≤ options.effectiveMaxDepth) :
    compileWith options (tree.written separator spell) =
      if .number .infinity ∈ tree.literals
      then .error (.unexpectedToken .literal (some "Infinity")) else .ok ⟨.program tree⟩ := by
  obtain ⟨symbols, conveys, derives⟩ :=
    Node.conveys_written separates blank spelled plain (Or.inl (List.head?_nil))
  obtain ⟨tokens, behind, run, shows⟩ := conveys 0
  rw [List.append_nil] at run
  rw [compileWith_eq, Scan.tokenize_eq_ok_iff_reads.mpr ⟨behind, run⟩, Result.ok_bind,
    Node.ofTokens_of_shows derives shows room]
  split <;> rfl

end LiteralLang
