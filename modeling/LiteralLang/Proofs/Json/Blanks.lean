import LiteralLang.Json
import LiteralLang.Proofs.Decimal.Layout
import LiteralLang.Proofs.Text.Inert

/-!
# Blanks in JSON

The two written forms of a document differ in blanks alone: without the blanks that stand outside of
strings, the indented form is the compact one.
-/

namespace LiteralLang.Json

/-! ### Text without blanks -/

/-- Where a character of JSON text stands. -/
inductive Position where
  | outside
  | inString
  | behindBackslash
  deriving DecidableEq

/-- The position behind a character. -/
def Position.behind (position : Position) (c : Char) : Position :=
  match position with
  | .outside => if c = '"' then .inString else .outside
  | .inString =>
      if c = '"' then .outside else if c = '\\' then .behindBackslash else .inString
  | .behindBackslash => .inString

def isBlank (c : Char) : Bool := c == ' ' || c == '\n' || c == '\r' || c == '\t'

/-- Text from a position on without the blanks outside of strings. -/
def withoutBlanksFrom (position : Position) : List Char → List Char
  | [] => []
  | c :: rest =>
      if position = .outside ∧ isBlank c = true then withoutBlanksFrom position rest
      else c :: withoutBlanksFrom (position.behind c) rest

/-- Text without the blanks outside of strings. -/
def withoutBlanks (text : String) : String :=
  String.ofList (withoutBlanksFrom .outside text.toList)

/-- Of the text, which ends outside of strings if it begins there, some text is left. -/
def Leaves (text left : List Char) : Prop :=
  ∀ rest, withoutBlanksFrom .outside (text ++ rest) = left ++ withoutBlanksFrom .outside rest

variable {a b left left' text : List Char}

theorem leaves_nil : Leaves [] [] := fun _ => rfl

theorem Leaves.append (first : Leaves a left) (second : Leaves b left') :
    Leaves (a ++ b) (left ++ left') := by
  intro rest
  rw [List.append_assoc, first, second, List.append_assoc]

theorem leaves_blanks (blanks : ∀ c ∈ text, isBlank c = true) : Leaves text [] := by
  intro rest
  induction text with
  | nil => rfl
  | cons c text ih =>
    rw [List.forall_mem_cons] at blanks
    rw [List.cons_append, withoutBlanksFrom, if_pos ⟨rfl, blanks.1⟩]
    exact ih blanks.2

/-- Text that has neither blanks nor quotes. -/
def Solid (text : List Char) : Prop := ∀ c ∈ text, isBlank c = false ∧ c ≠ '"'

instance : DecidablePred Solid := List.decidableBAll fun c => isBlank c = false ∧ c ≠ '"'

theorem Solid.leaves (solid : Solid text) : Leaves text text := by
  intro rest
  induction text with
  | nil => rfl
  | cons c text ih =>
    obtain ⟨⟨visible, noQuote⟩, solid⟩ := List.forall_mem_cons.mp solid
    rw [List.cons_append, withoutBlanksFrom, if_neg (by simp [visible]), Position.behind,
      if_neg noQuote, ih solid, List.cons_append]

/-! ### Scalars -/

/-- In a string everything is left up to the next quote or backslash. -/
theorem withoutBlanksFrom_inString (plain : ∀ c ∈ text, c ≠ '"' ∧ c ≠ '\\') (rest : List Char) :
    withoutBlanksFrom .inString (text ++ rest) = text ++ withoutBlanksFrom .inString rest := by
  induction text with
  | nil => rfl
  | cons c text ih =>
    obtain ⟨⟨noQuote, noBackslash⟩, plain⟩ := List.forall_mem_cons.mp plain
    rw [List.cons_append, withoutBlanksFrom, if_neg (by simp), Position.behind]
    simp only [if_neg noQuote, if_neg noBackslash]
    rw [ih plain, List.cons_append]

/-- A backslash and the character behind it are left as they are. -/
theorem withoutBlanksFrom_escape (c : Char) (rest : List Char) :
    withoutBlanksFrom .inString ('\\' :: c :: rest) =
      '\\' :: c :: withoutBlanksFrom .inString rest := by
  simp [withoutBlanksFrom, Position.behind]

theorem withoutBlanksFrom_spelling (c : Char) (rest : List Char) :
    withoutBlanksFrom .inString (spelling c ++ rest) =
      spelling c ++ withoutBlanksFrom .inString rest := by
  fun_cases spelling c with
  | case8 c notQuote notBackslash =>
    have plain : ∀ d ∈ Text.hexUnit c.toNat, d ≠ '"' ∧ d ≠ '\\' := by
      intro d member
      have alphanum := (Text.isLowerHex_of_mem_hexUnit member).isAlphanum
      constructor
      all_goals
        rintro rfl
        exact absurd alphanum (by decide)
    rw [List.cons_append, List.cons_append, withoutBlanksFrom_escape,
      withoutBlanksFrom_inString plain, List.cons_append, List.cons_append]
  | case9 c notQuote notBackslash =>
    exact withoutBlanksFrom_inString (List.forall_mem_singleton.mpr ⟨notQuote, notBackslash⟩) rest
  | _ => exact withoutBlanksFrom_escape _ rest

theorem leaves_quoted (text : String) : Leaves (quoted text).toList (quoted text).toList := by
  have inside : ∀ rest, withoutBlanksFrom .inString (text.toList.flatMap spelling ++ rest) =
      text.toList.flatMap spelling ++ withoutBlanksFrom .inString rest := by
    intro rest
    induction text.toList with
    | nil => rfl
    | cons c text ih =>
      rw [List.flatMap_cons, List.append_assoc, withoutBlanksFrom_spelling, ih, List.append_assoc]
  intro rest
  have opening : withoutBlanksFrom .outside ('"' :: (text.toList.flatMap spelling ++ '"' :: rest)) =
      '"' :: withoutBlanksFrom .inString (text.toList.flatMap spelling ++ '"' :: rest) := rfl
  have closing : withoutBlanksFrom .inString ('"' :: rest) =
      '"' :: withoutBlanksFrom .outside rest := rfl
  rw [quoted, String.toList_ofList, List.cons_append, List.append_assoc, List.singleton_append,
    opening, inside, closing]
  simp

theorem solid_digits (digits : AllDigits text) : Solid text := by
  intro c member
  have digit := digits c member
  constructor
  · rw [Bool.eq_false_iff]
    intro blank
    simp only [isBlank, Bool.or_eq_true, beq_iff_eq] at blank
    obtain ((rfl | rfl) | rfl) | rfl := blank <;> exact absurd digit (by decide)
  · rintro rfl
    exact absurd digit (by decide)

theorem Solid.append (first : Solid a) (second : Solid b) : Solid (a ++ b) :=
  List.forall_mem_append.mpr ⟨first, second⟩

theorem solid_integerText (value : Int) : Solid (integerText value).toList := by
  have digits : AllDigits value.natAbs.repr.toList := by
    intro c member
    rw [Nat.toList_repr] at member
    exact Nat.isDigit_of_mem_toDigits (by decide) (by decide) member
  rw [integerText, String.toList_append]
  refine Solid.append ?_ (solid_digits digits)
  split <;> decide

theorem solid_withPoint {digits : List Char} (all : AllDigits digits) (point : Int) :
    Solid (Decimal.withPoint digits point) := by
  have mark : Solid ['.'] := by decide
  rw [Decimal.withPoint]
  split
  case isTrue =>
    refine Solid.append (solid_digits fun c member => all c (List.mem_of_mem_take member)) ?_
    exact mark.append (solid_digits fun c member => all c (List.mem_of_mem_drop member))
  case isFalse =>
    have zero : Solid ['0', '.'] := by decide
    apply zero.append
    exact solid_digits (Decimal.AllDigits.append (Decimal.allDigits_replicate_zero _) all)

theorem solid_scientific {digits : List Char} (all : AllDigits digits) (power : Int) :
    Solid (Decimal.scientific digits power) := by
  have exponent : Solid ('e' :: ((if power < 0 then ['-'] else []) ++
      Nat.toDigits 10 power.natAbs)) := by
    have mark : Solid ['e'] := by decide
    have sign : Solid (if power < 0 then ['-'] else []) := by split <;> decide
    exact mark.append (sign.append (solid_digits fun c member =>
      Nat.isDigit_of_mem_toDigits (by decide) (by decide) member))
  match digits, all with
  | [], _ => exact exponent
  | [first], all => exact (solid_digits all).append exponent
  | first :: second :: more, all =>
    have first_digit : AllDigits [first] := fun c member =>
      all c (List.mem_cons.mpr (Or.inl (List.mem_singleton.mp member)))
    have more_digits : AllDigits (second :: more) := fun c member =>
      all c (List.mem_cons_of_mem _ member)
    have mark : Solid ['.'] := by decide
    exact Solid.append (a := first :: '.' :: second :: more)
      ((solid_digits first_digit).append (mark.append (solid_digits more_digits))) exponent

theorem solid_data (d : Decimal) : Solid d.data := by
  have digits := d.allDigits_digits
  rw [Decimal.data]
  split
  case isTrue => exact solid_scientific digits _
  case isFalse =>
    split
    case isTrue =>
      have whole := Decimal.AllDigits.append digits
        (Decimal.allDigits_replicate_zero d.exponent.toNat)
      exact (solid_digits whole).append (by decide)
    case isFalse => exact solid_withPoint digits _

theorem solid_dataText (x : Binary64) : Solid x.dataText.toList := by
  have size : Solid (String.ofList (x.shortest .toEven).data).toList := by
    rw [String.toList_ofList]
    exact solid_data _
  rw [Binary64.dataText]
  split
  case isTrue =>
    rw [String.toList_append]
    exact Solid.append (by decide) size
  case isFalse => exact size

/-! ### Documents -/

/-- The first text leaves the second. -/
def LeavesText (text left : String) : Prop := Leaves text.toList left.toList

variable {separator separator' opening closing : String} {items lefts : List String}

theorem LeavesText.append {a b left left' : String} (first : LeavesText a left)
    (second : LeavesText b left') : LeavesText (a ++ b) (left ++ left') := by
  rw [LeavesText, String.toList_append, String.toList_append]
  exact Leaves.append first second

theorem leavesText_of_solid (text : String) (solid : Solid text.toList) : LeavesText text text :=
  solid.leaves

theorem leavesText_lineStart (level : Nat) : LeavesText (lineStart level) "" := by
  rw [LeavesText, lineStart, String.toList_ofList]
  refine leaves_blanks (List.forall_mem_cons.mpr ⟨rfl, ?_⟩)
  intro c member
  rw [List.eq_of_mem_replicate member]
  rfl

theorem leavesText_intercalate (between : LeavesText separator separator')
    (each : List.Forall₂ LeavesText items lefts) :
    LeavesText (separator.intercalate items) (separator'.intercalate lefts) := by
  rw [LeavesText, String.toList_intercalate, String.toList_intercalate]
  induction each with
  | nil => exact leaves_nil
  | @cons item left items lefts first rest ih =>
    cases rest with
    | nil =>
      rw [List.map_singleton, List.map_singleton, List.intercalate_singleton,
        List.intercalate_singleton]
      exact first
    | cons second rest =>
      rw [List.map_cons, List.map_cons, List.intercalate_cons_cons, List.map_cons, List.map_cons,
        List.intercalate_cons_cons]
      have first : Leaves item.toList left.toList := first
      have between : Leaves separator.toList separator'.toList := between
      exact (first.append between).append ih

theorem leavesText_block (level : Nat) (opens : Solid opening.toList)
    (closes : Solid closing.toList) (each : List.Forall₂ LeavesText items lefts) :
    LeavesText (block level opening closing items)
      (opening ++ ",".intercalate lefts ++ closing) := by
  have opens := leavesText_of_solid opening opens
  have closes := leavesText_of_solid closing closes
  cases each with
  | nil => simpa [block] using opens.append closes
  | cons first rest =>
    have comma : LeavesText "," "," := leavesText_of_solid "," (by decide)
    have between := comma.append (leavesText_lineStart (level + 1))
    have listed := leavesText_intercalate between (List.Forall₂.cons first rest)
    have whole := (((opens.append (leavesText_lineStart (level + 1))).append listed).append
      (leavesText_lineStart level)).append closes
    simpa [block] using whole

mutual

theorem leavesText_indentedAt (level : Nat) (document : Json) :
    LeavesText (document.indentedAt level) document.compact :=
  match document with
  | .null => leavesText_of_solid "null" (by decide)
  | .boolean true => leavesText_of_solid "true" (by decide)
  | .boolean false => leavesText_of_solid "false" (by decide)
  | .integer value => leavesText_of_solid _ (solid_integerText value)
  | .fraction value => leavesText_of_solid _ (solid_dataText value)
  | .text value => leaves_quoted value
  | .array items =>
      leavesText_block level (by decide) (by decide) (leavesText_indentedItems (level + 1) items)
  | .object fields =>
      leavesText_block level (by decide) (by decide) (leavesText_indentedFields (level + 1) fields)

theorem leavesText_indentedItems (level : Nat) (items : List Json) :
    List.Forall₂ LeavesText (indentedItems level items) (compactItems items) :=
  match items with
  | [] => .nil
  | item :: rest =>
      .cons (leavesText_indentedAt level item) (leavesText_indentedItems level rest)

theorem leavesText_indentedFields (level : Nat) (fields : List (String × Json)) :
    List.Forall₂ LeavesText (indentedFields level fields) (compactFields fields) :=
  match fields with
  | [] => .nil
  | (name, value) :: rest => by
      have mark : Solid [':'] := by decide
      have blank : Leaves [' '] [] := leaves_blanks (List.forall_mem_singleton.mpr rfl)
      have colon : LeavesText ": " ":" := mark.leaves.append blank
      have named : LeavesText (quoted name) (quoted name) := leaves_quoted name
      refine .cons ?_ (leavesText_indentedFields level rest)
      exact (named.append colon).append (leavesText_indentedAt level value)

end

/-- Without the blanks outside of strings the indented form on a line is the compact one. -/
theorem withoutBlanks_indented (document : Json) :
    withoutBlanks (document.indented ++ "\n") = document.compact := by
  have lineEnd : withoutBlanksFrom .outside "\n".toList = [] := rfl
  rw [withoutBlanks, String.toList_append, indented, leavesText_indentedAt 0 document, lineEnd,
    List.append_nil, String.ofList_toList]

theorem data_ne_nil (d : Decimal) : d.data ≠ [] := by
  rw [Decimal.data]
  split
  case isTrue => simp [Decimal.scientific]
  case isFalse =>
    split
    case isTrue => simp
    case isFalse =>
      rw [Decimal.withPoint]
      split <;> simp

theorem compact_ne_empty (document : Json) : document.compact ≠ "" := by
  intro same
  have same := congrArg String.toList same
  cases document with
  | null => simp [compact] at same
  | boolean value => cases value <;> simp [compact, booleanText] at same
  | integer value => simp [compact, integerText] at same
  | fraction value =>
    rw [compact, Binary64.dataText] at same
    split at same
    · simp at same
    · exact data_ne_nil _ (by simpa using same)
  | text value => simp [compact, quoted] at same
  | array items => simp [compact] at same
  | object fields => simp [compact] at same

/-- The indented form of a document is never blank. -/
theorem indented_ne_empty (document : Json) : document.indented ≠ "" := by
  intro empty
  have left := withoutBlanks_indented document
  rw [empty] at left
  exact document.compact_ne_empty left.symm

end LiteralLang.Json
