import LiteralLang.PatternText.Written
import LiteralLang.Text.Pieces

/-!
# Faults in written patterns

Why a text is no pattern that can be matched, and the report of it.  Most faults have a place: the
report repeats the text with carets under that place.
-/

namespace LiteralLang.PatternText

/-- What is wrong at a place. -/
inductive Complaint where
  /-- Between brackets an escape that stands for no characters. -/
  | uselessEscape
  /-- A range that ends before it starts. -/
  | reversedRange
  /-- A range from or to more than one character. -/
  | wideRangeEnd
  | unclosedBrackets
  | numeralTooGreat
  | noHexDigits
  | noCharacter
  | notHexDigit
  | escapeCutShort
  | unknownEscape
  | danglingNegation
  | repeatedFlag
  | repeatedNegation
  | flagsCutShort
  | unknownFlag
  | repeatedName
  | emptyName
  | invalidName
  | unclosedName
  | unclosedGroup
  | unopenedGroup
  | tooDeep
  | reversedCount
  | noCount
  | unclosedCount
  | nothingToRepeat
  /-- A word boundary with a name that does not end in a brace. -/
  | unclosedBoundary
  | unknownBoundary
  | braceCutShort
  | invalidProperty
  | backreference
  | lookAround
  /-- Characters of all scripts where bytes are meant. -/
  | unicodeHere
  /-- Bytes that are no text. -/
  | bytesHere
  | unknownProperty
  | unknownPropertyValue
  /-- A class of characters of all scripts, none of which is known. -/
  | unicodeClass
  /-- Both cases of the letters of all scripts, none of which are known. -/
  | unicodeCase

def Complaint.words : Complaint → String
  | .uselessEscape => "invalid escape sequence found in character class"
  | .reversedRange => "invalid character class range, the start must be <= the end"
  | .wideRangeEnd => "invalid range boundary, must be a literal"
  | .unclosedBrackets => "unclosed character class"
  | .numeralTooGreat => "decimal literal invalid"
  | .noHexDigits => "hexadecimal literal empty"
  | .noCharacter => "hexadecimal literal is not a Unicode scalar value"
  | .notHexDigit => "invalid hexadecimal digit"
  | .escapeCutShort => "incomplete escape sequence, reached end of pattern prematurely"
  | .unknownEscape => "unrecognized escape sequence"
  | .danglingNegation => "dangling flag negation operator"
  | .repeatedFlag => "duplicate flag"
  | .repeatedNegation => "flag negation operator repeated"
  | .flagsCutShort => "expected flag but got end of regex"
  | .unknownFlag => "unrecognized flag"
  | .repeatedName => "duplicate capture group name"
  | .emptyName => "empty capture group name"
  | .invalidName => "invalid capture group character"
  | .unclosedName => "unclosed capture group name"
  | .unclosedGroup => "unclosed group"
  | .unopenedGroup => "unopened group"
  | .tooDeep =>
      "exceed the maximum number of nested parentheses/brackets (" ++ deepest.repr ++ ")"
  | .reversedCount => "invalid repetition count range, the start must be <= the end"
  | .noCount => "repetition quantifier expects a valid decimal"
  | .unclosedCount => "unclosed counted repetition"
  | .nothingToRepeat => "repetition operator missing expression"
  | .unclosedBoundary =>
      "special word boundary assertion is either unclosed or contains an invalid character"
  | .unknownBoundary =>
      "unrecognized special word boundary assertion, valid choices are: start, end, start-half "
        ++ "or end-half"
  | .braceCutShort =>
      "found either the beginning of a special word boundary or a bounded repetition on a \\b "
        ++ "with an opening brace, but no closing brace"
  | .invalidProperty => "invalid Unicode character class"
  | .backreference => "backreferences are not supported"
  | .lookAround => "look-around, including look-ahead and look-behind, is not supported"
  | .unicodeHere => "Unicode not allowed here"
  | .bytesHere => "pattern can match invalid UTF-8"
  | .unknownProperty => "Unicode property not found"
  | .unknownPropertyValue => "Unicode property value not found"
  | .unicodeClass =>
      "Unicode-aware Perl class not found (make sure the unicode-perl feature is enabled)"
  | .unicodeCase =>
      "Unicode-aware case insensitivity matching is not available (make sure the unicode-case "
        ++ "feature is enabled)"

/-- Why a text is no pattern that can be matched. -/
inductive Fault where
  /-- Something is wrong at a place; an earlier place may be the other half of it. -/
  | misread (complaint : Complaint) (span : Span) (earlier : Option Span)
  /-- The pattern looks for the words of all scripts, which are not known. -/
  | unicodeWords
  /-- The pattern takes more room than there is. -/
  | tooBig

/-- The greatest number of bytes that a pattern may take. -/
def room : Nat := 10485760

namespace Fault

/-! ### The text with carets -/

/-- The lines of a text, without the characters that end them. -/
def linesOf (text : List Char) : List (List Char) :=
  let pieces := Text.pieces '\n' text
  let ended := pieces.dropLast.map fun line =>
    if line.getLast? = some '\r' then line.dropLast else line
  ended ++ (pieces.drop ended.length).filter (!·.isEmpty)

/-- Carets under some stretches of a line, from the column behind `column` on. -/
def carets (column : Nat) : List Span → List Char
  | [] => []
  | span :: rest =>
      let gap := span.start.column - 1 - column
      let width := max 1 (span.stop.column - span.start.column)
      List.replicate gap ' ' ++ List.replicate width '^' ++ carets (column + gap + width) rest

/-- A number with blanks in front of it up to a width. -/
def aligned (width number : Nat) : List Char :=
  let digits := number.repr.toList
  List.replicate (width - digits.length) ' ' ++ digits

/-- A line behind what stands in the margin, and the carets that belong under it. -/
def shownLine (margin : List Char) (number : Nat) (spans : List Span) (line : List Char) :
    List Char :=
  let here := spans.filter fun span => span.start.line = number && span.stop.line = number
  let marked :=
    if here.isEmpty then []
    else List.replicate margin.length ' ' ++ carets 0 here ++ ['\n']
  margin ++ line ++ ['\n'] ++ marked

/-- Where a stretch of several lines begins and ends. -/
def extent (span : Span) : String :=
  "on line " ++ span.start.line.repr ++ " (column " ++ span.start.column.repr
    ++ ") through line " ++ span.stop.line.repr ++ " (column " ++ (span.stop.column - 1).repr
    ++ ")"

/-- The text with carets under some stretches of it, which come in order.  Several lines are
numbered and stand between two rules; stretches of more than one line are told below them. -/
def shown (text : List Char) (spans : List Span) : String :=
  if text.contains '\n' then
    let rule := List.replicate 79 '~' ++ ['\n']
    let width := (text.count '\n' + 1).repr.length
    let lines := (linesOf text).zipIdx.flatMap fun (line, index) =>
      shownLine (aligned width (index + 1) ++ [':', ' ']) (index + 1) spans line
    let long := spans.filter fun span => span.start.line != span.stop.line
    let told := if long.isEmpty then "" else "\n".intercalate (long.map extent) ++ "\n"
    String.ofList (rule ++ lines ++ rule) ++ told
  else String.ofList (shownLine (List.replicate 4 ' ') 1 spans text)

/-- The report of the fault of a text. -/
def message (text : String) : Fault → String
  | .misread complaint span earlier =>
      "regex parse error:\n" ++ shown text.toList (earlier.toList ++ [span]) ++ "error: "
        ++ complaint.words
  | .unicodeWords => "error building NFA"
  | .tooBig => "Compiled regex exceeds size limit of " ++ room.repr ++ " bytes."

end Fault

end LiteralLang.PatternText
