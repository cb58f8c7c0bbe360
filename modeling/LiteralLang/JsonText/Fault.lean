import LiteralLang.Decimal.Layout
import LiteralLang.Json
import LiteralLang.Text.Quoted

/-!
# Faults in JSON text

What can be wrong with JSON text that is read for a given shape of data, where it is wrong, and the
sentence that reports it.  A fault is of one of three categories: the text ends too early, it is not
JSON, or it is JSON of the wrong shape.
-/

namespace LiteralLang.JsonText

inductive Found where
  | null
  | boolean (value : Bool)
  | integer (value : Int)
  | fraction (value : Binary64)
  | text (value : String)
  | sequence
  | map
  deriving DecidableEq

def Found.words : Found → String
  | .null => "null"
  | .boolean value => "boolean `" ++ LiteralLang.Json.booleanText value ++ "`"
  | .integer value => "integer `" ++ LiteralLang.Json.integerText value ++ "`"
  | .fraction value => "floating point `" ++ value.dataText ++ "`"
  | .text value => "string " ++ LiteralLang.Text.quoted value
  | .sequence => "sequence"
  | .map => "map"

/-- What a reader was asked for. -/
inductive Wanted where
  | options
  | bound
  deriving DecidableEq

def Wanted.words : Wanted → String
  | .options => "struct CompileOptions"
  | .bound => "usize"

/-- What is wrong with a text. -/
inductive Complaint where
  | valueCutShort
  | stringCutShort
  | listCutShort
  | objectCutShort
  /-- Something else stands where a colon is wanted. -/
  | colonWanted
  /-- Something else stands behind an item of a list. -/
  | listEndWanted
  /-- Something else stands behind a field of an object. -/
  | objectEndWanted
  /-- A word that is none of the three of JSON. -/
  | wordWanted
  | valueWanted
  | invalidEscape
  | invalidNumber
  | numberOutOfRange
  | controlCharacter
  /-- A field without a quoted name. -/
  | keyWanted
  /-- A surrogate without its other half. -/
  | loneSurrogate
  /-- The first half of a pair of surrogates without an escape behind it. -/
  | unfinishedPair
  | trailingComma
  | trailingCharacters
  | wrongKind (found : Found) (wanted : Wanted)
  | wrongValue (found : Found) (wanted : Wanted)
  | duplicateField (name : String)
  deriving DecidableEq

/-- The ways in which reading fails. -/
inductive Category where
  | cutShort
  | syntactic
  | data
  deriving DecidableEq

/-- The way in which a complaint makes reading fail. -/
def Complaint.category : Complaint → Category
  | .valueCutShort | .stringCutShort | .listCutShort | .objectCutShort => .cutShort
  | .wrongKind .. | .wrongValue .. | .duplicateField .. => .data
  | _ => .syntactic

def Complaint.words : Complaint → String
  | .valueCutShort => "EOF while parsing a value"
  | .stringCutShort => "EOF while parsing a string"
  | .listCutShort => "EOF while parsing a list"
  | .objectCutShort => "EOF while parsing an object"
  | .colonWanted => "expected `:`"
  | .listEndWanted => "expected `,` or `]`"
  | .objectEndWanted => "expected `,` or `\x7d`"
  | .wordWanted => "expected ident"
  | .valueWanted => "expected value"
  | .invalidEscape => "invalid escape"
  | .invalidNumber => "invalid number"
  | .numberOutOfRange => "number out of range"
  | .controlCharacter => "control character (\\u0000-\\u001F) found while parsing a string"
  | .keyWanted => "key must be a string"
  | .loneSurrogate => "lone leading surrogate in hex escape"
  | .unfinishedPair => "unexpected end of hex escape"
  | .trailingComma => "trailing comma"
  | .trailingCharacters => "trailing characters"
  | .wrongKind found wanted => "invalid type: " ++ found.words ++ ", expected " ++ wanted.words
  | .wrongValue found wanted => "invalid value: " ++ found.words ++ ", expected " ++ wanted.words
  | .duplicateField name => "duplicate field `" ++ name ++ "`"

/-- A complaint and its place: the number of the line, and how many bytes of it had been read. -/
structure Fault where
  complaint : Complaint
  line : Nat
  column : Nat
  deriving DecidableEq

def Fault.message (fault : Fault) : String :=
  fault.complaint.words ++ " at line " ++ fault.line.repr ++ " column " ++ fault.column.repr

/-- The fault of a complaint behind the given bytes. -/
def Fault.behind (complaint : Complaint) (read : List UInt8) : Fault :=
  let newline : UInt8 := 10
  ⟨complaint, 1 + read.count newline, (read.reverse.takeWhile (· != newline)).length⟩

end LiteralLang.JsonText
