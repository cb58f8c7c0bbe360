import LiteralLang.JsonText.Fault

/-!
# Readers of JSON text

A reader goes through the bytes of a text from left to right.  It counts what it has read, so that a
complaint can be placed; some complaints are placed at the last byte read and some one byte ahead.
-/

namespace LiteralLang.JsonText

/-- How far a text has been read. -/
structure Cursor where
  read : Nat
  rest : List UInt8

/-- A complaint and the number of bytes in front of its place. -/
structure Stop where
  complaint : Complaint
  place : Nat

abbrev Reader := StateT Cursor (Except Stop)

namespace Reader

/-- Stops behind what has been read. -/
def complain {α : Type} (complaint : Complaint) : Reader α := do
  throw ⟨complaint, (← get).read⟩

/-- Stops behind the next byte, or at the end of the text. -/
def complainAhead {α : Type} (complaint : Complaint) : Reader α := do
  let cursor ← get
  throw ⟨complaint, cursor.read + (cursor.rest.take 1).length⟩

/-- The character of the number that a byte holds. -/
def ofByte (byte : UInt8) : Char := Char.ofNat byte.toNat

/-- The next byte, as a character. -/
def peek? : Reader (Option Char) := do
  return (← get).rest.head?.map ofByte

/-- Goes on by a number of bytes, or to the end of the text. -/
def advance (count : Nat) : Reader Unit :=
  modify fun cursor => ⟨cursor.read + (cursor.rest.take count).length, cursor.rest.drop count⟩

/-- The next byte, which is read. -/
def next? : Reader (Option Char) := do
  let c ← peek?
  advance 1
  return c

/-- The longest run of bytes of a class, which is read. -/
def span (inClass : Char → Bool) : Reader (List Char) := do
  let found := (← get).rest.takeWhile fun byte => inClass (ofByte byte)
  advance found.length
  return found.map ofByte

/-- Goes on to the next byte that is not a blank. -/
def skipBlanks : Reader Unit := do
  discard (span fun c => c == ' ' || c == '\n' || c == '\t' || c == '\r')

/-- Reads the rest of a word. -/
def word : List Char → Reader Unit
  | [] => return
  | expected :: more => do
      match ← next? with
      | none => complain .valueCutShort
      | some c => if c == expected then word more else complain .wordWanted

/-- Reads the colon behind the name of a field. -/
def colon : Reader Unit := do
  skipBlanks
  match ← peek? with
  | some ':' => advance 1
  | some _ => complainAhead .colonWanted
  | none => complainAhead .objectCutShort

/-- Reads a whole text.  The fault of a failed reading is placed by line and column. -/
def onText {α : Type} (reader : Reader α) (text : String) : Except Fault α :=
  let bytes := text.toUTF8.toList
  match reader.run ⟨0, bytes⟩ with
  | .ok (result, _) => .ok result
  | .error stop => .error (.behind stop.complaint (bytes.take stop.place))

end Reader

end LiteralLang.JsonText
