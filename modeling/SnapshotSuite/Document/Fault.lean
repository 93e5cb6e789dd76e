import SnapshotSuite.Text.Utf8
/-!
# Faults in the text of a document

A fault has a cause and a place. The reader notes what was left of the text when it stopped and how
many bytes past that point it had looked at; `Fault.locate` turns this into a line and a column,
both counted over the bytes of the text.
-/

namespace SnapshotSuite

namespace Document

/-- Why a text is not a document. -/
inductive Cause where
  /-- The text ends where a value has to stand or inside a word or a number. -/
  | endInValue
  /-- The text ends inside an array. -/
  | endInList
  /-- The text ends inside an object. -/
  | endInObject
  /-- The text ends inside a quoted text. -/
  | endInString
  /-- No value begins with this character. -/
  | valueExpected
  /-- A word other than `null`, `true` and `false`. -/
  | wordExpected
  /-- No colon after a key. -/
  | colonExpected
  /-- Neither a comma nor a closing bracket after an item. -/
  | listContinuation
  /-- Neither a comma nor a closing brace after a field. -/
  | objectContinuation
  /-- A comma before a closing bracket or brace. -/
  | trailingComma
  /-- A key that is no quoted text. -/
  | keyNotString
  /-- A number with a digit too many or too few. -/
  | malformedNumber
  /-- A number too large for a double-precision number. -/
  | numberOutOfRange
  /-- A control character inside a quoted text. -/
  | controlCharacter
  /-- An escape that does not exist. -/
  | unknownEscape
  /-- The first half of a pair of escapes without a second escape. -/
  | unfinishedPair
  /-- Half of a pair of escapes without its other half. -/
  | loneSurrogate
  /-- Too many containers inside one another. -/
  | tooDeep
  /-- Text after the document. -/
  | trailingText
deriving DecidableEq, Repr

/-- The words for a cause. -/
def Cause.text : Cause → String
  | .endInValue => "EOF while parsing a value"
  | .endInList => "EOF while parsing a list"
  | .endInObject => "EOF while parsing an object"
  | .endInString => "EOF while parsing a string"
  | .valueExpected => "expected value"
  | .wordExpected => "expected ident"
  | .colonExpected => "expected `:`"
  | .listContinuation => "expected `,` or `]`"
  | .objectContinuation => "expected `,` or `\x7d`"
  | .trailingComma => "trailing comma"
  | .keyNotString => "key must be a string"
  | .malformedNumber => "invalid number"
  | .numberOutOfRange => "number out of range"
  | .controlCharacter => "control character (\\u0000-\\u001F) found while parsing a string"
  | .unknownEscape => "invalid escape"
  | .unfinishedPair => "unexpected end of hex escape"
  | .loneSurrogate => "lone leading surrogate in hex escape"
  | .tooDeep => "recursion limit exceeded"
  | .trailingText => "trailing characters"

/-- Where a reader stopped, and why. -/
structure Fault where
  /-- Why it stopped. -/
  cause : Cause
  /-- The text not taken yet. -/
  rest : List Char
  /-- How many bytes of the rest had been looked at. -/
  ahead : Nat := 0

/-- A cause with its line, counted from one, and its column, the bytes since the line began. -/
structure ReadError where
  /-- Why the text is no document. -/
  cause : Cause
  /-- The line. -/
  line : Nat
  /-- The column. -/
  column : Nat
deriving DecidableEq, Repr

/-- The line and the column reached after some bytes. -/
def lineColumn (bs : Bytes) : Nat × Nat :=
  bs.foldl (fun place b => if b = 10 then (place.1 + 1, 0) else (place.1, place.2 + 1)) (1, 0)

/-- The place of a fault in the text that was read. -/
def Fault.locate (fault : Fault) (text : List Char) : ReadError :=
  let place := lineColumn ((Utf8.encode text).take
    (Utf8.size text - Utf8.size fault.rest + fault.ahead))
  ⟨fault.cause, place.1, place.2⟩

/-- The message for a text that is no document. -/
def ReadError.message (error : ReadError) : String :=
  error.cause.text ++ " at line " ++ toString error.line ++ " column " ++ toString error.column

end Document

end SnapshotSuite
