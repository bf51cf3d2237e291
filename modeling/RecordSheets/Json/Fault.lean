import RecordSheets.Text.Utf8

/-!
# Faults of JSON text

Why a text is no JSON document, and at which line and column that is reported. The place depends on the way of reading: a
text in memory is charged up to the byte that broke a rule, a buffered stream also for a byte that it had to look at.
-/

namespace RecordSheets.Json

/-- Why a text is no JSON document. -/
inductive Cause where
  /-- The text ends where a value is wanted or inside a word or number. -/
  | endInValue
  | endInList
  | endInObject
  | endInString
  | expectedValue
  /-- A wrong letter in one of the words null, true and false. -/
  | expectedWord
  | expectedColon
  | expectedItemEnd
  | expectedMemberEnd
  | keyNotString
  | trailingComma
  | trailingText
  | invalidNumber
  | numberOutOfRange
  | controlCharacter
  | invalidEscape
  /-- Half of a surrogate pair without an escape behind it. -/
  | cutSurrogatePair
  | loneSurrogate
  /-- A string is not UTF-8; the bytes from the first wrong one to its end are counted. -/
  | notUtf8 (overhang : Nat)
  | tooDeep
  deriving DecidableEq, Repr

def Cause.message : Cause → String
  | .endInValue => "EOF while parsing a value"
  | .endInList => "EOF while parsing a list"
  | .endInObject => "EOF while parsing an object"
  | .endInString => "EOF while parsing a string"
  | .expectedValue => "expected value"
  | .expectedWord => "expected ident"
  | .expectedColon => "expected \x60:\x60"
  | .expectedItemEnd => "expected \x60,\x60 or \x60]\x60"
  | .expectedMemberEnd => "expected \x60,\x60 or \x60\x7d\x60"
  | .keyNotString => "key must be a string"
  | .trailingComma => "trailing comma"
  | .trailingText => "trailing characters"
  | .invalidNumber => "invalid number"
  | .numberOutOfRange => "number out of range"
  | .controlCharacter => "control character (\\u0000-\\u001F) found while parsing a string"
  | .invalidEscape => "invalid escape"
  | .cutSurrogatePair => "unexpected end of hex escape"
  | .loneSurrogate => "lone leading surrogate in hex escape"
  | .notUtf8 _ => "invalid unicode code point"
  | .tooDeep => "recursion limit exceeded"

/-- A cause and the place where it arose. -/
structure Fault where
  /-- Why the text is no document. -/
  cause : Cause
  /-- The number of bytes up to the byte at hand, with it; at the end of the text all of its bytes. -/
  seen : Nat
  /-- Whether the byte at hand was only looked at: the broken rule is about the bytes before it. -/
  ahead : Bool
  deriving DecidableEq, Repr

/-- The two ways in which a text is read. -/
inductive Reading where
  /-- The whole text lies in memory. -/
  | mapped
  /-- The text comes through a buffer, which counts the bytes it looked at. -/
  | buffered
  deriving DecidableEq, Repr

/-- The number of bytes that a fault is charged for. -/
def Fault.charged (f : Fault) : Reading → Nat
  | .mapped => if f.ahead then f.seen - 1 else f.seen
  | .buffered => f.seen

/-- The columns that a fault is moved back. -/
def Fault.overhang (f : Fault) : Nat :=
  match f.cause with
  | .notUtf8 n => n
  | _ => 0

/-- The line, counted from one, and the column of a fault: the number of bytes charged after the last line break. -/
def Fault.place (f : Fault) (reading : Reading) (text : Bytes) : Nat × Nat :=
  let read := text.take (f.charged reading)
  (1 + read.count 0x0A, (read.reverse.takeWhile (· != 0x0A)).length - f.overhang)

end RecordSheets.Json
