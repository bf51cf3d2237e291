import RecordSheets.Json.Numeral

/-!
# Reading JSON

A machine that reads a document byte by byte. Its state holds the open lists and objects, the innermost first, and the
spot inside the innermost one. A byte either leads to the next state or is a fault, so a document is read in one pass and
the first fault from the left is the one reported. 127 brackets can be open at once.
-/

namespace RecordSheets.Json

/-- A list or object that is not closed yet. -/
inductive Frame where
  /-- A list with the elements before the present one, the latest first. -/
  | list (items : List Json)
  /-- An object with the members before the present one and the key of the present one. -/
  | member (fields : Fields) (key : String)

/-- Why a value is wanted. -/
inductive Want where
  /-- At the start of the document or after a colon. -/
  | plain
  /-- Just inside a list, which may also end. -/
  | opened
  /-- After a comma in a list. -/
  | afterComma
  deriving DecidableEq, Repr

/-- What a string is read for. -/
inductive Role where
  | value
  /-- A key of an object with the members before it. -/
  | key (fields : Fields)

/-- The place inside a string. -/
inductive Inside where
  | plain
  /-- Behind a backslash. -/
  | backslash
  /-- Inside the four places of a hexadecimal escape, those got so far with the latest first; `lead` is the first half of a
  surrogate pair that the escape has to complete. -/
  | hex (lead : Option Nat) (got : Bytes)
  /-- Behind the first half of a surrogate pair. -/
  | half (lead : Nat)
  /-- Behind the first half of a surrogate pair and a backslash. -/
  | halfBackslash (lead : Nat)
  deriving DecidableEq, Repr

/-- The spot of the reader inside the innermost open list or object. -/
inductive Spot where
  /-- A value is wanted. -/
  | value (want : Want)
  /-- A key is wanted; `opened` tells that the object may also end. -/
  | key (fields : Fields) (opened : Bool)
  /-- A colon is wanted. -/
  | colon (fields : Fields) (key : String)
  /-- Behind a value. -/
  | after (v : Json)
  /-- Inside a word, with the letters that are left. -/
  | word (left : Bytes) (v : Json)
  /-- Inside a string, with its bytes so far, the latest first. -/
  | string (role : Role) (got : Bytes) (inside : Inside)
  | number (n : Numeral)

/-- The state of the reader: the open lists and objects and the spot in the innermost one. -/
structure Reader where
  /-- The open lists and objects, the innermost first. -/
  frames : List Frame
  /-- The spot in the innermost one. -/
  spot : Spot

namespace Reader

/-- The number of brackets that cannot be open at once. -/
def depthLimit : Nat := 128

/-- The state before a document. -/
def start : Reader := ⟨[], .value .plain⟩

/-- Tells whether a byte is white space between the parts of a document. -/
def isSpace (b : UInt8) : Bool := b == 0x20 || b == 0x0A || b == 0x09 || b == 0x0D

/-- Begins a value. -/
def beginValue (frames : List Frame) (want : Want) (b : UInt8) : Except Cause Reader :=
  if b = 0x5B then
    if depthLimit ≤ frames.length + 1 then .error .tooDeep else .ok ⟨.list [] :: frames, .value .opened⟩
  else if b = 0x7B then
    if depthLimit ≤ frames.length + 1 then .error .tooDeep else .ok ⟨frames, .key [] true⟩
  else if b = 0x22 then .ok ⟨frames, .string .value [] .plain⟩
  else if b = 0x6E then .ok ⟨frames, .word [0x75, 0x6C, 0x6C] .null⟩
  else if b = 0x74 then .ok ⟨frames, .word [0x72, 0x75, 0x65] (.bool true)⟩
  else if b = 0x66 then .ok ⟨frames, .word [0x61, 0x6C, 0x73, 0x65] (.bool false)⟩
  else if b = 0x2D then .ok ⟨frames, .number .sign⟩
  else if b = 0x5D then
    match want, frames with
    | .opened, .list _ :: outer => .ok ⟨outer, .after (.arr [])⟩
    | .afterComma, _ => .error .trailingComma
    | _, _ => .error .expectedValue
  else
    match Numeral.digit? b with
    | some 0 => .ok ⟨frames, .number (.leadingZero false)⟩
    | some d => .ok ⟨frames, .number (.whole false d)⟩
    | none => .error .expectedValue

/-- Begins a key or ends an object. -/
def beginKey (frames : List Frame) (fields : Fields) (opened : Bool) (b : UInt8) : Except Cause Reader :=
  if b = 0x22 then .ok ⟨frames, .string (.key fields) [] .plain⟩
  else if b = 0x7D then if opened then .ok ⟨frames, .after (.obj fields)⟩ else .error .trailingComma
  else .error .keyNotString

/-- Goes on behind a value. -/
def goOn (frames : List Frame) (v : Json) (b : UInt8) : Except Cause Reader :=
  if isSpace b then .ok ⟨frames, .after v⟩
  else
    match frames with
    | [] => .error .trailingText
    | .list items :: outer =>
      if b = 0x2C then .ok ⟨.list (v :: items) :: outer, .value .afterComma⟩
      else if b = 0x5D then .ok ⟨outer, .after (.arr (v :: items).reverse)⟩
      else .error .expectedItemEnd
    | .member fields key :: outer =>
      if b = 0x2C then .ok ⟨outer, .key (fields.insert key v) false⟩
      else if b = 0x7D then .ok ⟨outer, .after (.obj (fields.insert key v))⟩
      else .error .expectedMemberEnd

/-- Ends a string. -/
def endString (frames : List Frame) (role : Role) (got : Bytes) : Except Cause Reader :=
  match Utf8.decode? got.reverse with
  | none => .error (.notUtf8 (got.length - Utf8.validLength got.reverse))
  | some s =>
    match role with
    | .value => .ok ⟨frames, .after (.str s)⟩
    | .key fields => .ok ⟨frames, .colon fields s⟩

/-- The byte that a short escape stands for. -/
def shortEscape? (b : UInt8) : Option UInt8 :=
  if b = 0x22 ∨ b = 0x5C ∨ b = 0x2F then some b
  else if b = 0x62 then some 0x08
  else if b = 0x66 then some 0x0C
  else if b = 0x6E then some 0x0A
  else if b = 0x72 then some 0x0D
  else if b = 0x74 then some 0x09
  else none

/-- The value of a hexadecimal digit. -/
def hexValue? (b : UInt8) : Option Nat :=
  if 0x30 ≤ b ∧ b ≤ 0x39 then some (b.toNat - 0x30)
  else if 0x61 ≤ b ∧ b ≤ 0x66 then some (b.toNat - 0x57)
  else if 0x41 ≤ b ∧ b ≤ 0x46 then some (b.toNat - 0x37)
  else none

/-- The value of hexadecimal digits. -/
def hexNumber? (bs : Bytes) : Option Nat :=
  bs.foldlM (fun n b => (hexValue? b).map (n * 16 + ·)) 0

/-- The bytes of a string with a character added, the latest first. -/
def addChar (got : Bytes) (code : Nat) : Bytes := (String.utf8EncodeChar (Char.ofNat code)).reverse ++ got

/-- Ends a hexadecimal escape with the number it gives. -/
def endHex (got : Bytes) (lead : Option Nat) (n : Nat) : Except Cause (Bytes × Inside) :=
  match lead with
  | none =>
    if 0xDC00 ≤ n ∧ n ≤ 0xDFFF then .error .loneSurrogate
    else if 0xD800 ≤ n ∧ n ≤ 0xDBFF then .ok (got, .half n)
    else .ok (addChar got n, .plain)
  | some high =>
    if 0xDC00 ≤ n ∧ n ≤ 0xDFFF then .ok (addChar got (0x10000 + (high - 0xD800) * 0x400 + (n - 0xDC00)), .plain)
    else .error .loneSurrogate

/-- Reads a byte inside a string, the closing quote apart. -/
def stringStep (got : Bytes) (inside : Inside) (b : UInt8) : Except Cause (Bytes × Inside) :=
  match inside with
  | .plain =>
    if b = 0x5C then .ok (got, .backslash)
    else if b < 0x20 then .error .controlCharacter
    else .ok (b :: got, .plain)
  | .backslash =>
    if b = 0x75 then .ok (got, .hex none [])
    else
      match shortEscape? b with
      | some c => .ok (c :: got, .plain)
      | none => .error .invalidEscape
  | .hex lead places =>
    if places.length < 3 then .ok (got, .hex lead (b :: places))
    else
      match hexNumber? (b :: places).reverse with
      | some n => endHex got lead n
      | none => .error .invalidEscape
  | .half lead => if b = 0x5C then .ok (got, .halfBackslash lead) else .error .cutSurrogatePair
  | .halfBackslash lead => if b = 0x75 then .ok (got, .hex (some lead) []) else .error .cutSurrogatePair

/-- Reads one byte. The flag of a fault tells that it is about the bytes before. -/
def step (r : Reader) (b : UInt8) : Except (Cause × Bool) Reader :=
  match r.spot with
  | .value want => if isSpace b then .ok r else atByte (beginValue r.frames want b)
  | .key fields opened => if isSpace b then .ok r else atByte (beginKey r.frames fields opened b)
  | .colon fields key =>
    if isSpace b then .ok r
    else if b = 0x3A then .ok ⟨.member fields key :: r.frames, .value .plain⟩
    else .error (.expectedColon, false)
  | .after v => atByte (goOn r.frames v b)
  | .word [] v => atByte (goOn r.frames v b)
  | .word (c :: left) v =>
    if b = c then .ok ⟨r.frames, if left.isEmpty then .after v else .word left v⟩ else .error (.expectedWord, false)
  | .string role got inside =>
    if b = 0x22 ∧ inside = .plain then atByte (endString r.frames role got)
    else atByte ((stringStep got inside b).map fun (got, inside) => ⟨r.frames, .string role got inside⟩)
  | .number n =>
    match n.step b with
    | .error c => .error (c, false)
    | .ok (some n) => .ok ⟨r.frames, .number n⟩
    | .ok none =>
      match n.value with
      | .error c => .error (c, true)
      | .ok v => atByte (goOn r.frames v b)
where
  /-- A fault that is about the byte at hand. -/
  atByte (x : Except Cause Reader) : Except (Cause × Bool) Reader := x.mapError fun c => (c, false)

/-- The document, if it may end behind a value here. -/
def endAfter (frames : List Frame) (v : Json) : Except Cause Json :=
  match frames with
  | [] => .ok v
  | .list _ :: _ => .error .endInList
  | .member .. :: _ => .error .endInObject

/-- The document, if it may end here. -/
def finish (r : Reader) : Except Cause Json :=
  match r.spot with
  | .value .opened => .error .endInList
  | .value _ => .error .endInValue
  | .key _ opened => .error (if opened then .endInObject else .endInValue)
  | .colon .. => .error .endInObject
  | .after v => endAfter r.frames v
  | .word .. => .error .endInValue
  | .string .. => .error .endInString
  | .number n => n.value.bind (endAfter r.frames)

/-- Reads the rest of a document, behind a number of bytes. -/
def run (r : Reader) (seen : Nat) : Bytes → Except Fault Json
  | [] => r.finish.mapError fun c => ⟨c, seen, false⟩
  | b :: rest =>
    match r.step b with
    | .error (c, ahead) => .error ⟨c, seen + 1, ahead⟩
    | .ok next => run next (seen + 1) rest

end Reader

/-- Reads a document. -/
def read (text : Bytes) : Except Fault Json := Reader.start.run 0 text

/-- Reads a document from a string. -/
def ofString (s : String) : Except Fault Json := read (Utf8.encode s)

end RecordSheets.Json
