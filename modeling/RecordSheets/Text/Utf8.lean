/-!
# UTF-8

The bytes of a text, and the text of bytes. Besides reading a whole text, the length of the longest valid beginning is
computed: a place in a text that is not UTF-8 is reported by it.
-/

namespace RecordSheets

/-- A sequence of bytes, such as the content of a file. -/
abbrev Bytes := List UInt8

namespace Utf8

/-- The UTF-8 bytes of a text. -/
def encode (s : String) : Bytes := s.toList.flatMap String.utf8EncodeChar

/-- Tells whether a byte is one of those that go on with a character. -/
def isTail (b : UInt8) : Bool := 0x80 ≤ b && b ≤ 0xBF

/-- The six low bits that a byte adds to a character. -/
def tailBits (b : UInt8) : Nat := b.toNat % 64

/-- Reads the character at the front: its code point and the number of its bytes. Overlong forms, surrogates and code points
beyond U+10FFFF are refused. -/
def first? : Bytes → Option (Nat × Nat)
  | [] => none
  | a :: rest =>
    if a < 0x80 then some (a.toNat, 1)
    else if 0xC2 ≤ a && a ≤ 0xDF then
      match rest with
      | b :: _ => if isTail b then some ((a.toNat - 0xC0) * 64 + tailBits b, 2) else none
      | _ => none
    else if 0xE0 ≤ a && a ≤ 0xEF then
      match rest with
      | b :: c :: _ =>
        let low : UInt8 := if a == 0xE0 then 0xA0 else 0x80
        let high : UInt8 := if a == 0xED then 0x9F else 0xBF
        if low ≤ b && b ≤ high && isTail c then
          some (((a.toNat - 0xE0) * 64 + tailBits b) * 64 + tailBits c, 3)
        else none
      | _ => none
    else if 0xF0 ≤ a && a ≤ 0xF4 then
      match rest with
      | b :: c :: d :: _ =>
        let low : UInt8 := if a == 0xF0 then 0x90 else 0x80
        let high : UInt8 := if a == 0xF4 then 0x8F else 0xBF
        if low ≤ b && b ≤ high && isTail c && isTail d then
          some ((((a.toNat - 0xF0) * 64 + tailBits b) * 64 + tailBits c) * 64 + tailBits d, 4)
        else none
      | _ => none
    else none

/-- The characters of the longest valid beginning and the number of its bytes. The first argument bounds the characters. -/
def scan : Nat → Bytes → List Char × Nat
  | 0, _ => ([], 0)
  | n + 1, bs =>
    match first? bs with
    | none => ([], 0)
    | some (code, width) =>
      let later := scan n (bs.drop width)
      (Char.ofNat code :: later.1, width + later.2)

/-- The number of bytes of the longest beginning that is valid UTF-8. -/
def validLength (bs : Bytes) : Nat := (scan bs.length bs).2

/-- The text of bytes that are valid UTF-8 as a whole. -/
def decode? (bs : Bytes) : Option String :=
  let (cs, n) := scan bs.length bs
  if n = bs.length then some (String.ofList cs) else none

end Utf8

end RecordSheets
