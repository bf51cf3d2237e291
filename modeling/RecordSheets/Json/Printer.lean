import RecordSheets.Json.Value
import RecordSheets.Number.Written

/-!
# JSON text

Writing a JSON value, either without any space or over several lines with two spaces for each level. Members come in stored
order.
-/

namespace RecordSheets.Json

/-- The hexadecimal digit of a number below sixteen, in lower case. -/
def hexDigit (n : Nat) : Char := Char.ofNat (if n < 10 then 0x30 + n else 0x57 + n)

/-- The form of a character inside a string. -/
def escape (c : Char) : List Char :=
  if c = '"' then ['\\', '"']
  else if c = '\\' then ['\\', '\\']
  else if c.toNat = 0x08 then ['\\', 'b']
  else if c.toNat = 0x09 then ['\\', 't']
  else if c.toNat = 0x0A then ['\\', 'n']
  else if c.toNat = 0x0C then ['\\', 'f']
  else if c.toNat = 0x0D then ['\\', 'r']
  else if c.toNat < 0x20 then ['\\', 'u', '0', '0', hexDigit (c.toNat / 16), hexDigit (c.toNat % 16)]
  else [c]

/-- A string in quotes. -/
def quoted (s : String) : List Char := '"' :: (s.toList.flatMap escape ++ ['"'])

mutual

/-- A value without spaces. -/
def compactChars : Json → List Char
  | .null => "null".toList
  | .bool true => "true".toList
  | .bool false => "false".toList
  | .int i => wholeText i
  | .float x => NumberFormat.json.write x
  | .str s => quoted s
  | .arr items => '[' :: (compactItems items ++ [']'])
  | .obj fields => '\x7b' :: (compactFields fields ++ ['\x7d'])

/-- Elements with commas between them. -/
def compactItems : List Json → List Char
  | [] => []
  | [v] => compactChars v
  | v :: rest => compactChars v ++ ',' :: compactItems rest

/-- Members with commas between them. -/
def compactFields : List (String × Json) → List Char
  | [] => []
  | [(k, v)] => quoted k ++ ':' :: compactChars v
  | (k, v) :: rest => quoted k ++ ':' :: (compactChars v ++ ',' :: compactFields rest)

end

/-- The text of a value without spaces. -/
def compact (v : Json) : String := String.ofList v.compactChars

/-- A line break and the indentation of a level. -/
def newLine (level : Nat) : List Char := '\n' :: List.replicate (2 * level) ' '

mutual

/-- A value over several lines, as it stands at a level of nesting. -/
def prettyChars (level : Nat) : Json → List Char
  | .arr [] => ['[', ']']
  | .obj [] => ['\x7b', '\x7d']
  | .arr (v :: rest) =>
    '[' :: (newLine (level + 1) ++ prettyChars (level + 1) v ++ prettyItems (level + 1) rest ++ newLine level ++ [']'])
  | .obj ((k, v) :: rest) =>
    '\x7b' :: (newLine (level + 1) ++ quoted k ++ ':' :: ' ' :: prettyChars (level + 1) v ++
      prettyFields (level + 1) rest ++ newLine level ++ ['\x7d'])
  | .null => "null".toList
  | .bool true => "true".toList
  | .bool false => "false".toList
  | .int i => wholeText i
  | .float x => NumberFormat.json.write x
  | .str s => quoted s

/-- The elements after the first, each on a line of its own. -/
def prettyItems (level : Nat) : List Json → List Char
  | [] => []
  | v :: rest => ',' :: (newLine level ++ prettyChars level v ++ prettyItems level rest)

/-- The members after the first, each on a line of its own. -/
def prettyFields (level : Nat) : List (String × Json) → List Char
  | [] => []
  | (k, v) :: rest =>
    ',' :: (newLine level ++ quoted k ++ ':' :: ' ' :: prettyChars level v ++ prettyFields level rest)

end

/-- The text of a value over several lines, without a line break at the end. -/
def pretty (v : Json) : String := String.ofList (v.prettyChars 0)

end RecordSheets.Json
