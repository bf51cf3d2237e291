import RecordSheets.Text.HiddenData
import RecordSheets.Text.Ranges

/-!
# Quoted texts

A text in double quotes, as messages show it. Quotes and backslashes have a backslash in front, line breaks and tabs are
named by a letter, and a character without a shape of its own is given by its number.
-/

namespace RecordSheets.Text

/-- The form of a character in a quoted text. -/
def quotedChar (c : Char) : List Char :=
  if c = '"' then ['\\', '"']
  else if c = '\\' then ['\\', '\\']
  else if c = '\n' then ['\\', 'n']
  else if c = '\t' then ['\\', 't']
  else if c = '\r' then ['\\', 'r']
  else if c.toNat = 0 then ['\\', '0']
  else if inRanges hiddenRanges c then '\\' :: 'u' :: '\x7b' :: (Nat.toDigits 16 c.toNat ++ ['\x7d'])
  else [c]

/-- A text in double quotes. -/
def quoted (s : String) : String := String.ofList ('"' :: (s.toList.flatMap quotedChar ++ ['"']))

end RecordSheets.Text
