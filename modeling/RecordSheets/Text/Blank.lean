/-!
# Blank characters

The characters that Unicode calls white space. Concatenation parts drop them and lists of column names are trimmed of them.
-/

namespace RecordSheets.Text

/-- Tells whether a character has the Unicode property White_Space; U+200B and U+FEFF have not. -/
def isBlank (c : Char) : Bool :=
  let n := c.toNat
  (0x09 ≤ n && n ≤ 0x0D) || n == 0x20 || n == 0x85 || n == 0xA0 || n == 0x1680 || (0x2000 ≤ n && n ≤ 0x200A) ||
    n == 0x2028 || n == 0x2029 || n == 0x202F || n == 0x205F || n == 0x3000

/-- Removes every blank character. -/
def dropBlanks (cs : List Char) : List Char := cs.filter fun c => !isBlank c

/-- Removes the blank characters at both ends. -/
def strip (cs : List Char) : List Char := ((cs.dropWhile isBlank).reverse.dropWhile isBlank).reverse

end RecordSheets.Text
