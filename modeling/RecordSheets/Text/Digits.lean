/-!
# Decimal digits

Reading an unsigned decimal number within a limit, and writing one with a least number of digits.
-/

namespace RecordSheets.Text

/-- The value of an ASCII decimal digit. -/
def digitValue? (c : Char) : Option Nat :=
  if '0' ≤ c ∧ c ≤ '9' then some (c.toNat - '0'.toNat) else none

/-- Appends a digit to a number, unless the result passes the limit. -/
def appendDigit? (limit : Nat) (n : Nat) (c : Char) : Option Nat :=
  (digitValue? c).bind fun d => if n * 10 + d ≤ limit then some (n * 10 + d) else none

/-- Reads one or more ASCII digits as a number that never passes the limit on the way. -/
def digits? (limit : Nat) : List Char → Option Nat
  | [] => none
  | c :: cs => (c :: cs).foldlM (appendDigit? limit) 0

/-- The largest number that fits in 64 bits. -/
def wordLimit : Nat := 0xFFFFFFFFFFFFFFFF

/-- Reads an optional plus sign and one or more ASCII digits whose value fits in 64 bits. -/
def unsigned? (cs : List Char) : Option Nat := digits? wordLimit (dropPlus cs)
where
  /-- Removes one plus sign at the front. -/
  dropPlus : List Char → List Char
    | '+' :: rest => rest
    | rest => rest

/-- The decimal digits of a number, the most significant first; zero has one digit. -/
def decimal (n : Nat) : List Char := Nat.toDigits 10 n

/-- The decimal digits of a number, with zeros in front up to a least width. -/
def decimalAtLeast (width n : Nat) : List Char :=
  List.replicate (width - (decimal n).length) '0' ++ decimal n

end RecordSheets.Text
