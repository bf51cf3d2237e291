import RecordSheets.Number.Decimal

/-!
# How numbers are written

A binary64 number has two written forms. In JSON text the form tells it from a whole number: a number without a fraction
keeps one zero behind the point. In a cell a whole number is written with all its digits, and zero has no sign.
-/

namespace RecordSheets

/-- The decisions of a number format. -/
structure NumberFormat where
  /-- Which of two equally near shortest forms is taken. -/
  tie : Tie
  /-- The least power of ten of a first digit that is written without an exponent. -/
  least : Int
  /-- The greatest power of ten of a first digit that is written without an exponent. -/
  greatest : Int
  /-- What follows the digits of a number without a fraction. -/
  wholeTail : List Char
  /-- Whether a whole number within the bounds is written with every digit of its exact value. -/
  allDigits : Bool
  /-- The form of zero without a sign. -/
  zero : List Char
  /-- Whether zero shows its sign. -/
  signedZero : Bool

namespace NumberFormat

/-- Numbers in JSON text: positional from `0.00001` to `1000000000000000.0`, else with an exponent. -/
def json : NumberFormat := ⟨.toEven, -5, 15, ['.', '0'], false, ['0', '.', '0'], true⟩

/-- Numbers in cells: positional from `0.000001` to below `1e+21`, whole numbers with all their digits. -/
def cell : NumberFormat := ⟨.up, -6, 20, [], true, ['0'], false⟩

/-- A sign in front of a form. -/
def signed (negative : Bool) (cs : List Char) : List Char := if negative then '-' :: cs else cs

/-- The written form of a number without its sign. -/
def magnitude (fmt : NumberFormat) (x : Binary64) : List Char :=
  let d := Decimal.shortest fmt.tie x
  if d.exponent < fmt.least ∨ fmt.greatest < d.exponent then d.scientific
  else
    match fmt.allDigits, x.whole? with
    | true, some n => Text.decimal n
    | _, _ => d.positional ++ (if d.isWhole then fmt.wholeTail else [])

/-- The written form of a number. -/
def write (fmt : NumberFormat) (x : Binary64) : List Char :=
  if x.isZero then signed (fmt.signedZero && x.negative) fmt.zero
  else signed x.negative (fmt.magnitude x)

end NumberFormat

/-- The decimal form of a whole number. -/
def wholeText : Int → List Char
  | .ofNat n => Text.decimal n
  | .negSucc n => '-' :: Text.decimal (n + 1)

end RecordSheets
