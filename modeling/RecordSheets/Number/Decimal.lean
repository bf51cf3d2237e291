import RecordSheets.Number.Binary64
import RecordSheets.Text.Digits

/-!
# Decimal digits of binary64 numbers

The shortest decimal number that a binary64 number is the nearest one to, found by testing on finer and finer decimal grids
the two neighbours of the exact value; and a quotient rounded to a fixed number of places.
-/

namespace RecordSheets

/-- Which of two equally near candidates is taken. -/
inductive Tie where
  | toEven
  | up
  deriving DecidableEq, Repr

/-- A decimal number by its significant digits and the power of ten of the first of them. -/
structure Decimal where
  /-- The digits from the first that is not zero to the last that is not zero. -/
  digits : List Char
  /-- The power of ten of the first digit. -/
  exponent : Int
  deriving DecidableEq, Repr

namespace Decimal

/-- The decimal number `n · 10 ^ scale`, without the zeros at the end of `n`. -/
def ofScaled (n : Nat) (scale : Int) : Decimal :=
  let ds := Text.decimal n
  ⟨(ds.reverse.dropWhile (· == '0')).reverse, scale + ds.length - 1⟩

/-- The power of ten of the first digit of a quotient that is not zero. -/
def leadingExponent (num den : Nat) : Int :=
  if den ≤ num then ((Text.decimal (num / den)).length : Int) - 1
  else -((Text.decimal ((den + num - 1) / num - 1)).length : Int)

/-- Four times the distances from a number down and up to the ends of the interval of reals that round to it, in units of the
last binary digit: below a power of two the numbers lie twice as close. -/
def gaps (x : Binary64) : Nat × Nat :=
  (if x.significand = Nat.pow 2 52 ∧ -1074 < x.exponent then 1 else 2, 2)

/-- Tells whether `candidate · grid`, with the grid given as a quotient, rounds to the number. -/
def readsBack (x : Binary64) (grid : Nat × Nat) (candidate : Nat) : Bool :=
  let unit := Binary64.scaled 1 4 x.exponent
  let left := candidate * grid.1 * unit.2
  let low := (4 * x.significand - (gaps x).1) * unit.1 * grid.2
  let high := (4 * x.significand + (gaps x).2) * unit.1 * grid.2
  if x.significand % 2 = 0 then low ≤ left && left ≤ high else low < left && left < high

/-- The power of ten as a quotient. -/
def tenPower : Int → Nat × Nat
  | .ofNat k => (Nat.pow 10 k, 1)
  | .negSucc k => (1, Nat.pow 10 (k + 1))

/-- The nearer of the two neighbours of a number on a decimal grid that reads back, if one does. -/
def onGrid? (tie : Tie) (x : Binary64) (grid : Nat × Nat) : Option Nat :=
  let q := x.quotient
  let num := q.1 * grid.2
  let den := q.2 * grid.1
  let a := num / den
  let twice := 2 * (num % den)
  match readsBack x grid a, readsBack x grid (a + 1) with
  | false, false => none
  | true, false => some a
  | false, true => some (a + 1)
  | true, true =>
    if twice < den then some a
    else if den < twice then some (a + 1)
    else match tie with
      | .toEven => some (if a % 2 = 0 then a else a + 1)
      | .up => some (a + 1)

/-- The first hit on the grids that have `n`, `n + 1` and so on digits, for as many grids as the first argument gives. -/
def search (tie : Tie) (x : Binary64) (lead : Int) : Nat → Nat → Decimal
  | 0, _ => ofScaled x.significand 0
  | more + 1, n =>
    let scale := lead + 1 - (n : Int)
    match onGrid? tie x (tenPower scale) with
    | some c => ofScaled c scale
    | none => search tie x lead more (n + 1)

/-- The decimal number with the fewest digits that reads back as a number other than zero, and of those the nearest.
Seventeen digits are always enough. -/
def shortest (tie : Tie) (x : Binary64) : Decimal :=
  let q := x.quotient
  search tie x (leadingExponent q.1 q.2) 17 1

/-- A quotient rounded to a fixed number of decimal places, a tie going to the even neighbour. -/
def fixed (places num den : Nat) : List Char :=
  let ds := Text.decimalAtLeast (places + 1) (roundDiv (num * Nat.pow 10 places) den)
  let point := ds.length - places
  ds.take point ++ (if places = 0 then [] else '.' :: ds.drop point)

/-- The digits with a decimal point at its place and no exponent. -/
def positional (d : Decimal) : List Char :=
  match d.exponent with
  | .negSucc k => '0' :: '.' :: (List.replicate k '0' ++ d.digits)
  | .ofNat k =>
    if d.digits.length ≤ k + 1 then d.digits ++ List.replicate (k + 1 - d.digits.length) '0'
    else d.digits.take (k + 1) ++ '.' :: d.digits.drop (k + 1)

/-- The digits with a point after the first and an exponent that always has a sign. -/
def scientific (d : Decimal) : List Char :=
  d.digits.take 1 ++ (if d.digits.length ≤ 1 then [] else '.' :: d.digits.drop 1) ++
    match d.exponent with
    | .ofNat k => 'e' :: '+' :: Text.decimal k
    | .negSucc k => 'e' :: '-' :: Text.decimal (k + 1)

/-- Tells whether the number has no digit behind the decimal point. -/
def isWhole (d : Decimal) : Bool := (d.digits.length : Int) ≤ d.exponent + 1

end Decimal

end RecordSheets
