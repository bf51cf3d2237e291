import RecordSheets.Number.Rounding

/-!
# Numbers in binary64

The finite numbers of the binary interchange format with 64 bits, and the three operations on them that reading a number
literal takes: rounding a quotient of natural numbers, product and quotient. Each rounds its exact result once, to nearest
with ties to even, and gives nothing where the result passes the largest number.
-/

namespace RecordSheets

/-- A finite binary64 number, `significand · 2 ^ exponent` with a sign. A number other than zero has 53 significant binary
digits or the least exponent, -1074; zero has the least exponent. -/
structure Binary64 where
  /-- Whether the number carries a minus sign; zero can carry one. -/
  negative : Bool
  /-- The binary digits as a natural number. -/
  significand : Nat
  /-- The power of two that the significand is multiplied by. -/
  exponent : Int
  deriving DecidableEq, Repr

namespace Binary64

def zero : Binary64 := ⟨false, 0, -1074⟩

/-- The same number with a sign chosen. -/
def withSign (x : Binary64) (negative : Bool) : Binary64 := { x with negative := negative }

def isZero (x : Binary64) : Bool := x.significand == 0

/-- The quotient `num / den · 2 ^ scale` as a quotient of natural numbers. -/
def scaled (num den : Nat) (scale : Int) : Nat × Nat :=
  match scale with
  | .ofNat k => (num * Nat.pow 2 k, den)
  | .negSucc k => (num, den * Nat.pow 2 (k + 1))

/-- The nearest number to `num / den · 2 ^ scale`, or nothing where that is beyond the largest number. -/
def ofQuotient? (num den : Nat) (scale : Int) : Option Binary64 :=
  if num = 0 ∨ den = 0 then some zero
  else
    let rough : Int := (Nat.log2 num : Int) - Nat.log2 den - 53
    let exact := scaled num den (-rough)
    let fitted := if Nat.pow 2 53 ≤ exact.1 / exact.2 then rough + 1 else rough
    let e := max (fitted + scale) (-1074)
    let q := scaled num den (scale - e)
    let m := roundDiv q.1 q.2
    let r : Binary64 := if m = Nat.pow 2 53 then ⟨false, Nat.pow 2 52, e + 1⟩ else ⟨false, m, e⟩
    if 971 < r.exponent then none else some r

/-- The nearest number to a natural number, which must not pass the largest one. -/
def ofNat (n : Nat) : Binary64 := (ofQuotient? n 1 0).getD zero

/-- The nearest number to a power of ten, for the powers up to 308. -/
def tenTo (k : Nat) : Binary64 := ofNat (Nat.pow 10 k)

/-- The product of two numbers without sign. -/
def mul? (x y : Binary64) : Option Binary64 :=
  ofQuotient? (x.significand * y.significand) 1 (x.exponent + y.exponent)

/-- The quotient of two numbers without sign, the second of which is not zero. -/
def div? (x y : Binary64) : Option Binary64 :=
  ofQuotient? x.significand y.significand (x.exponent - y.exponent)

/-- The magnitude of the number as a quotient of natural numbers. -/
def quotient (x : Binary64) : Nat × Nat := scaled x.significand 1 x.exponent

/-- The whole number that the magnitude is, if it is one. -/
def whole? (x : Binary64) : Option Nat :=
  let q := x.quotient
  if q.1 % q.2 = 0 then some (q.1 / q.2) else none

end Binary64

end RecordSheets
