import RecordSheets.Json.Fault
import RecordSheets.Json.Value

/-!
# Number literals

A machine that reads a number literal byte by byte. Digits are collected as long as they fit in 64 bits and later ones are
left out; the value is then the collected number, rounded to binary64, times or divided by one power of ten, also rounded.
So a long literal need not give the nearest number: `1.602176634e-19` gives `1.6021766340000001e-19`.
-/

namespace RecordSheets.Json

/-- How far a number literal has been read. The flag is its sign, the natural number the digits collected so far, the integer
the power of ten they are to be multiplied by. -/
inductive Numeral where
  /-- After the minus sign. -/
  | sign
  /-- After a zero in front. -/
  | leadingZero (negative : Bool)
  | whole (negative : Bool) (digits : Nat)
  /-- Inside whole digits that no longer fit. -/
  | longWhole (negative : Bool) (digits : Nat) (scale : Int)
  /-- Behind the point; the last flag tells whether a digit came. -/
  | fraction (negative : Bool) (digits : Nat) (scale : Int) (started : Bool)
  /-- Inside fraction digits that no longer fit. -/
  | longFraction (negative : Bool) (digits : Nat) (scale : Int)
  | exponentMark (negative : Bool) (digits : Nat) (scale : Int)
  | exponentSign (negative : Bool) (digits : Nat) (scale : Int) (up : Bool)
  | exponent (negative : Bool) (digits : Nat) (scale : Int) (up : Bool) (value : Nat)
  /-- Inside an exponent that no longer fits, of a number that is zero by it. -/
  | vanishing (negative : Bool)
  deriving DecidableEq, Repr

namespace Numeral

/-- The value of a digit byte. -/
def digit? (b : UInt8) : Option Nat := if 0x30 ≤ b ∧ b ≤ 0x39 then some (b.toNat - 0x30) else none

/-- The largest number that the collected digits may give: the largest one of 64 bits. -/
def digitLimit : Nat := 0xFFFFFFFFFFFFFFFF

/-- The largest exponent that is read as a number. -/
def exponentLimit : Nat := 0x7FFFFFFF

/-- The state behind whole digits or a leading zero, at a byte that is no digit; nothing where the literal ends before it. -/
def afterWhole (negative : Bool) (digits : Nat) (scale : Int) (b : UInt8) : Option Numeral :=
  if b = 0x2E then some (.fraction negative digits scale false)
  else if b = 0x65 ∨ b = 0x45 then some (.exponentMark negative digits scale)
  else none

/-- The state behind a fraction, at a byte that is no digit. -/
def afterFraction (negative : Bool) (digits : Nat) (scale : Int) (b : UInt8) : Option Numeral :=
  if b = 0x65 ∨ b = 0x45 then some (.exponentMark negative digits scale) else none

/-- Reads one byte; nothing where the literal ends before it. -/
def step : Numeral → UInt8 → Except Cause (Option Numeral)
  | .sign, b =>
    match digit? b with
    | some 0 => .ok (some (.leadingZero true))
    | some d => .ok (some (.whole true d))
    | none => .error .invalidNumber
  | .leadingZero neg, b =>
    match digit? b with
    | some _ => .error .invalidNumber
    | none => .ok (afterWhole neg 0 0 b)
  | .whole neg m, b =>
    match digit? b with
    | some d => .ok (some (if m * 10 + d ≤ digitLimit then .whole neg (m * 10 + d) else .longWhole neg m 1))
    | none => .ok (afterWhole neg m 0 b)
  | .longWhole neg m s, b =>
    match digit? b with
    | some _ => .ok (some (.longWhole neg m (s + 1)))
    | none => .ok (afterWhole neg m s b)
  | .fraction neg m s started, b =>
    match digit? b with
    | some d =>
      .ok (some (if m * 10 + d ≤ digitLimit then .fraction neg (m * 10 + d) (s - 1) true else .longFraction neg m s))
    | none => if started then .ok (afterFraction neg m s b) else .error .invalidNumber
  | .longFraction neg m s, b =>
    match digit? b with
    | some _ => .ok (some (.longFraction neg m s))
    | none => .ok (afterFraction neg m s b)
  | .exponentMark neg m s, b =>
    if b = 0x2B then .ok (some (.exponentSign neg m s true))
    else if b = 0x2D then .ok (some (.exponentSign neg m s false))
    else
      match digit? b with
      | some d => .ok (some (.exponent neg m s true d))
      | none => .error .invalidNumber
  | .exponentSign neg m s up, b =>
    match digit? b with
    | some d => .ok (some (.exponent neg m s up d))
    | none => .error .invalidNumber
  | .exponent neg m s up e, b =>
    match digit? b with
    | some d =>
      if e * 10 + d ≤ exponentLimit then .ok (some (.exponent neg m s up (e * 10 + d)))
      else if up && m != 0 then .error .numberOutOfRange
      else .ok (some (.vanishing neg))
    | none => .ok none
  | .vanishing neg, b =>
    match digit? b with
    | some _ => .ok (some (.vanishing neg))
    | none => .ok none

/-- A number divided by `10 ^ k`, in steps of `10 ^ 308` with a rounding after each. -/
def shrink (x : Binary64) (k : Nat) : Binary64 :=
  if k ≤ 308 then (x.div? (.tenTo k)).getD .zero
  else if x.isZero then x
  else shrink ((x.div? (.tenTo 308)).getD .zero) (k - 308)
termination_by k

/-- The collected digits times a power of ten, or nothing where that is beyond the largest number. -/
def scale? (digits : Nat) : Int → Option Binary64
  | .ofNat k =>
    if k ≤ 308 then (Binary64.ofNat digits).mul? (.tenTo k)
    else if digits = 0 then some .zero
    else none
  | .negSucc k => some (shrink (.ofNat digits) (k + 1))

/-- The number of a literal with a fraction or an exponent, or with too many digits. -/
def floatValue (negative : Bool) (digits : Nat) (scale : Int) : Except Cause Json :=
  match scale? digits scale with
  | some x => .ok (.float (x.withSign negative))
  | none => .error .numberOutOfRange

/-- The number of a literal that is one sign and one number of 64 bits. A negative one beyond the signed range and a negative
zero are binary64 numbers. -/
def wholeValue (negative : Bool) (digits : Nat) : Json :=
  if negative then
    if 0 < digits ∧ digits ≤ 0x8000000000000000 then .int (-(digits : Int)) else .float ((Binary64.ofNat digits).withSign true)
  else .int digits

/-- The value of the literal that ends here. -/
def value : Numeral → Except Cause Json
  | .sign => .error .endInValue
  | .leadingZero neg => .ok (wholeValue neg 0)
  | .whole neg m => .ok (wholeValue neg m)
  | .longWhole neg m s => floatValue neg m s
  | .fraction neg m s started => if started then floatValue neg m s else .error .endInValue
  | .longFraction neg m s => floatValue neg m s
  | .exponentMark .. => .error .endInValue
  | .exponentSign .. => .error .endInValue
  | .exponent neg m s up e => floatValue neg m (if up then s + e else s - e)
  | .vanishing neg => .ok (.float (Binary64.zero.withSign neg))

end Numeral

end RecordSheets.Json
