import RecordSheets.Number.Decimal
import RecordSheets.Outcome

/-!
# Statistics

Counters over the outcomes of a run. Every counter has 64 bits and wraps around. An outcome is counted in single steps,
each of which adds to one counter; steps of different outcomes may come in any order.
-/

namespace RecordSheets

/-- One step of counting. -/
inductive Tick where
  | success
  | error
  | empty
  | unavailable
  | rows (n : UInt64)
  | bytes (n : UInt64)
  deriving DecidableEq, Repr

/-- The steps that count an outcome. -/
def Outcome.ticks : Outcome → List Tick
  | .written _ rows bytes => [.success, .rows rows.toUInt64, .bytes bytes.toUInt64]
  | .empty => [.empty]
  | .failed _ => [.error]

/-- The counters of a run over a number of categories. -/
structure Statistics where
  /-- The number of categories of the run. -/
  total : Nat
  /-- How many sheets were written. -/
  success : UInt64 := 0
  /-- How many categories failed. -/
  error : UInt64 := 0
  /-- How many categories had nothing to write. -/
  empty : UInt64 := 0
  /-- How many categories had no records to be had. -/
  unavailable : UInt64 := 0
  /-- How many rows were written. -/
  rows : UInt64 := 0
  /-- How many bytes were written. -/
  bytes : UInt64 := 0
  deriving DecidableEq, Repr

namespace Statistics

/-- The counters after one step. -/
def tick (s : Statistics) : Tick → Statistics
  | .success => { s with success := s.success + 1 }
  | .error => { s with error := s.error + 1 }
  | .empty => { s with empty := s.empty + 1 }
  | .unavailable => { s with unavailable := s.unavailable + 1 }
  | .rows n => { s with rows := s.rows + n }
  | .bytes n => { s with bytes := s.bytes + n }

/-- The counters after some steps. -/
def ticks (s : Statistics) (steps : List Tick) : Statistics := steps.foldl tick s

/-- The counters with an outcome counted. -/
def record (s : Statistics) (outcome : Outcome) : Statistics := s.ticks outcome.ticks

/-- The share of categories with a sheet in per cent, with one decimal place. The quotient and the product with a hundred are
each rounded to binary64 first. -/
def successRate (s : Statistics) : String :=
  let share := (Binary64.ofQuotient? s.success.toNat s.total 0).getD .zero
  let percent := ((share.mul? (.ofNat 100)).getD .zero).quotient
  String.ofList (Decimal.fixed 1 percent.1 percent.2)

end Statistics

/-- A span of time. -/
structure Duration where
  /-- The whole seconds. -/
  seconds : Nat
  /-- The rest in nanoseconds, less than a second. -/
  nanoseconds : Nat
  deriving DecidableEq, Repr

namespace Duration

/-- The whole milliseconds beyond the seconds. -/
def milliseconds (d : Duration) : Nat := d.nanoseconds / 1000000

/-- A span of time in the two largest units that it reaches. -/
def text (d : Duration) : String :=
  if 3600 ≤ d.seconds then s!"{d.seconds / 3600}시간 {d.seconds % 3600 / 60}분"
  else if 60 ≤ d.seconds then s!"{d.seconds / 60}분 {d.seconds % 60}초"
  else if 0 < d.seconds then s!"{d.seconds}." ++ String.ofList (Text.decimalAtLeast 3 d.milliseconds) ++ "초"
  else s!"{d.milliseconds}ms"

end Duration

/-- The units in which amounts of data are given. -/
inductive ByteUnit where
  | one
  | kilo
  | mega
  | giga
  deriving DecidableEq, Repr

namespace ByteUnit

def size : ByteUnit → Nat
  | .one => 1
  | .kilo => 1024
  | .mega => 1024 * 1024
  | .giga => 1024 * 1024 * 1024

def label : ByteUnit → String
  | .one => "B"
  | .kilo => "KB"
  | .mega => "MB"
  | .giga => "GB"

/-- The largest unit that an amount reaches. -/
def fitting (n : Nat) : ByteUnit :=
  if giga.size ≤ n then .giga
  else if mega.size ≤ n then .mega
  else if kilo.size ≤ n then .kilo
  else .one

end ByteUnit

/-- An amount of data in the largest unit that it reaches, with two decimal places unless that is the byte. The amount is
rounded to 53 binary digits first. -/
def byteText (n : Nat) : String :=
  match ByteUnit.fitting n with
  | .one => s!"{n} B"
  | unit => String.ofList (Decimal.fixed 2 (round53 n) unit.size) ++ " " ++ unit.label

end RecordSheets
