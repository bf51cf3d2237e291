import Mathlib.Algebra.Order.Field.Basic
import Mathlib.Tactic.Linarith
import RecordSheets.Proofs.Number.Rounding
import RecordSheets.Proofs.Text.Numbers
import RecordSheets.Statistics
import RecordSheets.Text.Pieces

/-!
# Amounts of data

An amount of data is printed after two roundings: to 53 binary digits, and then, unless it is given in bytes, to hundredths of its unit.
When its text is read back as an exact number (`Amount.read?`), this number is off by 0.00501 of the unit at most, and a larger amount
never reads as a smaller number (`byteText_readBack`).

Within one unit the order is kept because both roundings keep it. From one unit to the next it is kept because a unit is a whole number
of each smaller one, so that no rounding moves it (`ByteUnit.rounded_size`): what is below the unit does not read as more than it, and
what has reached it does not read as less.
-/

namespace RecordSheets

/-! ## Numerals -/

namespace Text

/-- A decimal numeral: the number that its digits make without the point, and how many of them stand behind the point. -/
structure Numeral where
  digits : Nat
  places : Nat
  deriving DecidableEq, Repr

namespace Numeral

def value (x : Numeral) : ℚ := x.digits / 10 ^ x.places

/-- Reads one or more ASCII digits, however many, as a number. -/
def whole? (cs : List Char) : Option Nat :=
  if !cs.isEmpty && cs.all Char.isDigit then some (Nat.ofDigitChars 10 cs 0) else none

/-- Reads digits, or digits on both sides of a point. -/
def read? (cs : List Char) : Option Numeral :=
  match pieces '.' cs with
  | [whole] => (whole? whole).map fun n => ⟨n, 0⟩
  | [whole, rest] => if whole.isEmpty || rest.isEmpty then none else (whole? (whole ++ rest)).map fun n => ⟨n, rest.length⟩
  | _ => none

/-- Digits are read as their value. -/
theorem whole?_of_digits {cs : List Char} {n : Nat} (h : Digits cs n) : whole? cs = some n := by
  have hread : (!cs.isEmpty && cs.all Char.isDigit) = true := by simpa using ⟨h.nonempty, h.digits⟩
  rw [whole?, if_pos hread, h.value]

theorem read?_whole {cs : List Char} {n : Nat} (h : Digits cs n) : read? cs = some ⟨n, 0⟩ := by
  have hpoint : '.' ∉ cs := h.not_mem rfl
  rw [read?, pieces_of_not_mem hpoint]
  simp only [whole?_of_digits h, Option.map_some]

/-- Digits with a point among them are read as their value without it, and as many places as there are digits behind it. -/
theorem read?_point {whole rest : List Char} {n : Nat} (hwhole : whole ≠ []) (hrest : rest ≠ []) (h : Digits (whole ++ rest) n) :
    read? (whole ++ '.' :: rest) = some ⟨n, rest.length⟩ := by
  have hpoint : '.' ∉ whole ++ rest := h.not_mem rfl
  rw [List.mem_append, not_or] at hpoint
  have hboth : ¬(whole.isEmpty || rest.isEmpty) = true := by simp [hwhole, hrest]
  rw [read?, pieces_append_cons, pieces_of_not_mem hpoint.1, pieces_of_not_mem hpoint.2]
  simp only [List.singleton_append, if_neg hboth, whole?_of_digits h, Option.map_some]

end Numeral

end Text

/-- A number with decimal places is its digits with the point among them. -/
theorem Decimal.exists_fixed {places : Nat} (hplaces : places ≠ 0) (num den : Nat) :
    ∃ whole rest, fixed places num den = whole ++ '.' :: rest ∧ whole ≠ [] ∧ rest.length = places ∧
      Text.Digits (whole ++ rest) (roundDiv (num * Nat.pow 10 places) den) := by
  have hdigits := Text.digits_decimalAtLeast (places + 1) (roundDiv (num * Nat.pow 10 places) den)
  have hlength : places + 1 ≤ (Text.decimalAtLeast (places + 1) (roundDiv (num * Nat.pow 10 places) den)).length := by
    rw [Text.decimalAtLeast, List.length_append, List.length_replicate]
    omega
  unfold fixed
  simp only [if_neg hplaces]
  generalize Text.decimalAtLeast (places + 1) (roundDiv (num * Nat.pow 10 places) den) = ds at hdigits hlength ⊢
  refine ⟨ds.take (ds.length - places), ds.drop (ds.length - places), rfl, ?_, ?_, ?_⟩
  · apply List.ne_nil_of_length_pos
    rw [List.length_take]
    omega
  · rw [List.length_drop]
    omega
  · rwa [List.take_append_drop]

/-! ## Amounts as they read -/

/-- An amount of data: a numeral, and the number of bytes of the unit that it is given in. -/
structure Amount where
  numeral : Text.Numeral
  unit : Nat
  deriving DecidableEq, Repr

namespace Amount

def bytes (a : Amount) : ℚ := a.numeral.value * a.unit

/-- The units by their signs. -/
def units : List (String × Nat) := [("B", 1), ("KB", 2 ^ 10), ("MB", 2 ^ 20), ("GB", 2 ^ 30)]

/-- Reads a numeral and the sign of a unit with a blank between them. -/
def read? (text : String) : Option Amount :=
  match Text.pieces ' ' text.toList with
  | [number, sign] =>
    (Text.Numeral.read? number).bind fun x => (units.lookup (String.ofList sign)).map fun unit => ⟨x, unit⟩
  | _ => none

/-- A numeral, a blank and the sign of a unit are read as what they say. -/
theorem read?_of_toList {text : String} {number : List Char} {x : Text.Numeral} {u : ByteUnit}
    (htext : text.toList = number ++ ' ' :: u.label.toList) (hblank : ' ' ∉ number) (hread : Text.Numeral.read? number = some x) :
    read? text = some ⟨x, u.size⟩ := by
  have hlabel : ' ' ∉ u.label.toList := by cases u <;> decide
  have hunit : units.lookup u.label = some u.size := by cases u <;> rfl
  rw [read?, htext, Text.pieces_append_cons, Text.pieces_of_not_mem hblank, Text.pieces_of_not_mem hlabel]
  simp only [List.singleton_append, hread, Option.bind_some, String.ofList_toList, hunit, Option.map_some]

example : read? "1024.00 KB" = some ⟨⟨102400, 2⟩, 1024⟩ := by decide +kernel

end Amount

/-! ## Hundredths of a unit -/

namespace ByteUnit

/-- A number of bytes after both roundings, to 53 binary digits and to hundredths of a unit. -/
def rounded (u : ByteUnit) (n : Nat) : ℚ := roundDiv (round53 n * 100) u.size / 100 * u.size

theorem size_pos (u : ByteUnit) : 0 < u.size := by cases u <;> decide

/-- More bytes are not rounded to less. -/
theorem rounded_mono (u : ByteUnit) {n m : Nat} (h : n ≤ m) : u.rounded n ≤ u.rounded m := by
  have hquotient : roundDiv (round53 n * 100) u.size ≤ roundDiv (round53 m * 100) u.size :=
    roundDiv_mono u.size_pos (Nat.mul_le_mul_right 100 (round53_mono h))
  have hcast : (roundDiv (round53 n * 100) u.size : ℚ) ≤ roundDiv (round53 m * 100) u.size := by exact_mod_cast hquotient
  unfold rounded
  gcongr

/-- A whole number of units stays as it is. -/
theorem rounded_mul (u : ByteUnit) {k : Nat} (h : k * u.size < 2 ^ 53) : u.rounded (k * u.size) = (k * u.size : Nat) := by
  have hquotient : roundDiv (round53 (k * u.size) * 100) u.size = k * 100 := by
    rw [round53_of_lt h, Nat.mul_right_comm, roundDiv_mul u.size_pos]
  rw [rounded, hquotient]
  push_cast
  ring

/-- Rounding to hundredths of a unit moves a number by half of one at most. -/
theorem abs_rounded_sub_round53_le (u : ByteUnit) (n : Nat) : |u.rounded n - round53 n| ≤ u.size / 200 := by
  obtain ⟨hup, hdown⟩ := roundDiv_near (round53 n * 100) u.size u.size_pos
  rw [rounded]
  generalize roundDiv (round53 n * 100) u.size = c at hup hdown ⊢
  have hup' : 2 * (round53 n * 100 : ℚ) ≤ u.size * (2 * c + 1) := by exact_mod_cast hup
  have hdown' : (u.size : ℚ) * (2 * c) ≤ 2 * (round53 n * 100) + u.size := by exact_mod_cast hdown
  rw [abs_le]
  constructor <;> linarith

/-! ## The unit that fits -/

theorem size_injective {u v : ByteUnit} (h : u.size = v.size) : u = v := by
  revert h
  cases u <;> cases v <;> decide

/-- A unit is a whole number of each smaller one. -/
theorem size_dvd {u v : ByteUnit} (h : u.size ≤ v.size) : u.size ∣ v.size := by
  revert h
  cases u <;> cases v <;> decide

/-- An amount reaches the unit that it is given in. -/
theorem size_fitting_le {n : Nat} (h : n ≠ 0) : (fitting n).size ≤ n := by
  unfold fitting
  split_ifs with hgiga hmega hkilo
  · exact hgiga
  · exact hmega
  · exact hkilo
  · exact Nat.pos_of_ne_zero h

/-- An amount reaches no larger unit than the one that it is given in. -/
theorem size_le_size_fitting {u : ByteUnit} {n : Nat} (h : u.size ≤ n) : u.size ≤ (fitting n).size := by
  cases u with
  | one => exact (fitting n).size_pos
  | kilo | mega | giga =>
    unfold fitting
    split_ifs <;> decide

/-- A larger amount is given in no smaller unit. -/
theorem size_fitting_mono {n m : Nat} (h : n ≤ m) : (fitting n).size ≤ (fitting m).size := by
  rcases Nat.eq_zero_or_pos n with rfl | hpos
  · exact (fitting m).size_pos
  · exact size_le_size_fitting ((size_fitting_le (Nat.ne_of_gt hpos)).trans h)

/-- A unit itself stays as it is in each unit that is not larger. -/
theorem rounded_size {u v : ByteUnit} (h : u.size ≤ v.size) : u.rounded v.size = v.size := by
  obtain ⟨k, hk⟩ := size_dvd h
  have hsmall : v.size < 2 ^ 53 := by cases v <;> decide
  rw [Nat.mul_comm] at hk
  rw [hk] at hsmall ⊢
  exact u.rounded_mul hsmall

/-- An amount that is given in bytes is counted exactly. -/
theorem rounded_of_fitting_one {n : Nat} (h : fitting n = one) : one.rounded n = n := by
  have hsmall : n < 1024 := by
    by_contra hlarge
    have hkilo := @size_le_size_fitting kilo n (Nat.le_of_not_lt hlarge)
    rw [h] at hkilo
    exact absurd hkilo (by decide)
  have hunits : n * one.size = n := Nat.mul_one n
  have hcount := @rounded_mul one n (by rw [hunits]; omega)
  rwa [hunits] at hcount

/-- More bytes are not rounded to less, each number in the unit that fits it. -/
theorem rounded_fitting_mono {n m : Nat} (h : n ≤ m) : (fitting n).rounded n ≤ (fitting m).rounded m := by
  rcases Nat.eq_zero_or_pos m with rfl | hpos
  · rw [Nat.le_zero.1 h]
  have hreached : (fitting m).size ≤ m := size_fitting_le (Nat.ne_of_gt hpos)
  have hunits := size_fitting_mono h
  rcases Nat.lt_or_ge n (fitting m).size with hbelow | hnot
  · -- The unit of the larger number stands between both, and no rounding moves it.
    calc (fitting n).rounded n ≤ (fitting n).rounded (fitting m).size := rounded_mono _ hbelow.le
      _ = (fitting m).size := rounded_size hunits
      _ = (fitting m).rounded (fitting m).size := (rounded_size (Nat.le_refl _)).symm
      _ ≤ (fitting m).rounded m := rounded_mono _ hreached
  · rw [size_injective (Nat.le_antisymm hunits (size_le_size_fitting hnot))]
    exact rounded_mono _ h

/-- Rounding to 53 binary digits moves a number of 64 bits by less than a hundred-thousandth of the unit that fits it. -/
theorem abs_round53_sub_le {n : Nat} (h : n < 2 ^ 64) : |(round53 n : ℚ) - n| ≤ (fitting n).size / 100000 := by
  rcases Nat.lt_or_ge n (2 ^ 53) with hexact | hlarge
  · rw [round53_of_lt hexact, sub_self, abs_zero]
    exact div_nonneg (Nat.cast_nonneg _) (by norm_num)
  · have hgiga : fitting n = giga := if_pos (Nat.le_trans (by decide) hlarge)
    have hsize : (giga.size : ℚ) = 1073741824 := by norm_num [size]
    have hspacing : spacing n ≤ 2 ^ 11 := spacing_le_of_lt h
    obtain ⟨hup, hdown⟩ := round53_near n
    have hup' : (n : ℚ) ≤ round53 n + 1024 := by exact_mod_cast (show n ≤ round53 n + 1024 by omega)
    have hdown' : (round53 n : ℚ) ≤ n + 1024 := by exact_mod_cast (show round53 n ≤ n + 1024 by omega)
    rw [hgiga, hsize, abs_le]
    constructor <;> linarith

/-- A number of 64 bits is moved by 0.00501 of the unit that fits it at most. -/
theorem abs_rounded_fitting_sub_le {n : Nat} (h : n < 2 ^ 64) :
    |(fitting n).rounded n - n| ≤ 501 / 100000 * (fitting n).size :=
  calc |(fitting n).rounded n - n| ≤ |(fitting n).rounded n - round53 n| + |(round53 n : ℚ) - n| := abs_sub_le ..
    _ ≤ (fitting n).size / 200 + (fitting n).size / 100000 :=
      add_le_add ((fitting n).abs_rounded_sub_round53_le n) (abs_round53_sub_le h)
    _ = 501 / 100000 * (fitting n).size := by ring

end ByteUnit

/-! ## Printed amounts -/

/-- An amount below the first larger unit is printed as its digits. -/
theorem read?_byteText_of_one {n : Nat} (h : ByteUnit.fitting n = .one) : Amount.read? (byteText n) = some ⟨⟨n, 0⟩, 1⟩ := by
  have htext : (byteText n).toList = Text.decimal n ++ ' ' :: ByteUnit.one.label.toList := by
    unfold byteText
    rw [h]
    simp only [Nat.toString_eq_repr, String.toList_append, Nat.toList_repr]
    rfl
  have hdigits := Text.digits_decimal n
  exact Amount.read?_of_toList htext (hdigits.not_mem rfl) (Text.Numeral.read?_whole hdigits)

/-- Any other amount is printed as a number of hundredths. -/
theorem read?_byteText_of_ne {n : Nat} (h : ByteUnit.fitting n ≠ .one) :
    Amount.read? (byteText n) =
      some ⟨⟨roundDiv (round53 n * 100) (ByteUnit.fitting n).size, 2⟩, (ByteUnit.fitting n).size⟩ := by
  obtain ⟨whole, rest, hfixed, hwhole, hrest, hdigits⟩ :=
    Decimal.exists_fixed (show 2 ≠ 0 by decide) (round53 n) (ByteUnit.fitting n).size
  have htext : (byteText n).toList = (whole ++ '.' :: rest) ++ ' ' :: (ByteUnit.fitting n).label.toList := by
    unfold byteText
    split
    · contradiction
    · simp only [hfixed, String.toList_append, String.toList_ofList, List.append_assoc]
      rfl
  have hblank : ' ' ∉ whole ++ '.' :: rest := by
    have hnone : ' ' ∉ whole ++ rest := hdigits.not_mem rfl
    simpa using hnone
  have hne : rest ≠ [] := List.ne_nil_of_length_pos (by omega)
  rw [Amount.read?_of_toList htext hblank (Text.Numeral.read?_point hwhole hne hdigits), hrest]

/-- The text of an amount reads as the amount rounded in the unit that fits it. -/
theorem exists_read?_byteText (n : Nat) :
    ∃ a, Amount.read? (byteText n) = some a ∧ a.unit = (ByteUnit.fitting n).size ∧ a.bytes = (ByteUnit.fitting n).rounded n := by
  by_cases hone : ByteUnit.fitting n = .one
  · refine ⟨_, read?_byteText_of_one hone, by rw [hone]; rfl, ?_⟩
    rw [hone, ByteUnit.rounded_of_fitting_one hone]
    simp [Amount.bytes, Text.Numeral.value]
  · refine ⟨_, read?_byteText_of_ne hone, rfl, ?_⟩
    simp only [Amount.bytes, Text.Numeral.value, ByteUnit.rounded]
    norm_num

/-- The text of every amount of 64 bits reads as a number of bytes again, which is off by 0.00501 of the unit at most, and not at all if
the unit is the byte; and of two amounts the larger one does not read as the smaller number. -/
theorem byteText_readBack :
    (∀ n : UInt64, ∃ a, Amount.read? (byteText n.toNat) = some a ∧ |a.bytes - n.toNat| ≤ 501 / 100000 * a.unit ∧
        (a.unit = 1 → a.bytes = n.toNat)) ∧
      ∀ n m : UInt64, n ≤ m → ∃ a b, Amount.read? (byteText n.toNat) = some a ∧ Amount.read? (byteText m.toNat) = some b ∧
        a.bytes ≤ b.bytes := by
  constructor
  case left =>
    intro n
    obtain ⟨a, hread, hunit, hbytes⟩ := exists_read?_byteText n.toNat
    refine ⟨a, hread, ?_, ?_⟩
    · rw [hbytes, hunit]
      exact ByteUnit.abs_rounded_fitting_sub_le n.toNat_lt
    · intro hone
      have hfitting : ByteUnit.fitting n.toNat = .one := ByteUnit.size_injective (hunit.symm.trans hone)
      rw [hbytes, hfitting, ByteUnit.rounded_of_fitting_one hfitting]
  case right =>
    intro n m h
    obtain ⟨a, hread, -, hbytes⟩ := exists_read?_byteText n.toNat
    obtain ⟨b, hread', -, hbytes'⟩ := exists_read?_byteText m.toNat
    refine ⟨a, b, hread, hread', ?_⟩
    rw [hbytes, hbytes']
    exact ByteUnit.rounded_fitting_mono (UInt64.le_iff_toNat_le.1 h)

/-- The last amount below a megabyte is printed as 1024.00 KB and the next one as 1.00 MB, which does not read as less; and the last amount
below a kilobyte reads as what it is. -/
theorem byteText_readBack_boundaries :
    (byteText 1048575 = "1024.00 KB" ∧ byteText 1048576 = "1.00 MB" ∧ (1048575 : UInt64) ≤ 1048576 ∧
        ∃ a b, Amount.read? "1024.00 KB" = some a ∧ Amount.read? "1.00 MB" = some b ∧ a.bytes ≤ b.bytes) ∧
      byteText 1023 = "1023 B" ∧ ∃ a, Amount.read? "1023 B" = some a ∧ a.unit = 1 ∧ a.bytes = (1023 : Nat) := by
  have hbelow : byteText 1048575 = "1024.00 KB" := by decide +kernel
  have hreached : byteText 1048576 = "1.00 MB" := by decide +kernel
  have hcounted : byteText 1023 = "1023 B" := by decide +kernel
  constructor
  case left =>
    have hle : (1048575 : UInt64) ≤ 1048576 := by decide
    obtain ⟨a, b, ha, hb, hbytes⟩ := byteText_readBack.2 1048575 1048576 hle
    exact ⟨hbelow, hreached, hle, a, b, hbelow ▸ ha, hreached ▸ hb, hbytes⟩
  case right =>
    obtain ⟨a, ha, -, hexact⟩ := byteText_readBack.1 1023
    have hread : Amount.read? "1023 B" = some a := hcounted ▸ ha
    have hunit : (Amount.read? "1023 B").map Amount.unit = some 1 := by decide +kernel
    rw [hread, Option.map_some, Option.some.injEq] at hunit
    exact ⟨hcounted, a, hread, hunit, hexact hunit⟩

end RecordSheets
