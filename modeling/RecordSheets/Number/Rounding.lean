/-!
# Rounding to nearest

Quotients of natural numbers rounded to the nearest natural number, and natural numbers rounded to 53 binary digits. A tie
goes to the even neighbour.
-/

namespace RecordSheets

/-- The quotient rounded to nearest; of two equally near numbers the even one. -/
def roundDiv (num den : Nat) : Nat :=
  let q := num / den
  let twice := 2 * (num % den)
  if twice < den then q
  else if den < twice then q + 1
  else if q % 2 = 0 then q else q + 1

/-- The nearest number that has at most 53 significant binary digits. -/
def round53 (n : Nat) : Nat :=
  let unit := Nat.pow 2 (Nat.log2 n - 52)
  roundDiv n unit * unit

/-- A rounded quotient is within half a unit of the exact one. -/
theorem roundDiv_near (num den : Nat) (h : 0 < den) :
    2 * num ≤ den * (2 * roundDiv num den + 1) ∧ den * (2 * roundDiv num den) ≤ 2 * num + den := by
  have hd := Nat.div_add_mod num den
  have hm := Nat.mod_lt num h
  unfold roundDiv
  simp only
  generalize hq : num / den = q at hd ⊢
  generalize hr : num % den = r at hd hm ⊢
  have e1 : den * (2 * q + 1) = 2 * (den * q) + den := by rw [Nat.mul_add, Nat.mul_left_comm]; omega
  have e2 : den * (2 * (q + 1) + 1) = 2 * (den * q) + 3 * den := by
    rw [Nat.mul_add, Nat.mul_left_comm, Nat.mul_add]; omega
  have e3 : den * (2 * q) = 2 * (den * q) := Nat.mul_left_comm ..
  have e4 : den * (2 * (q + 1)) = 2 * (den * q) + 2 * den := by rw [Nat.mul_left_comm, Nat.mul_add]; omega
  split
  · omega
  · split
    · omega
    · split <;> omega

end RecordSheets
