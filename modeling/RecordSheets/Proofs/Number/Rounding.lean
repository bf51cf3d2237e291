import Mathlib.Data.Nat.Log
import Mathlib.Tactic.Ring
import RecordSheets.Number.Rounding

/-!
# Rounding keeps the order

Rounding to nearest never turns two numbers around: neither for quotients (`roundDiv_mono`) nor for numbers cut to 53 binary digits
(`round53_mono`), although the spacing of these doubles at every power of two. For the powers of two are themselves among the numbers
with 53 digits, so that a number and its rounding lie between the same two of them.

A number below 2^53 is its own rounding (`round53_of_lt`), and every other one is moved by half of the spacing at most
(`round53_near`).
-/

namespace RecordSheets

/-! ## Quotients -/

theorem roundDiv_mono {num num' den : Nat} (hden : 0 < den) (h : num ≤ num') : roundDiv num den ≤ roundDiv num' den := by
  rcases Nat.eq_or_lt_of_le h with rfl | hlt
  · exact Nat.le_refl _
  · by_contra hgt
    -- The quotients would be turned around by one at least, with both numbers at the middle between them.
    have hturned : den * (2 * (roundDiv num' den + 1)) ≤ den * (2 * roundDiv num den) := Nat.mul_le_mul_left den (by omega)
    have hsplit : den * (2 * (roundDiv num' den + 1)) = den * (2 * roundDiv num' den + 1) + den := by ring
    have hup := (roundDiv_near num' den hden).1
    have hdown := (roundDiv_near num den hden).2
    omega

/-- A multiple of the divisor has its exact quotient. -/
theorem roundDiv_mul {den : Nat} (hden : 0 < den) (k : Nat) : roundDiv (k * den) den = k := by
  unfold roundDiv
  rw [Nat.mul_div_cancel k hden, Nat.mul_mod_left]
  exact if_pos hden

/-! ## 53 binary digits -/

/-- The distance between neighbouring numbers of 53 binary digits around a number, or one below 2^53. -/
def spacing (n : Nat) : Nat := 2 ^ (Nat.log2 n - 52)

theorem spacing_pos (n : Nat) : 0 < spacing n := Nat.two_pow_pos _

theorem round53_eq (n : Nat) : round53 n = roundDiv n (spacing n) * spacing n := rfl

/-- A number is moved by half of the spacing at most. -/
theorem round53_near (n : Nat) : 2 * n ≤ 2 * round53 n + spacing n ∧ 2 * round53 n ≤ 2 * n + spacing n := by
  obtain ⟨hup, hdown⟩ := roundDiv_near n (spacing n) (spacing_pos n)
  have hmul : spacing n * (2 * roundDiv n (spacing n)) = 2 * round53 n := by
    rw [round53_eq]
    ring
  rw [Nat.mul_add, hmul, Nat.mul_one] at hup
  rw [hmul] at hdown
  exact ⟨hup, hdown⟩

/-- The spacing doubles with every binary digit beyond 53. -/
theorem spacing_le_of_lt {n k : Nat} (h : n < 2 ^ (53 + k)) : spacing n ≤ 2 ^ k := by
  rcases Nat.eq_zero_or_pos n with rfl | hpos
  · exact Nat.two_pow_pos k
  · have hlog := (Nat.log2_lt (Nat.ne_of_gt hpos)).2 h
    exact Nat.pow_le_pow_right (by decide) (by omega)

/-- A number below 2^53 stays as it is. -/
theorem round53_of_lt {n : Nat} (h : n < 2 ^ 53) : round53 n = n := by
  have hspacing : spacing n = 1 := Nat.le_antisymm (@spacing_le_of_lt n 0 h) (spacing_pos n)
  have hdiv := roundDiv_mul Nat.one_pos n
  rw [Nat.mul_one] at hdiv
  rw [round53_eq, hspacing, hdiv, Nat.mul_one]

/-- The powers of two from the last one below a number on are multiples of its spacing. -/
theorem roundDiv_two_pow {n k : Nat} (h : Nat.log2 n ≤ k) : roundDiv (2 ^ k) (spacing n) * spacing n = 2 ^ k := by
  have hmul : 2 ^ k = 2 ^ (k - (Nat.log2 n - 52)) * spacing n := by
    rw [spacing, ← pow_add]
    congr 1
    omega
  rw [hmul, roundDiv_mul (spacing_pos n)]

/-- A number is not rounded beyond the next power of two. -/
theorem round53_le_two_pow (n : Nat) : round53 n ≤ 2 ^ (Nat.log2 n + 1) :=
  calc round53 n = roundDiv n (spacing n) * spacing n := round53_eq n
    _ ≤ roundDiv (2 ^ (Nat.log2 n + 1)) (spacing n) * spacing n :=
      Nat.mul_le_mul_right _ (roundDiv_mono (spacing_pos n) Nat.lt_log2_self.le)
    _ = 2 ^ (Nat.log2 n + 1) := roundDiv_two_pow (Nat.le_succ _)

/-- A number is not rounded below the last power of two. -/
theorem two_pow_le_round53 {n : Nat} (h : n ≠ 0) : 2 ^ Nat.log2 n ≤ round53 n :=
  calc 2 ^ Nat.log2 n = roundDiv (2 ^ Nat.log2 n) (spacing n) * spacing n := (roundDiv_two_pow (Nat.le_refl _)).symm
    _ ≤ roundDiv n (spacing n) * spacing n :=
      Nat.mul_le_mul_right _ (roundDiv_mono (spacing_pos n) (Nat.log2_self_le h))
    _ = round53 n := (round53_eq n).symm

/-- A larger number is not rounded to a smaller one. -/
theorem round53_mono {n m : Nat} (h : n ≤ m) : round53 n ≤ round53 m := by
  have hlog : Nat.log2 n ≤ Nat.log2 m := by
    rw [Nat.log2_eq_log_two, Nat.log2_eq_log_two]
    exact Nat.log_mono_right h
  rcases Nat.eq_or_lt_of_le hlog with heq | hlt
  · have hspacing : spacing n = spacing m := by rw [spacing, spacing, heq]
    rw [round53_eq, round53_eq, hspacing]
    exact Nat.mul_le_mul_right _ (roundDiv_mono (spacing_pos m) h)
  · have hm : m ≠ 0 := by
      rintro rfl
      cases hlt
    calc round53 n ≤ 2 ^ (Nat.log2 n + 1) := round53_le_two_pow n
      _ ≤ 2 ^ Nat.log2 m := Nat.pow_le_pow_right (by decide) hlt
      _ ≤ round53 m := two_pow_le_round53 hm

end RecordSheets
