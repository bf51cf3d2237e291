import RecordSheets.Text.Digits

/-!
# Written numbers

Which texts are read as numbers, and as which ones. A text of ASCII digits stands for its decimal value, however long it is
(`Text.Digits`), and a plus sign may stand in front of them (`Text.Unsigned`). Reading keeps to a limit at every digit, but the number
only grows on the way: a limit is passed if and only if the value passes it (`Text.digits?_eq_some_iff`). So zeros in front do no harm,
and a value beyond 64 bits never comes back as a smaller one.
-/

namespace RecordSheets.Text

/-- One or more ASCII digits with a decimal value. -/
structure Digits (cs : List Char) (n : Nat) : Prop where
  /-- There is a digit. -/
  nonempty : cs ≠ []
  /-- There is nothing else. -/
  digits : ∀ c ∈ cs, c.isDigit = true
  /-- The digits have this value. -/
  value : Nat.ofDigitChars 10 cs 0 = n

/-- One or more ASCII digits with a decimal value, and a plus sign in front or none. -/
inductive Unsigned : List Char → Nat → Prop where
  | bare {cs : List Char} {n : Nat} (h : Digits cs n) : Unsigned cs n
  | plus {cs : List Char} {n : Nat} (h : Digits cs n) : Unsigned ('+' :: cs) n

/-! ## Digits -/

theorem Digits.unique {cs : List Char} {n k : Nat} (h : Digits cs n) (h' : Digits cs k) : n = k := h.value.symm.trans h'.value

theorem Digits.not_mem {cs : List Char} {n : Nat} {c : Char} (h : Digits cs n) (hc : c.isDigit = false) : c ∉ cs := by
  intro hmem
  rw [h.digits c hmem] at hc
  cases hc

/-- Zeros in front of digits keep their value. -/
theorem digits_zeros_iff {cs : List Char} (hne : cs ≠ []) (width n : Nat) :
    Digits (List.replicate width '0' ++ cs) n ↔ Digits cs n := by
  have hvalue : Nat.ofDigitChars 10 (List.replicate width '0' ++ cs) 0 = Nat.ofDigitChars 10 cs 0 := by
    rw [Nat.ofDigitChars_append, Nat.ofDigitChars_replicate_zero, Nat.mul_zero]
  constructor
  · intro h
    exact ⟨hne, fun c hc => h.digits c (List.mem_append_right _ hc), hvalue ▸ h.value⟩
  · intro h
    refine ⟨List.append_ne_nil_of_right_ne_nil _ hne, ?_, hvalue.trans h.value⟩
    intro c hc
    rcases List.mem_append.1 hc with hc | hc
    · rw [(List.mem_replicate.1 hc).2]
      rfl
    · exact h.digits c hc

/-- The decimal digits of a number stand for it. -/
theorem digits_decimal (n : Nat) : Digits (decimal n) n where
  nonempty := Nat.toDigits_ne_nil
  digits _ hc := Nat.isDigit_of_mem_toDigits (by decide) (by decide) hc
  value := Nat.ofDigitChars_toDigits (by decide) (by decide)

/-- So they do with zeros in front up to a width. -/
theorem digits_decimalAtLeast (width n : Nat) : Digits (decimalAtLeast width n) n :=
  (digits_zeros_iff Nat.toDigits_ne_nil _ n).2 (digits_decimal n)

/-- A digit has its distance from zero as its value, and no other character has any. -/
theorem digitValue?_eq (c : Char) : digitValue? c = if c.isDigit = true then some (c.toNat - '0'.toNat) else none := by
  have hiff : ('0' ≤ c ∧ c ≤ '9') ↔ c.isDigit = true := Char.isDigit_iff_toNat.symm
  unfold digitValue?
  simp only [hiff]

/-- More digits make no smaller number. -/
theorem le_ofDigitChars (cs : List Char) (n : Nat) : n ≤ Nat.ofDigitChars 10 cs n := by
  induction cs generalizing n with
  | nil => exact Nat.le_refl n
  | cons c rest ih =>
    rw [Nat.ofDigitChars_cons]
    have := ih (10 * n + (c.toNat - '0'.toNat))
    omega

/-- Digits are appended to a number within the limit one by one if and only if the number that they make is within the limit. -/
theorem foldlM_appendDigit?_eq_some_iff {limit start : Nat} (hstart : start ≤ limit) (cs : List Char) (n : Nat) :
    cs.foldlM (appendDigit? limit) start = some n ↔
      (∀ c ∈ cs, c.isDigit = true) ∧ Nat.ofDigitChars 10 cs start = n ∧ n ≤ limit := by
  induction cs generalizing start with
  | nil =>
    simp only [List.foldlM_nil, Option.pure_def, Option.some.injEq, List.not_mem_nil, false_implies, implies_true, true_and,
      Nat.ofDigitChars_nil]
    exact ⟨fun h => ⟨h, h ▸ hstart⟩, fun h => h.1⟩
  | cons c rest ih =>
    rw [List.foldlM_cons, appendDigit?, digitValue?_eq, List.forall_mem_cons, Nat.ofDigitChars_cons,
      Nat.mul_comm 10 start]
    cases hdigit : c.isDigit with
    | false => simp
    | true =>
      simp only [if_true, Option.bind_some, Option.bind_eq_bind, true_and]
      by_cases hlimit : start * 10 + (c.toNat - '0'.toNat) ≤ limit
      · rw [if_pos hlimit, Option.bind_some, ih hlimit]
      · -- The number has passed the limit and does not come back below it.
        have hgrows := le_ofDigitChars rest (start * 10 + (c.toNat - '0'.toNat))
        rw [if_neg hlimit, Option.bind_none]
        constructor
        · intro h
          cases h
        · rintro ⟨-, rfl, hle⟩
          omega

/-- Digits are read as their value if this is within the limit. -/
theorem digits?_eq_some_iff (limit : Nat) (cs : List Char) (n : Nat) : digits? limit cs = some n ↔ Digits cs n ∧ n ≤ limit := by
  cases cs with
  | nil =>
    constructor
    · intro h
      cases h
    · exact fun h => absurd rfl h.1.nonempty
  | cons c rest =>
    rw [digits?, foldlM_appendDigit?_eq_some_iff (Nat.zero_le limit)]
    constructor
    · rintro ⟨hdigits, hvalue, hle⟩
      exact ⟨⟨List.cons_ne_nil c rest, hdigits, hvalue⟩, hle⟩
    · rintro ⟨h, hle⟩
      exact ⟨h.digits, h.value, hle⟩

/-! ## Numbers -/

/-- A text with a plus sign in front is a number if the rest is one of digits. -/
theorem unsigned_plus_iff (cs : List Char) (n : Nat) : Unsigned ('+' :: cs) n ↔ Digits cs n := by
  constructor
  · intro h
    cases h with
    | bare h => cases h.digits '+' List.mem_cons_self
    | plus h => exact h
  · exact .plus

/-- A text without a plus sign in front is a number if it is one of digits. -/
theorem unsigned_bare_iff {cs : List Char} (h : cs.head? ≠ some '+') (n : Nat) : Unsigned cs n ↔ Digits cs n := by
  constructor
  · intro hn
    cases hn with
    | bare hn => exact hn
    | plus _ => exact absurd rfl h
  · exact .bare

/-- A text is read as a number if it is one and this fits in 64 bits. -/
theorem unsigned?_eq_some_iff (cs : List Char) (n : Nat) : unsigned? cs = some n ↔ Unsigned cs n ∧ n ≤ wordLimit := by
  by_cases hplus : cs.head? = some '+'
  · obtain ⟨rest, rfl⟩ := List.head?_eq_some_iff.1 hplus
    rw [unsigned_plus_iff]
    exact digits?_eq_some_iff wordLimit rest n
  · have hbare : unsigned?.dropPlus cs = cs := by
      unfold unsigned?.dropPlus
      split
      · exact absurd rfl hplus
      · rfl
    rw [unsigned?, hbare, unsigned_bare_iff hplus, digits?_eq_some_iff]

theorem Unsigned.unique {cs : List Char} {n k : Nat} (h : Unsigned cs n) (h' : Unsigned cs k) : n = k := by
  by_cases hplus : cs.head? = some '+'
  · obtain ⟨rest, rfl⟩ := List.head?_eq_some_iff.1 hplus
    exact ((unsigned_plus_iff rest n).1 h).unique ((unsigned_plus_iff rest k).1 h')
  · exact ((unsigned_bare_iff hplus n).1 h).unique ((unsigned_bare_iff hplus k).1 h')

/-- A number has a digit, and nothing in it but digits and a plus sign. -/
theorem Unsigned.shape {cs : List Char} {n : Nat} (h : Unsigned cs n) :
    cs ≠ [] ∧ cs ≠ ['+'] ∧ ∀ c ∈ cs, c ≠ '+' → c.isDigit = true := by
  cases h with
  | bare h =>
    refine ⟨h.nonempty, ?_, fun c hc _ => h.digits c hc⟩
    rintro rfl
    cases h.digits '+' List.mem_cons_self
  | plus h =>
    refine ⟨List.cons_ne_nil _ _, fun heq => h.nonempty (List.cons.inj heq).2, ?_⟩
    intro c hc hplus
    exact h.digits c ((List.mem_cons.1 hc).resolve_left hplus)

end RecordSheets.Text
