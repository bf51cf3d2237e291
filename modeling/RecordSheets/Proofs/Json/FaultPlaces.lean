import RecordSheets.Json.Reader

/-!
# Where a fault is

One reader stands for the two ways of reading a text, through a buffered stream and from mapped memory. The assumption behind it is that
both have one grammar, so that they find the same fault. They may name different places: a buffered stream is charged for the byte that
it had to look at. This byte makes a difference only behind a number that is out of range (`Reader.ahead_run`), and it is one byte: it
moves the place by one column, or to the start of the next line (`place_read`).
-/

namespace RecordSheets.Json

/-! ## Faults about the bytes before -/

namespace Numeral

/-- A number with a fraction or an exponent fails by its size alone. -/
theorem floatValue_eq_error {negative : Bool} {digits : Nat} {scale : Int} {c : Cause}
    (h : floatValue negative digits scale = .error c) : c = .numberOutOfRange := by
  unfold floatValue at h
  split at h
  · cases h
  · cases h
    rfl

/-- A literal that ends before a byte is cut off nowhere, so its value can only be out of range. -/
theorem value_eq_error {n : Numeral} {b : UInt8} {c : Cause} (hstep : n.step b = .ok none) (hvalue : n.value = .error c) :
    c = .numberOutOfRange := by
  cases n with
  | sign =>
    simp only [step] at hstep
    split at hstep
    all_goals cases hstep
  | leadingZero neg => cases hvalue
  | whole neg m => cases hvalue
  | longWhole neg m s => exact floatValue_eq_error hvalue
  | fraction neg m s started =>
    cases started with
    | true => exact floatValue_eq_error hvalue
    | false =>
      simp only [step] at hstep
      split at hstep
      all_goals cases hstep
  | longFraction neg m s => exact floatValue_eq_error hvalue
  | exponentMark neg m s =>
    simp only [step] at hstep
    repeat' split at hstep
    all_goals cases hstep
  | exponentSign neg m s up =>
    simp only [step] at hstep
    split at hstep
    all_goals cases hstep
  | exponent neg m s up e => exact floatValue_eq_error hvalue
  | vanishing neg => cases hvalue

end Numeral

namespace Reader

/-- A fault at a byte is not about the bytes before. -/
theorem atByte_ne_ahead (x : Except Cause Reader) (c : Cause) : step.atByte x ≠ .error (c, true) := by
  intro h
  cases x with
  | error c' => cases h
  | ok r => cases h

/-- At a byte a fault about the bytes before is a number out of range. -/
theorem ahead_step {r : Reader} {b : UInt8} {c : Cause} (h : r.step b = .error (c, true)) : c = .numberOutOfRange := by
  obtain ⟨frames, spot⟩ := r
  cases spot with
  | value want =>
    simp only [step] at h
    split at h
    · cases h
    · exact absurd h (atByte_ne_ahead _ c)
  | key fields opened =>
    simp only [step] at h
    split at h
    · cases h
    · exact absurd h (atByte_ne_ahead _ c)
  | colon fields key =>
    simp only [step] at h
    repeat' split at h
    all_goals cases h
  | after v => exact absurd h (atByte_ne_ahead _ c)
  | word left v =>
    cases left with
    | nil => exact absurd h (atByte_ne_ahead _ c)
    | cons letter left =>
      simp only [step] at h
      split at h
      all_goals cases h
  | string role got inside =>
    simp only [step] at h
    split at h
    · exact absurd h (atByte_ne_ahead _ c)
    · exact absurd h (atByte_ne_ahead _ c)
  | number n =>
    simp only [step] at h
    split at h
    · cases h
    · cases h
    · rename_i hstep
      split at h
      · rename_i hvalue
        cases h
        exact Numeral.value_eq_error hstep hvalue
      · exact absurd h (atByte_ne_ahead _ c)

/-- In a text a fault about the bytes before is a number out of range in front of one of its bytes. -/
theorem ahead_run {r : Reader} {seen : Nat} {text : Bytes} {f : Fault} (h : r.run seen text = .error f)
    (hahead : f.ahead = true) : f.cause = .numberOutOfRange ∧ seen < f.seen ∧ f.seen ≤ seen + text.length := by
  induction text generalizing r seen with
  | nil =>
    rw [run] at h
    cases hfinish : r.finish with
    | error c =>
      rw [hfinish] at h
      cases h
      cases hahead
    | ok v =>
      rw [hfinish] at h
      cases h
  | cons b rest ih =>
    rw [run] at h
    split at h
    · rename_i c ahead hstep
      cases h
      obtain rfl : ahead = true := hahead
      refine ⟨ahead_step hstep, ?_, ?_⟩
      · show seen < seen + 1
        omega
      · show seen + 1 ≤ seen + (rest.length + 1)
        omega
    · obtain ⟨hcause, hafter, hwithin⟩ := ih h
      refine ⟨hcause, by omega, ?_⟩
      rw [List.length_cons]
      omega

end Reader

/-! ## Places -/

/-- A place is one byte on from another: one column on in its line, or at the start of the next line. -/
def OneOn (place next : Nat × Nat) : Prop := next = (place.1, place.2 + 1) ∨ next = (place.1 + 1, 0)

/-- The place of a fault in the bytes charged for it. -/
theorem Fault.place_eq (f : Fault) {reading : Reading} {text read : Bytes} (h : text.take (f.charged reading) = read) :
    f.place reading text =
      (1 + read.count 0x0A, (read.reverse.takeWhile (· != 0x0A)).length - f.overhang) := by
  rw [← h]
  rfl

/-- A fault about the bytes before lies one byte further on if the byte behind them is charged. -/
theorem Fault.oneOn_place {f : Fault} {text : Bytes} (hahead : f.ahead = true) (hseen : 0 < f.seen)
    (hwithin : f.seen ≤ text.length) (hover : f.overhang = 0) : OneOn (f.place .mapped text) (f.place .buffered text) := by
  obtain ⟨n, hn⟩ := Nat.exists_eq_succ_of_ne_zero (Nat.pos_iff_ne_zero.1 hseen)
  rw [hn] at hwithin
  have hmapped : text.take (f.charged .mapped) = text.take n := by
    rw [charged, if_pos hahead, hn, Nat.succ_sub_one]
  have hbuffered : text.take (f.charged .buffered) = text.take n ++ [text[n]] := by
    rw [charged, hn, List.take_succ_eq_append_getElem hwithin]
  rw [f.place_eq hmapped, f.place_eq hbuffered, hover, List.count_append, List.reverse_append, List.reverse_singleton,
    List.singleton_append]
  by_cases hbreak : text[n] = 0x0A
  · right
    rw [hbreak, List.takeWhile_cons_of_neg (by simp)]
    simp [Nat.add_assoc]
  · left
    rw [List.takeWhile_cons_of_pos (by simp [hbreak])]
    simp [hbreak]

/-- A fault in a text has the same place for both ways of reading, a number out of range apart. Its place is one byte further on for
a stream if another byte is behind it. -/
theorem place_read {text : Bytes} {f : Fault} (h : read text = .error f) :
    f.place .buffered text = f.place .mapped text ∨
      f.cause = .numberOutOfRange ∧ OneOn (f.place .mapped text) (f.place .buffered text) := by
  cases hahead : f.ahead with
  | false =>
    left
    have hcharged : f.charged .mapped = f.charged .buffered := by
      rw [Fault.charged, Fault.charged, if_neg (by simp [hahead])]
    rw [Fault.place, Fault.place, hcharged]
  | true =>
    right
    obtain ⟨hcause, hseen, hwithin⟩ := Reader.ahead_run h hahead
    rw [Nat.zero_add] at hwithin
    have hover : f.overhang = 0 := by rw [Fault.overhang, hcause]
    exact ⟨hcause, Fault.oneOn_place hahead hseen hwithin hover⟩

end RecordSheets.Json
