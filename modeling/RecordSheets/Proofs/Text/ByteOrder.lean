import Mathlib.Data.String.Basic
import RecordSheets.Text.Utf8

/-!
# The order of texts by their bytes

Texts are compared by their code points. UTF-8 keeps this order: a text comes before another one exactly if its bytes do
(`Utf8.encode_lt_iff`), because of two characters the one with the smaller code point has the bytes that come first
(`Utf8.encodeChar_lt`).
-/

namespace RecordSheets.Utf8

/-- A character has one to four bytes, by the size of its code point: six bits in each byte but the first, which has the rest. -/
theorem encodeChar_cases (c : Char) :
    (c.toNat < 0x80 ∧ String.utf8EncodeChar c = [UInt8.ofNat c.toNat]) ∨
      (0x80 ≤ c.toNat ∧ c.toNat < 0x800 ∧
        String.utf8EncodeChar c = [UInt8.ofNat (c.toNat / 64 + 0xC0), UInt8.ofNat (c.toNat % 64 + 0x80)]) ∨
      (0x800 ≤ c.toNat ∧ c.toNat < 0x10000 ∧
        String.utf8EncodeChar c = [UInt8.ofNat (c.toNat / 64 / 64 + 0xE0), UInt8.ofNat (c.toNat / 64 % 64 + 0x80),
          UInt8.ofNat (c.toNat % 64 + 0x80)]) ∨
      (0x10000 ≤ c.toNat ∧ c.toNat < 0x110000 ∧
        String.utf8EncodeChar c = [UInt8.ofNat (c.toNat / 64 / 64 / 64 + 0xF0), UInt8.ofNat (c.toNat / 64 / 64 % 64 + 0x80),
          UInt8.ofNat (c.toNat / 64 % 64 + 0x80), UInt8.ofNat (c.toNat % 64 + 0x80)]) := by
  have hlimit : c.toNat < 0x110000 := by
    rcases c.valid with h | h
    · exact Nat.lt_trans h (by decide)
    · exact h.2
  unfold String.utf8EncodeChar
  simp only [Char.toNat_val, Nat.div_div_eq_div_mul, Nat.reduceMul]
  by_cases hone : c.toNat ≤ 0x7F
  · exact .inl ⟨by omega, if_pos hone⟩
  · by_cases htwo : c.toNat ≤ 0x7FF
    · have hfirst : c.toNat / 64 % 32 = c.toNat / 64 := by omega
      exact .inr (.inl ⟨by omega, by omega, by rw [if_neg hone, if_pos htwo, hfirst]⟩)
    · by_cases hthree : c.toNat ≤ 0xFFFF
      · have hfirst : c.toNat / 4096 % 16 = c.toNat / 4096 := by omega
        exact .inr (.inr (.inl ⟨by omega, by omega, by rw [if_neg hone, if_neg htwo, if_pos hthree, hfirst]⟩))
      · have hfirst : c.toNat / 262144 % 8 = c.toNat / 262144 := by omega
        exact .inr (.inr (.inr ⟨by omega, by omega, by rw [if_neg hone, if_neg htwo, if_neg hthree, hfirst]⟩))

/-- Of two characters, the one with the smaller code point has the bytes that come first, whatever follows. -/
theorem encodeChar_lt {c d : Char} (h : c < d) (xs ys : Bytes) :
    String.utf8EncodeChar c ++ xs < String.utf8EncodeChar d ++ ys := by
  have hcode : c.toNat < d.toNat := h
  -- A character of fewer bytes has a smaller first byte; among those of as many bytes the six-bit groups decide.
  rcases encodeChar_cases c with ⟨hc, ec⟩ | ⟨hc, hc', ec⟩ | ⟨hc, hc', ec⟩ | ⟨hc, hc', ec⟩ <;>
  rcases encodeChar_cases d with ⟨hd, ed⟩ | ⟨hd, hd', ed⟩ | ⟨hd, hd', ed⟩ | ⟨hd, hd', ed⟩ <;>
  rw [ec, ed] <;>
  simp only [List.cons_append, List.cons_lt_cons_iff, UInt8.lt_iff_toNat_lt, ← UInt8.toNat_inj, UInt8.toNat_ofNat'] <;>
  omega

/-- What two byte sequences have in common at the front does not decide which comes first. -/
theorem append_lt_append_iff (bs xs ys : Bytes) : bs ++ xs < bs ++ ys ↔ xs < ys := by
  induction bs with
  | nil => exact Iff.rfl
  | cons b bs ih => simp [ih]

/-- Lists of characters are ordered as their bytes are. -/
theorem flatMap_encodeChar_lt_iff (cs ds : List Char) :
    cs.flatMap String.utf8EncodeChar < ds.flatMap String.utf8EncodeChar ↔ cs < ds := by
  induction cs generalizing ds with
  | nil =>
    cases ds with
    | nil => simp
    | cons d ds =>
      obtain ⟨b, bs, hb⟩ := List.exists_cons_of_ne_nil (String.utf8EncodeChar_ne_nil (c := d))
      simp [hb]
  | cons c cs ih =>
    cases ds with
    | nil => simp
    | cons d ds =>
      rw [List.flatMap_cons, List.flatMap_cons, List.cons_lt_cons_iff]
      rcases lt_trichotomy c d with hlt | rfl | hgt
      · exact iff_of_true (encodeChar_lt hlt _ _) (.inl hlt)
      · rw [append_lt_append_iff, ih]
        simp
      · refine iff_of_false (List.lt_asymm (encodeChar_lt hgt _ _)) ?_
        rintro (hlt | ⟨rfl, -⟩)
        · exact lt_asymm hgt hlt
        · exact lt_irrefl c hgt

/-- Texts are ordered as their bytes are. -/
theorem encode_lt_iff (a b : String) : encode a < encode b ↔ a < b := by
  rw [encode, encode, flatMap_encodeChar_lt_iff, String.lt_iff_toList_lt]

end RecordSheets.Utf8
