/-!
# Pieces of a text

Cutting a text at a separator. The pieces of a text are never none: a text without the separator is one piece.
-/

namespace RecordSheets.Text

/-- Cuts a text at every separator. -/
def pieces (sep : Char) : List Char → List (List Char)
  | [] => [[]]
  | c :: cs =>
    if c = sep then [] :: pieces sep cs
    else
      match pieces sep cs with
      | [] => [[c]]
      | p :: ps => (c :: p) :: ps

/-- Cuts a string at every separator. -/
def cut (sep : Char) (s : String) : List String := (pieces sep s.toList).map String.ofList

/-- Removes one separator at the front of a text, if there is one. -/
def dropLeading (sep : Char) : List Char → List Char
  | [] => []
  | c :: cs => if c = sep then cs else c :: cs

/-- Tells whether `part` occurs in a text as a run of neighbouring characters. -/
def occursIn (part : List Char) : List Char → Bool
  | [] => part.isEmpty
  | c :: cs => part.isPrefixOf (c :: cs) || occursIn part cs

/-- A part occurs in a text if it stands between a beginning and an end of it. -/
theorem occursIn_iff (part cs : List Char) : occursIn part cs = true ↔ part <:+: cs := by
  induction cs with
  | nil => simp [occursIn]
  | cons c cs ih => rw [occursIn, Bool.or_eq_true, List.isPrefixOf_iff_prefix, ih, List.infix_cons_iff]

theorem pieces_ne_nil (sep : Char) (cs : List Char) : pieces sep cs ≠ [] := by
  induction cs with
  | nil => simp [pieces]
  | cons c cs ih =>
    unfold pieces
    split
    · simp
    · split <;> simp

/-- A text has one piece more than separators. -/
theorem length_pieces (sep : Char) (cs : List Char) : (pieces sep cs).length = cs.count sep + 1 := by
  induction cs with
  | nil => rfl
  | cons c cs ih =>
    obtain ⟨p, ps, hp⟩ := List.exists_cons_of_ne_nil (pieces_ne_nil sep cs)
    by_cases hc : c = sep
    · rw [pieces, if_pos hc, List.length_cons, ih, hc, List.count_cons_self]
    · rw [pieces, if_neg hc, List.count_cons_of_ne hc, ← ih, hp]
      rfl

/-- The pieces on both sides of a separator are the pieces of the whole. -/
theorem pieces_append_cons (sep : Char) (cs ds : List Char) :
    pieces sep (cs ++ sep :: ds) = pieces sep cs ++ pieces sep ds := by
  induction cs with
  | nil => simp [pieces]
  | cons c cs ih =>
    by_cases hc : c = sep
    · simp [pieces, hc, ih]
    · obtain ⟨p, ps, hp⟩ := List.exists_cons_of_ne_nil (pieces_ne_nil sep cs)
      simp [pieces, hc, ih, hp]

/-- A text without the separator is one piece. -/
theorem pieces_of_not_mem {sep : Char} {cs : List Char} (h : sep ∉ cs) : pieces sep cs = [cs] := by
  induction cs with
  | nil => rfl
  | cons c cs ih =>
    simp only [List.mem_cons, not_or] at h
    rw [pieces, if_neg (Ne.symm h.1), ih h.2]

/-- Characters other than the separator behind a text stand behind its last piece. -/
theorem pieces_append_of_not_mem {sep : Char} {ending : List Char} (h : sep ∉ ending) (cs : List Char) :
    ∃ front last, pieces sep (cs ++ ending) = front ++ [last ++ ending] := by
  induction cs with
  | nil => exact ⟨[], [], pieces_of_not_mem h⟩
  | cons c cs ih =>
    obtain ⟨front, last, hpieces⟩ := ih
    rw [List.cons_append, pieces, hpieces]
    split
    · exact ⟨[] :: front, last, rfl⟩
    · cases front with
      | nil => exact ⟨[], c :: last, rfl⟩
      | cons p ps => exact ⟨(c :: p) :: ps, last, rfl⟩

/-- The pieces of a text with separators between them are the text. -/
theorem intercalate_pieces (sep : Char) (cs : List Char) : List.intercalate [sep] (pieces sep cs) = cs := by
  induction cs with
  | nil => simp [pieces]
  | cons c cs ih =>
    obtain ⟨p, ps, hp⟩ := List.exists_cons_of_ne_nil (pieces_ne_nil sep cs)
    rw [hp] at ih
    by_cases hc : c = sep
    · rw [pieces, if_pos hc, hp, List.intercalate_cons_cons, ih, hc]
      rfl
    · have hcons : pieces sep (c :: cs) = (c :: p) :: ps := by
        rw [pieces, if_neg hc, hp]
      rw [hcons, ← ih]
      cases ps with
      | nil => simp
      | cons q qs => simp [List.intercalate_cons_cons]

/-- No piece holds the separator. -/
theorem not_mem_of_mem_pieces {sep : Char} {cs p : List Char} (h : p ∈ pieces sep cs) : sep ∉ p := by
  induction cs generalizing p with
  | nil =>
    obtain rfl : p = [] := by simpa [pieces] using h
    exact List.not_mem_nil
  | cons c cs ih =>
    by_cases hc : c = sep
    · rw [pieces, if_pos hc, List.mem_cons] at h
      rcases h with rfl | h
      · exact List.not_mem_nil
      · exact ih h
    · obtain ⟨q, qs, hq⟩ := List.exists_cons_of_ne_nil (pieces_ne_nil sep cs)
      rw [hq] at ih
      rw [pieces, if_neg hc, hq, List.mem_cons] at h
      rcases h with rfl | h
      · exact List.not_mem_cons_of_ne_of_not_mem (Ne.symm hc) (ih List.mem_cons_self)
      · exact ih (List.mem_cons_of_mem _ h)

/-- Texts without the separator are the pieces of the text that has separators between them. -/
theorem pieces_intercalate {sep : Char} {ps : List (List Char)} (hne : ps ≠ []) (h : ∀ p ∈ ps, sep ∉ p) :
    pieces sep (List.intercalate [sep] ps) = ps := by
  induction ps with
  | nil => exact absurd rfl hne
  | cons p rest ih =>
    have hp := pieces_of_not_mem (h p List.mem_cons_self)
    cases rest with
    | nil => rw [List.intercalate_singleton, hp]
    | cons q more =>
      have hrest := ih (by simp) fun r hr => h r (List.mem_cons_of_mem _ hr)
      rw [List.intercalate_cons_cons, List.append_assoc, List.singleton_append, pieces_append_cons, hp, hrest]
      rfl

/-- Characters other than the separator may be left out before or after cutting. -/
theorem pieces_filter {sep : Char} {keep : Char → Bool} (h : keep sep = true) (cs : List Char) :
    pieces sep (cs.filter keep) = (pieces sep cs).map (List.filter keep) := by
  induction cs with
  | nil => rfl
  | cons c cs ih =>
    by_cases hc : c = sep
    · subst hc
      rw [List.filter_cons_of_pos h, pieces, if_pos rfl, pieces, if_pos rfl, ih]
      rfl
    · obtain ⟨p, ps, hp⟩ := List.exists_cons_of_ne_nil (pieces_ne_nil sep cs)
      cases hk : keep c with
      | true => simp [pieces, hc, hk, hp, ih]
      | false => simp [pieces, hc, hk, hp, ih]

theorem dropLeading_cons_self (sep : Char) (cs : List Char) : dropLeading sep (sep :: cs) = cs := if_pos rfl

/-- A text either has a separator at the front or loses nothing. -/
theorem eq_cons_dropLeading_or (sep : Char) (cs : List Char) :
    cs = sep :: dropLeading sep cs ∨ cs.head? ≠ some sep ∧ dropLeading sep cs = cs := by
  cases cs with
  | nil => exact .inr ⟨nofun, rfl⟩
  | cons c cs =>
    by_cases h : c = sep
    · rw [h, dropLeading_cons_self]
      exact .inl rfl
    · exact .inr ⟨by simpa using h, if_neg h⟩

theorem mem_of_mem_dropLeading {sep c : Char} {cs : List Char} (h : c ∈ dropLeading sep cs) : c ∈ cs := by
  rcases eq_cons_dropLeading_or sep cs with heq | ⟨-, heq⟩
  · rw [heq]
    exact List.mem_cons_of_mem _ h
  · rwa [heq] at h

/-! ## Texts put together -/

/-- Characters may be left out before or after texts are put together. -/
theorem filter_intercalate (keep : Char → Bool) (sep : List Char) (ps : List (List Char)) :
    (List.intercalate sep ps).filter keep = List.intercalate (sep.filter keep) (ps.map (List.filter keep)) := by
  induction ps with
  | nil => rfl
  | cons p rest ih =>
    cases rest with
    | nil => simp
    | cons q more =>
      rw [List.intercalate_cons_cons, List.filter_append, List.filter_append, ih]
      simp only [List.map_cons, List.intercalate_cons_cons]

/-- Texts put together have the characters of the texts and of what stands between them. -/
theorem mem_intercalate {c : Char} {sep : List Char} {ps : List (List Char)} (h : c ∈ List.intercalate sep ps) :
    c ∈ sep ∨ ∃ p ∈ ps, c ∈ p := by
  induction ps with
  | nil => simp at h
  | cons p rest ih =>
    cases rest with
    | nil =>
      rw [List.intercalate_singleton] at h
      exact .inr ⟨p, by simp, h⟩
    | cons q more =>
      rw [List.intercalate_cons_cons, List.mem_append, List.mem_append] at h
      rcases h with (h | h) | h
      · exact .inr ⟨p, by simp, h⟩
      · exact .inl h
      · rcases ih h with h | ⟨r, hr, hc⟩
        · exact .inl h
        · exact .inr ⟨r, List.mem_cons_of_mem _ hr, hc⟩

theorem mem_intercalate_of_mem {c : Char} {sep p : List Char} {ps : List (List Char)} (hp : p ∈ ps) (hc : c ∈ p) :
    c ∈ List.intercalate sep ps := by
  induction ps with
  | nil => cases hp
  | cons q rest ih =>
    cases rest with
    | nil =>
      obtain rfl := List.mem_singleton.1 hp
      rwa [List.intercalate_singleton]
    | cons r more =>
      rw [List.intercalate_cons_cons, List.mem_append, List.mem_append]
      rcases List.mem_cons.1 hp with rfl | hp
      · exact .inl (.inl hc)
      · exact .inr (ih hp)

end RecordSheets.Text
