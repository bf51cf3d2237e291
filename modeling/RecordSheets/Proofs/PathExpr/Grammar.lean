import RecordSheets.PathExpr.Basic

/-!
# The grammar of path expressions

What a text stands for, said without searching: by where its parentheses, quotes and plus signs are (`PathExpr.Denotes`). Reading
a text finds exactly this, and the only texts that it refuses are those in parentheses that have nothing between any of them
(`PathExpr.parse_grammar`).

The reader looks for groups in parentheses at one place after the other. An attempt at a place succeeds on a group that starts there
(`groupHere?_eq_some_iff`, `quotedGroupHere?_eq_some_iff`), and the first place where an attempt succeeds is the leftmost one
(`leftmost?_of_split`, `split_of_leftmost?`).
-/

namespace RecordSheets.PathExpr

/-! ## Statements -/

/-- A text that begins and ends with parentheses. -/
def InParentheses (cs : List Char) : Prop := cs.head? = some '(' ∧ cs.getLast? = some ')'

/-- No opening parenthesis of a text has anything but a closing one behind it. -/
def AllEmpty (cs : List Char) : Prop := ∀ before behind, cs = before ++ '(' :: behind → behind.head? = some ')'

/-- A body stands between the leftmost opening parenthesis that is not closed at once and the first closing one behind it. -/
def FirstGroup (cs body : List Char) : Prop :=
  ∃ before behind, cs = before ++ '(' :: (body ++ ')' :: behind) ∧ body ≠ [] ∧ ')' ∉ body ∧
    ∀ b rest, cs = b ++ '(' :: rest → b.length < before.length → rest.head? = some ')'

/-- A body stands between `"(` and `)"` behind some text, and no closing parenthesis comes earlier. -/
def QuotedGroup (cs before body : List Char) : Prop :=
  ∃ behind, cs = before ++ '"' :: '(' :: (body ++ ')' :: '"' :: behind) ∧ body ≠ [] ∧ ')' ∉ body

/-- A body stands in quoted parentheses, and no other one does so further to the left. -/
def FirstQuotedGroup (cs body : List Char) : Prop :=
  ∃ before, QuotedGroup cs before body ∧ ∀ b other, QuotedGroup cs b other → before.length ≤ b.length

/-- Some texts stand between the separators of a text. -/
def CutInto (sep : Char) (cs : List Char) (ps : List (List Char)) : Prop :=
  ps ≠ [] ∧ List.intercalate [sep] ps = cs ∧ ∀ p ∈ ps, sep ∉ p

/-- The part of a concatenation that a piece stands for: its blanks are left out, and then all its dots for the key, one dot in
front for the path. -/
def partOf (piece : List Char) : ConcatPart :=
  ⟨String.ofList ((piece.filter fun c => !Text.isBlank c).filter (· != '.')),
    String.ofList (Text.dropLeading '.' (piece.filter fun c => !Text.isBlank c))⟩

/-- The expression that a text stands for. -/
inductive Denotes (cs : List Char) : PathExpr → Prop
  /-- A text in parentheses is a concatenation of the pieces in its first group. -/
  | concat {body : List Char} {ps : List (List Char)} (outer : InParentheses cs) (group : FirstGroup cs body)
      (cut : CutInto '+' body ps) : Denotes cs (.concat (ps.map partOf))
  /-- A text with a bar and quoted parentheses is an array join of what stands in the first of them, without its quotes. -/
  | arrayJoin {body : List Char} (outer : ¬InParentheses cs) (bar : '|' ∈ cs) (group : FirstQuotedGroup cs body) :
      Denotes cs (.arrayJoin (String.ofList (Text.dropLeading '.' (body.filter (· != '"')))))
  /-- Every other text is a plain path. -/
  | plain (outer : ¬InParentheses cs) (other : ¬('|' ∈ cs ∧ ∃ before body, QuotedGroup cs before body)) :
      Denotes cs (.plain (String.ofList (Text.dropLeading '.' cs)))

/-! ## Searching from left to right -/

section Leftmost

variable {attempt? : List Char → Option (List Char)}

/-- An attempt that succeeds behind some text and at no place in it is the leftmost one. -/
theorem leftmost?_of_split {before here found : List Char} (hne : here ≠ []) (hfound : attempt? here = some found)
    (hearlier : ∀ b h, before ++ here = b ++ h → b.length < before.length → attempt? h = none) :
    leftmost? attempt? (before ++ here) = some found := by
  induction before with
  | nil =>
    obtain ⟨c, rest, rfl⟩ := List.exists_cons_of_ne_nil hne
    rw [List.nil_append, leftmost?, hfound]
  | cons c before ih =>
    have hhead : attempt? (c :: (before ++ here)) = none := hearlier [] _ rfl (by simp)
    rw [List.cons_append, leftmost?, hhead]
    refine ih fun b h heq hlt => hearlier (c :: b) h ?_ ?_
    · rw [List.cons_append, List.cons_append, heq]
    · simpa using hlt

/-- The leftmost success is one behind some text, with none at any place in it. -/
theorem split_of_leftmost? {cs found : List Char} (h : leftmost? attempt? cs = some found) :
    ∃ before here, cs = before ++ here ∧ attempt? here = some found ∧
      ∀ b h, cs = b ++ h → b.length < before.length → attempt? h = none := by
  induction cs with
  | nil => cases h
  | cons c rest ih =>
    rw [leftmost?] at h
    split at h
    · rename_i found' hhere
      cases h
      exact ⟨[], c :: rest, rfl, hhere, fun b h _ hlt => absurd hlt (by simp)⟩
    · rename_i hhere
      obtain ⟨before, here, hsplit, hfound, hearlier⟩ := ih h
      refine ⟨c :: before, here, by rw [hsplit, List.cons_append], hfound, fun b h heq hlt => ?_⟩
      cases b with
      | nil =>
        rw [List.nil_append] at heq
        rwa [← heq]
      | cons d b =>
        obtain ⟨-, htail⟩ := List.cons.inj heq
        exact hearlier b h htail (by simpa using hlt)

/-- There is no success if no attempt at any place succeeds. -/
theorem leftmost?_eq_none_iff (hnil : attempt? [] = none) {cs : List Char} :
    leftmost? attempt? cs = none ↔ ∀ b h, cs = b ++ h → attempt? h = none := by
  constructor
  · intro hnone b h heq
    cases hh : attempt? h with
    | none => rfl
    | some found =>
      exfalso
      induction cs generalizing b with
      | nil =>
        obtain ⟨-, rfl⟩ := List.append_eq_nil_iff.1 heq.symm
        rw [hnil] at hh
        cases hh
      | cons c rest ih =>
        rw [leftmost?] at hnone
        split at hnone
        · cases hnone
        · rename_i hhere
          cases b with
          | nil =>
            rw [List.nil_append] at heq
            rw [heq, hh] at hhere
            cases hhere
          | cons d b => exact ih hnone b (List.cons.inj heq).2
  · intro hnone
    cases hsearch : leftmost? attempt? cs with
    | none => rfl
    | some found =>
      obtain ⟨before, here, hsplit, hfound, -⟩ := split_of_leftmost? hsearch
      rw [hnone before here hsplit] at hfound
      cases hfound

end Leftmost

/-! ## Groups that start at a place -/

theorem takeWhile_of_closed {body : List Char} (h : ')' ∉ body) (behind : List Char) :
    (body ++ ')' :: behind).takeWhile (· != ')') = body := by
  rw [List.takeWhile_append_of_pos, List.takeWhile_cons_of_neg (by simp), List.append_nil]
  intro c hc
  have hne : c ≠ ')' := fun heq => h (heq ▸ hc)
  simpa using hne

theorem dropWhile_of_closed {body : List Char} (h : ')' ∉ body) (behind : List Char) :
    (body ++ ')' :: behind).dropWhile (· != ')') = ')' :: behind := by
  rw [List.dropWhile_append_of_pos, List.dropWhile_cons_of_neg (by simp)]
  intro c hc
  have hne : c ≠ ')' := fun heq => h (heq ▸ hc)
  simpa using hne

/-- A group starts at an opening parenthesis, and its body is what stands before the first closing one. -/
theorem groupHere?_eq_some_iff {here body : List Char} :
    groupHere? here = some body ↔ body ≠ [] ∧ ')' ∉ body ∧ ∃ behind, here = '(' :: (body ++ ')' :: behind) := by
  constructor
  · intro h
    unfold groupHere? at h
    split at h
    · rename_i rest
      dsimp only at h
      split at h
      · rename_i hcond
        obtain ⟨body', behind, hrest, hclosed⟩ := List.eq_append_cons_of_mem hcond.2
        rw [hrest, takeWhile_of_closed hclosed] at h hcond
        cases h
        exact ⟨hcond.1, hclosed, behind, by rw [hrest]⟩
      · cases h
    · cases h
  · rintro ⟨hne, hclosed, behind, rfl⟩
    simp only [groupHere?, takeWhile_of_closed hclosed]
    rw [if_pos ⟨hne, by simp⟩]

/-- A quoted group starts at a quote and an opening parenthesis, and a closing one and a quote end its body. -/
theorem quotedGroupHere?_eq_some_iff {here body : List Char} :
    quotedGroupHere? here = some body ↔
      body ≠ [] ∧ ')' ∉ body ∧ ∃ behind, here = '"' :: '(' :: (body ++ ')' :: '"' :: behind) := by
  constructor
  · intro h
    unfold quotedGroupHere? at h
    split at h
    · rename_i rest
      dsimp only at h
      split at h
      · rename_i hcond
        obtain ⟨hne, hprefix⟩ := hcond
        obtain ⟨behind, hdrop⟩ := List.isPrefixOf_iff_prefix.1 hprefix
        have hmem : ')' ∈ rest := (List.dropWhile_sublist (· != ')')).subset (by rw [← hdrop]; simp)
        obtain ⟨body', behind', hrest, hclosed⟩ := List.eq_append_cons_of_mem hmem
        rw [hrest, dropWhile_of_closed hclosed] at hdrop
        rw [hrest, takeWhile_of_closed hclosed] at h hne
        cases h
        obtain ⟨-, htail⟩ := List.cons.inj hdrop
        exact ⟨hne, hclosed, behind, by rw [hrest, ← htail]; rfl⟩
      · cases h
    · cases h
  · rintro ⟨hne, hclosed, behind, rfl⟩
    simp only [quotedGroupHere?, takeWhile_of_closed hclosed, dropWhile_of_closed hclosed]
    rw [if_pos ⟨hne, by simp⟩]

/-- In a text that ends with a closing parenthesis, a group starts at every opening one that is not closed at once. -/
theorem groupHere?_eq_none_iff {cs b rest : List Char} (hlast : cs.getLast? = some ')') (h : cs = b ++ '(' :: rest) :
    groupHere? ('(' :: rest) = none ↔ rest.head? = some ')' := by
  have hmem : ')' ∈ rest := by
    cases rest with
    | nil => simp [h] at hlast
    | cons c rest =>
      have hrest : (c :: rest).getLast? = some ')' := by simpa [h, List.getLast?_cons_cons] using hlast
      exact List.mem_of_getLast? hrest
  obtain ⟨body, behind, rfl, hclosed⟩ := List.eq_append_cons_of_mem hmem
  cases body with
  | nil =>
    refine iff_of_true ?_ rfl
    simp [groupHere?]
  | cons c body =>
    have hsome : groupHere? ('(' :: (c :: body ++ ')' :: behind)) = some (c :: body) :=
      groupHere?_eq_some_iff.2 ⟨by simp, hclosed, behind, rfl⟩
    have hc : c ≠ ')' := fun heq => hclosed (heq ▸ List.mem_cons_self)
    rw [hsome]
    simp [hc]

/-- No group starts anywhere but at an opening parenthesis. -/
theorem groupHere?_of_head? {here : List Char} (h : here.head? ≠ some '(') : groupHere? here = none := by
  cases hsearch : groupHere? here with
  | none => rfl
  | some body =>
    obtain ⟨-, -, behind, rfl⟩ := groupHere?_eq_some_iff.1 hsearch
    exact absurd rfl h

/-! ## The groups of a text -/

/-- In a text that ends with a closing parenthesis, the first place where no group starts is the place of no earlier group. -/
theorem groupHere?_earlier_iff {cs : List Char} (hlast : cs.getLast? = some ')') (n : Nat) :
    (∀ b h, cs = b ++ h → b.length < n → groupHere? h = none) ↔
      ∀ b rest, cs = b ++ '(' :: rest → b.length < n → rest.head? = some ')' := by
  constructor
  · intro hnone b rest heq hlt
    exact (groupHere?_eq_none_iff hlast heq).1 (hnone b _ heq hlt)
  · intro hhead b h heq hlt
    by_cases hopen : h.head? = some '('
    · obtain ⟨rest, rfl⟩ := List.head?_eq_some_iff.1 hopen
      exact (groupHere?_eq_none_iff hlast heq).2 (hhead b rest heq hlt)
    · exact groupHere?_of_head? hopen

/-- The search for a group in a text that ends with a closing parenthesis finds the first one. -/
theorem leftmost?_groupHere?_eq_some_iff {cs body : List Char} (hlast : cs.getLast? = some ')') :
    leftmost? groupHere? cs = some body ↔ FirstGroup cs body := by
  constructor
  · intro h
    obtain ⟨before, here, rfl, hfound, hearlier⟩ := split_of_leftmost? h
    obtain ⟨hne, hclosed, behind, rfl⟩ := groupHere?_eq_some_iff.1 hfound
    exact ⟨before, behind, rfl, hne, hclosed, (groupHere?_earlier_iff hlast _).1 hearlier⟩
  · rintro ⟨before, behind, rfl, hne, hclosed, hfirst⟩
    have hfound : groupHere? ('(' :: (body ++ ')' :: behind)) = some body :=
      groupHere?_eq_some_iff.2 ⟨hne, hclosed, behind, rfl⟩
    exact leftmost?_of_split (by simp) hfound ((groupHere?_earlier_iff hlast _).2 hfirst)

/-- The search for a group in a text that ends with a closing parenthesis fails if nothing stands between any parentheses. -/
theorem leftmost?_groupHere?_eq_none_iff {cs : List Char} (hlast : cs.getLast? = some ')') :
    leftmost? groupHere? cs = none ↔ AllEmpty cs := by
  have hall := groupHere?_earlier_iff hlast (cs.length + 1)
  have hlt : ∀ b h : List Char, cs = b ++ h → b.length < cs.length + 1 := by
    intro b h heq
    rw [heq, List.length_append]
    omega
  rw [leftmost?_eq_none_iff rfl]
  constructor
  · intro hnone b rest heq
    exact hall.1 (fun b h heq _ => hnone b h heq) b rest heq (hlt b _ heq)
  · intro hempty b h heq
    exact hall.2 (fun b rest heq _ => hempty b rest heq) b h heq (hlt b h heq)

/-- A quoted group starts at a place if an attempt there succeeds. -/
theorem quotedGroup_iff {cs before body : List Char} :
    QuotedGroup cs before body ↔ ∃ here, cs = before ++ here ∧ quotedGroupHere? here = some body := by
  constructor
  · rintro ⟨behind, hsplit, hne, hclosed⟩
    exact ⟨_, hsplit, quotedGroupHere?_eq_some_iff.2 ⟨hne, hclosed, behind, rfl⟩⟩
  · rintro ⟨here, hsplit, hfound⟩
    obtain ⟨hne, hclosed, behind, rfl⟩ := quotedGroupHere?_eq_some_iff.1 hfound
    exact ⟨behind, hsplit, hne, hclosed⟩

/-- The search for a quoted group finds the first one. -/
theorem leftmost?_quotedGroupHere?_eq_some_iff {cs body : List Char} :
    leftmost? quotedGroupHere? cs = some body ↔ FirstQuotedGroup cs body := by
  constructor
  · intro h
    obtain ⟨before, here, hsplit, hfound, hearlier⟩ := split_of_leftmost? h
    refine ⟨before, quotedGroup_iff.2 ⟨here, hsplit, hfound⟩, fun b other hother => ?_⟩
    obtain ⟨h', hsplit', hfound'⟩ := quotedGroup_iff.1 hother
    refine Nat.le_of_not_lt fun hlt => ?_
    rw [hearlier b h' hsplit' hlt] at hfound'
    cases hfound'
  · rintro ⟨before, hgroup, hfirst⟩
    obtain ⟨here, rfl, hfound⟩ := quotedGroup_iff.1 hgroup
    have hne : here ≠ [] := by
      rintro rfl
      cases hfound
    refine leftmost?_of_split hne hfound fun b h heq hlt => ?_
    cases hother : quotedGroupHere? h with
    | none => rfl
    | some other =>
      have hle := hfirst b other (quotedGroup_iff.2 ⟨h, heq, hother⟩)
      omega

/-- The search for a quoted group fails if there is none. -/
theorem leftmost?_quotedGroupHere?_eq_none_iff {cs : List Char} :
    leftmost? quotedGroupHere? cs = none ↔ ¬∃ before body, QuotedGroup cs before body := by
  rw [leftmost?_eq_none_iff rfl]
  constructor
  · rintro hnone ⟨before, body, hgroup⟩
    obtain ⟨here, hsplit, hfound⟩ := quotedGroup_iff.1 hgroup
    rw [hnone before here hsplit] at hfound
    cases hfound
  · intro hno b h heq
    cases hfound : quotedGroupHere? h with
    | none => rfl
    | some body => exact absurd ⟨b, body, quotedGroup_iff.2 ⟨h, heq, hfound⟩⟩ hno

/-- The pieces of a text are the only ones that it is cut into. -/
theorem cutInto_iff {sep : Char} {cs : List Char} {ps : List (List Char)} : CutInto sep cs ps ↔ ps = Text.pieces sep cs := by
  constructor
  · rintro ⟨hne, rfl, hfree⟩
    exact (Text.pieces_intercalate hne hfree).symm
  · rintro rfl
    exact ⟨Text.pieces_ne_nil sep cs, Text.intercalate_pieces sep cs, fun p => Text.not_mem_of_mem_pieces⟩

/-! ## Reading -/

/-- Parentheses around a text are seen by its first and its last character. -/
theorem isParenthesised_iff {cs : List Char} : isParenthesised cs = true ↔ InParentheses cs := by
  simp [isParenthesised, InParentheses]

/-- What is read from a text is what it stands for. -/
theorem denotes_of_parse {text : String} {expr : PathExpr} (h : parse text = .ok expr) : Denotes text.toList expr := by
  unfold parse at h
  dsimp only at h
  split at h
  · rename_i houter
    rw [isParenthesised_iff] at houter
    split at h
    · rename_i body hgroup
      cases h
      exact .concat houter ((leftmost?_groupHere?_eq_some_iff houter.2).1 hgroup) (cutInto_iff.2 rfl)
    · cases h
  · rename_i houter
    rw [isParenthesised_iff] at houter
    split at h
    · rename_i hbar
      split at h
      · rename_i body hgroup
        cases h
        exact .arrayJoin houter (by simpa using hbar) (leftmost?_quotedGroupHere?_eq_some_iff.1 hgroup)
      · rename_i hgroup
        cases h
        exact .plain houter fun hother => leftmost?_quotedGroupHere?_eq_none_iff.1 hgroup hother.2
    · rename_i hbar
      cases h
      exact .plain houter fun hother => hbar (by simpa using hother.1)

/-- What a text stands for is read from it. -/
theorem parse_of_denotes {text : String} {expr : PathExpr} (h : Denotes text.toList expr) : parse text = .ok expr := by
  unfold parse
  dsimp only
  cases h with
  | concat outer group cut =>
    rw [if_pos (isParenthesised_iff.2 outer), (leftmost?_groupHere?_eq_some_iff outer.2).2 group, cutInto_iff.1 cut]
    rfl
  | arrayJoin outer bar group =>
    rw [if_neg (mt isParenthesised_iff.1 outer), if_pos (by simpa using bar),
      leftmost?_quotedGroupHere?_eq_some_iff.2 group]
    rfl
  | plain outer other =>
    rw [if_neg (mt isParenthesised_iff.1 outer)]
    split
    · rename_i hbar
      have hnone : leftmost? quotedGroupHere? text.toList = none :=
        leftmost?_quotedGroupHere?_eq_none_iff.2 fun hgroup => other ⟨by simpa using hbar, hgroup⟩
      rw [hnone]
      rfl
    · rfl

/-- The texts that are refused are those in parentheses with nothing between any of them, and the refusal names the text. -/
theorem parse_eq_error_iff {text : String} {e : ExprError} :
    parse text = .error e ↔ e = .malformedConcat text ∧ InParentheses text.toList ∧ AllEmpty text.toList := by
  unfold parse
  dsimp only
  constructor
  · intro h
    split at h
    · rename_i houter
      rw [isParenthesised_iff] at houter
      split at h
      · cases h
      · rename_i hgroup
        cases h
        exact ⟨rfl, houter, (leftmost?_groupHere?_eq_none_iff houter.2).1 hgroup⟩
    · split at h
      · split at h <;> cases h
      · cases h
  · rintro ⟨rfl, houter, hempty⟩
    rw [if_pos (isParenthesised_iff.2 houter), (leftmost?_groupHere?_eq_none_iff houter.2).2 hempty]

/-- Reading a text gives the expression that it stands for, and it gives no other. A text that stands for none is one in
parentheses of which every opening one is closed at once; reading refuses it by name, and it refuses nothing else. -/
theorem parse_grammar (text : String) :
    (∀ expr, parse text = .ok expr ↔ Denotes text.toList expr) ∧
      (∀ e, parse text = .error e ↔
        e = .malformedConcat text ∧ InParentheses text.toList ∧ AllEmpty text.toList) ∧
      ((∃ expr, Denotes text.toList expr) ↔ ¬(InParentheses text.toList ∧ AllEmpty text.toList)) := by
  refine ⟨fun expr => ⟨denotes_of_parse, parse_of_denotes⟩, fun e => parse_eq_error_iff, ?_⟩
  constructor
  · rintro ⟨expr, hdenotes⟩ hempty
    have hread := parse_of_denotes hdenotes
    rw [parse_eq_error_iff.2 ⟨rfl, hempty⟩] at hread
    cases hread
  · intro hfilled
    cases hread : parse text with
    | ok expr => exact ⟨expr, denotes_of_parse hread⟩
    | error e => exact absurd (parse_eq_error_iff.1 hread).2 hfilled

end RecordSheets.PathExpr
