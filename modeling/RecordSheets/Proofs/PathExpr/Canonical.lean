import RecordSheets.Proofs.PathExpr.Grammar

/-!
# Canonical texts of path expressions

Every expression that is read has a canonical text, which reads back as the expression (`PathExpr.parse_render`).

The proof goes through the grammar: what a text stands for, the canonical text stands for too. This needs to know which characters
are left in an expression that was read. A path of an array join has no quote and no closing parenthesis, and a part of a
concatenation has no plus sign, no closing parenthesis and no blank, and its key is its path without the dots
(`ConcatPart.Tidy`).
-/

namespace RecordSheets

/-- The canonical text of an expression. -/
def PathExpr.render : PathExpr → String
  | .plain path => "." ++ path
  | .arrayJoin path => "\"(." ++ path ++ ")\" |"
  | .concat parts => "(" ++ String.intercalate " + " (parts.map fun part => "." ++ part.path) ++ ")"

/-- A part of a concatenation that can be written between plus signs. -/
structure ConcatPart.Tidy (part : ConcatPart) : Prop where
  /-- The key is the path without its dots. -/
  fused : part.fused = String.ofList (part.path.toList.filter (· != '.'))
  /-- The path ends at no parenthesis. -/
  noParen : ')' ∉ part.path.toList
  /-- The path ends at no plus sign. -/
  noPlus : '+' ∉ part.path.toList
  /-- The path has no blanks. -/
  noBlank : ∀ c ∈ part.path.toList, Text.isBlank c = false

namespace PathExpr

/-! ## Plain paths -/

/-- A dot in front makes no quoted group. -/
theorem quotedGroup_of_dot {cs before body : List Char} (h : QuotedGroup ('.' :: cs) before body) :
    ∃ before, QuotedGroup cs before body := by
  obtain ⟨behind, hsplit, hbody⟩ := h
  cases before with
  | nil => cases hsplit
  | cons c before => exact ⟨before, behind, (List.cons.inj hsplit).2, hbody⟩

/-- The path of a plain text, with a dot in front, is a plain text of the same path. -/
theorem denotes_render_plain {cs : List Char} (hother : ¬('|' ∈ cs ∧ ∃ before body, QuotedGroup cs before body)) :
    Denotes ('.' :: Text.dropLeading '.' cs) (.plain (String.ofList (Text.dropLeading '.' cs))) := by
  have houter : ¬InParentheses ('.' :: Text.dropLeading '.' cs) := fun h => by cases h.1
  have hplain : ¬('|' ∈ '.' :: Text.dropLeading '.' cs ∧
      ∃ before body, QuotedGroup ('.' :: Text.dropLeading '.' cs) before body) := by
    rintro ⟨hbar, before, body, hgroup⟩
    rcases Text.eq_cons_dropLeading_or '.' cs with hdot | ⟨-, hnone⟩
    · rw [← hdot] at hbar hgroup
      exact hother ⟨hbar, before, body, hgroup⟩
    · rw [hnone] at hbar hgroup
      obtain ⟨before', hgroup'⟩ := quotedGroup_of_dot hgroup
      exact hother ⟨by simpa using hbar, before', body, hgroup'⟩
  have hdenotes := Denotes.plain houter hplain
  rwa [Text.dropLeading_cons_self] at hdenotes

/-! ## Array joins -/

/-- A path without quotes and closing parentheses is read from quoted parentheses in front of a bar. -/
theorem denotes_render_arrayJoin {path : List Char} (hquote : '"' ∉ path) (hparen : ')' ∉ path) :
    Denotes ('"' :: '(' :: ('.' :: path ++ [')', '"', ' ', '|'])) (.arrayJoin (String.ofList path)) := by
  have houter : ¬InParentheses ('"' :: '(' :: ('.' :: path ++ [')', '"', ' ', '|'])) := fun h => by cases h.1
  have hgroup : FirstQuotedGroup ('"' :: '(' :: ('.' :: path ++ [')', '"', ' ', '|'])) ('.' :: path) :=
    ⟨[], ⟨[' ', '|'], rfl, by simp, by simpa using hparen⟩, fun b _ _ => Nat.zero_le b.length⟩
  have hdenotes := Denotes.arrayJoin houter (by simp) hgroup
  have hkept : ('.' :: path).filter (· != '"') = '.' :: path := by
    refine List.filter_eq_self.2 fun c hc => ?_
    have hne : c ≠ '"' := by
      rintro rfl
      exact hquote (by simpa using hc)
    simpa using hne
  rwa [hkept, Text.dropLeading_cons_self] at hdenotes

/-! ## Concatenations -/

/-- The part that a text without blanks stands for. -/
def partOfBare (bare : List Char) : ConcatPart :=
  ⟨String.ofList (bare.filter (· != '.')), String.ofList (Text.dropLeading '.' bare)⟩

/-- Removing a dot in front keeps what is no dot. -/
theorem filter_dropLeading (cs : List Char) :
    (Text.dropLeading '.' cs).filter (· != '.') = cs.filter (· != '.') := by
  rcases Text.eq_cons_dropLeading_or '.' cs with hdot | ⟨-, hnone⟩
  · conv => rhs; rw [hdot]
    rw [List.filter_cons_of_neg (by simp)]
  · rw [hnone]

/-- A piece without plus signs and closing parentheses stands for a tidy part. -/
theorem tidy_partOf {piece : List Char} (hparen : ')' ∉ piece) (hplus : '+' ∉ piece) : (partOf piece).Tidy := by
  have hmem : ∀ c ∈ (partOf piece).path.toList, c ∈ piece ∧ Text.isBlank c = false := by
    intro c hc
    rw [partOf, String.toList_ofList] at hc
    simpa using Text.mem_of_mem_dropLeading hc
  refine ⟨?_, fun h => hparen (hmem _ h).1, fun h => hplus (hmem _ h).1, fun c hc => (hmem c hc).2⟩
  rw [partOf, String.toList_ofList, filter_dropLeading]

/-- A tidy part is what its path with a dot in front stands for. -/
theorem partOfBare_of_tidy {part : ConcatPart} (h : part.Tidy) : partOfBare ('.' :: part.path.toList) = part := by
  rw [partOfBare, Text.dropLeading_cons_self, List.filter_cons_of_neg (by simp), ← h.fused, String.ofList_toList]

/-- The paths of a concatenation, each with a dot in front, and spaces and a plus sign between them. -/
def sumOf (parts : List ConcatPart) : List Char :=
  List.intercalate [' ', '+', ' '] (parts.map fun part => '.' :: part.path.toList)

/-- The pieces of the sum of tidy parts stand for the parts. -/
theorem map_partOf_pieces_sumOf {parts : List ConcatPart} (hne : parts ≠ []) (htidy : ∀ part ∈ parts, part.Tidy) :
    (Text.pieces '+' (sumOf parts)).map partOf = parts := by
  have hbare : (sumOf parts).filter (fun c => !Text.isBlank c) =
      List.intercalate ['+'] (parts.map fun part => '.' :: part.path.toList) := by
    rw [sumOf, Text.filter_intercalate, List.map_map]
    refine congrArg (List.intercalate ['+']) (List.map_congr_left fun part hpart => ?_)
    refine List.filter_eq_self.2 fun c hc => ?_
    rcases List.mem_cons.1 hc with rfl | hc
    · rfl
    · rw [(htidy part hpart).noBlank c hc]
      rfl
  have hpieces : Text.pieces '+' ((sumOf parts).filter fun c => !Text.isBlank c) =
      parts.map fun part => '.' :: part.path.toList := by
    rw [hbare]
    refine Text.pieces_intercalate (by simpa using hne) fun p hp => ?_
    obtain ⟨part, hpart, rfl⟩ := List.mem_map.1 hp
    simpa using (htidy part hpart).noPlus
  -- A part is that of its piece without blanks, so the blanks may be left out before cutting.
  calc (Text.pieces '+' (sumOf parts)).map partOf
      = ((Text.pieces '+' (sumOf parts)).map (List.filter fun c => !Text.isBlank c)).map partOfBare := by
        rw [List.map_map]
        rfl
    _ = (Text.pieces '+' ((sumOf parts).filter fun c => !Text.isBlank c)).map partOfBare := by
        rw [Text.pieces_filter (by rfl)]
    _ = parts.map fun part => partOfBare ('.' :: part.path.toList) := by
        rw [hpieces, List.map_map]
        rfl
    _ = parts := by
        conv => rhs; rw [← List.map_id parts]
        exact List.map_congr_left fun part hpart => partOfBare_of_tidy (htidy part hpart)

/-- Tidy parts are read from their sum in parentheses. -/
theorem denotes_render_concat {parts : List ConcatPart} (hne : parts ≠ []) (htidy : ∀ part ∈ parts, part.Tidy) :
    Denotes ('(' :: (sumOf parts ++ [')'])) (.concat parts) := by
  have houter : InParentheses ('(' :: (sumOf parts ++ [')'])) := by
    refine ⟨rfl, ?_⟩
    rw [← List.cons_append, List.getLast?_concat]
  have hfilled : sumOf parts ≠ [] := by
    obtain ⟨part, rest, rfl⟩ := List.exists_cons_of_ne_nil hne
    cases rest <;> simp [sumOf, List.intercalate_cons_cons]
  have hclosed : ')' ∉ sumOf parts := by
    intro hmem
    rcases Text.mem_intercalate hmem with hsep | ⟨p, hp, hc⟩
    · simp at hsep
    · obtain ⟨part, hpart, rfl⟩ := List.mem_map.1 hp
      exact (htidy part hpart).noParen (by simpa using hc)
  have hgroup : FirstGroup ('(' :: (sumOf parts ++ [')'])) (sumOf parts) :=
    ⟨[], [], rfl, hfilled, hclosed, fun b rest _ hlt => absurd hlt (Nat.not_lt_zero _)⟩
  have hdenotes := Denotes.concat houter hgroup (cutInto_iff.2 rfl)
  rwa [map_partOf_pieces_sumOf hne htidy] at hdenotes

/-- The parts of a concatenation that a text stands for are tidy, and there is one. -/
theorem tidy_of_denotes {cs : List Char} {parts : List ConcatPart} (h : Denotes cs (.concat parts)) :
    parts ≠ [] ∧ ∀ part ∈ parts, part.Tidy := by
  cases h with
  | concat outer group cut =>
    obtain ⟨hne, hbody, hplus⟩ := cut
    obtain ⟨before, behind, -, -, hclosed, -⟩ := group
    refine ⟨by simpa using hne, fun part hpart => ?_⟩
    obtain ⟨piece, hpiece, rfl⟩ := List.mem_map.1 hpart
    refine tidy_partOf (fun hmem => hclosed ?_) (hplus piece hpiece)
    rw [← hbody]
    exact Text.mem_intercalate_of_mem hpiece hmem

theorem toList_render_concat (parts : List ConcatPart) :
    (PathExpr.concat parts).render.toList = '(' :: (sumOf parts ++ [')']) := by
  simp [render, sumOf, String.toList_intercalate, List.map_map, Function.comp_def]

/-! ## All expressions -/

/-- The canonical text of an expression stands for all that a text of the expression stands for. -/
theorem denotes_render {cs : List Char} {expr : PathExpr} (h : Denotes cs expr) : Denotes expr.render.toList expr := by
  cases h with
  | concat outer group cut =>
    obtain ⟨hne, htidy⟩ := tidy_of_denotes (.concat outer group cut)
    rw [toList_render_concat]
    exact denotes_render_concat hne htidy
  | @arrayJoin body outer bar group =>
    obtain ⟨before, ⟨behind, -, -, hclosed⟩, -⟩ := group
    have hmem : ∀ c ∈ Text.dropLeading '.' (body.filter (· != '"')), c ∈ body ∧ c ≠ '"' := by
      intro c hc
      simpa using Text.mem_of_mem_dropLeading hc
    have hdenotes := denotes_render_arrayJoin (fun hc => (hmem _ hc).2 rfl) fun hc => hclosed (hmem _ hc).1
    simpa [render] using hdenotes
  | plain outer other =>
    have hdenotes := denotes_render_plain other
    simpa [render] using hdenotes

/-- An expression that was read from any text is read again from its canonical text. If it is a concatenation, it has a part, and
the key of every part is the path of the part without its dots. -/
theorem parse_render {text : String} {expr : PathExpr} (h : parse text = .ok expr) :
    parse expr.render = .ok expr ∧
      ∀ parts, expr = .concat parts →
        parts ≠ [] ∧ ∀ part ∈ parts, part.fused = String.ofList (part.path.toList.filter (· != '.')) := by
  have hdenotes := denotes_of_parse h
  refine ⟨parse_of_denotes (denotes_render hdenotes), ?_⟩
  rintro parts rfl
  obtain ⟨hne, htidy⟩ := tidy_of_denotes hdenotes
  exact ⟨hne, fun part hpart => (htidy part hpart).fused⟩

/-- The theorem at a text with an empty group in front, blanks inside a path, a dot at its end and an empty piece. -/
theorem parse_render_blanks :
    parse "()(.up . air+)(x)" = .ok (.concat [⟨"upair", "up.air"⟩, ⟨"", ""⟩]) ∧
      parse "(.up.air + .)" = .ok (.concat [⟨"upair", "up.air"⟩, ⟨"", ""⟩]) := by
  have h : parse "()(.up . air+)(x)" = .ok (.concat [⟨"upair", "up.air"⟩, ⟨"", ""⟩]) := by rfl
  exact ⟨h, (parse_render h).1⟩

end PathExpr

end RecordSheets
