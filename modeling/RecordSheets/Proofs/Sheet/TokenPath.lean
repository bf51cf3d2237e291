import RecordSheets.Proofs.PathExpr.Grammar
import RecordSheets.Proofs.Sheet.Texts

/-!
# The path of the tokens and the path of a column

The same path text may stand in a mapping as the path of the i18n tokens and as the plain path of a column. A column's path loses a dot
at its front. The path of the tokens loses its first dot, wherever this stands. So the two lead to the same value of every record
if and only if the first dot, if there is one, stands at the front (`Mapping.sheet_tokens_iff`); a dot further inside joins two steps of
the path of the tokens into one (`Mapping.not_tokens_innerDot`).
-/

namespace RecordSheets

/-- The strings in a list. Nothing else holds any. -/
def Json.strings : Json → List String
  | .arr items => items.filterMap Json.string?
  | _ => []

namespace Text

/-- A text whose first separator, if any, stands at its front loses this one by losing its first one. -/
theorem erase_eq_dropLeading {sep : Char} {cs : List Char} (h : sep ∈ cs → cs.head? = some sep) :
    cs.erase sep = dropLeading sep cs := by
  rcases eq_cons_dropLeading_or sep cs with hfront | ⟨hhead, hsame⟩
  · rw [hfront, dropLeading_cons_self, List.erase_cons_head]
  · rw [hsame, List.erase_of_not_mem fun hmem => hhead (h hmem)]

end Text

namespace Json

theorem evaluate_plain (record : Json) (path : String) :
    (PathExpr.plain path).evaluate record = (record.resolve? path).getD .null := rfl

/-- The tokens at a path are the strings at the plain path without its first dot. -/
theorem tokensAt_eq_strings (record : Json) (path : String) :
    record.tokensAt path = ((PathExpr.plain (String.ofList (path.toList.erase '.'))).evaluate record).strings := by
  rw [evaluate_plain, tokensAt]
  cases record.resolve? (String.ofList (path.toList.erase '.')) with
  | none => rfl
  | some value => cases value <;> rfl

/-- There are no strings where there is no list. -/
theorem strings_getD_of_ne_arr {found : Option Json} (h : ∀ items, found ≠ some (.arr items)) :
    (found.getD .null).strings = [] := by
  cases found with
  | none => rfl
  | some value =>
    cases value with
    | arr items => exact absurd rfl (h items)
    | _ => rfl

/-! ## Records that hold one value at the end of a path -/

/-- A record with a value at the end of some steps, and with nothing else. -/
def within (v : Json) : List String → Json
  | [] => v
  | step :: rest => .obj [(step, within v rest)]

theorem foldlM_child?_within (v : Json) (steps : List String) : steps.foldlM child? (within v steps) = some v := by
  induction steps with
  | nil => rfl
  | cons step rest ih =>
    have hchild : (within v (step :: rest)).child? step = some (within v rest) := by
      simp [within, child?, Fields.get?]
    rw [List.foldlM_cons, hchild]
    exact ih

/-- One step more than leads to a list of strings leads to no list. -/
theorem foldlM_child?_within_of_length (texts : List String) {steps other : List String}
    (h : other.length = steps.length + 1) (items : List Json) :
    other.foldlM child? (within (.arr (texts.map Json.str)) steps) ≠ some (.arr items) := by
  induction steps generalizing other with
  | nil =>
    obtain ⟨step, rfl⟩ := List.length_eq_one_iff.1 h
    simp [within, child?, Option.bind_eq_some_iff, List.getElem?_map]
  | cons step rest ih =>
    cases other with
    | nil => cases h
    | cons first more =>
      rw [List.foldlM_cons]
      intro hlist
      obtain ⟨inner, hinner, hmore⟩ := Option.bind_eq_some_iff.1 hlist
      have hsame : inner = within (.arr (texts.map Json.str)) rest := by
        simp only [within, child?, Fields.get?, List.lookup_cons, List.lookup_nil] at hinner
        split at hinner
        · exact (Option.some.inj hinner).symm
        · cases hinner
      rw [hsame] at hmore
      exact ih (Nat.succ.inj h) hmore

/-- Where the first dot of a path stands further inside, there is a record that has a token by the path as one of tokens and none by it as
the plain path of a column. -/
theorem exists_tokensAt_ne {text : String} (hdot : '.' ∈ text.toList) :
    ∃ record : Json, record.tokensAt text = [""] ∧ ((PathExpr.plain text).evaluate record).strings = [] := by
  have hfewer : (Text.cut '.' text).length = (Text.cut '.' (String.ofList (text.toList.erase '.'))).length + 1 := by
    have hpos := List.count_pos_iff.2 hdot
    simp only [Text.cut, List.length_map, Text.length_pieces, String.toList_ofList, List.count_erase_self]
    omega
  refine ⟨within (.arr [.str ""]) (Text.cut '.' (String.ofList (text.toList.erase '.'))), ?_, ?_⟩
  · rw [tokensAt, resolve?, foldlM_child?_within]
    rfl
  · rw [evaluate_plain, resolve?]
    exact strings_getD_of_ne_arr (foldlM_child?_within_of_length [""] hfewer)

end Json

namespace Mapping

/-- The path of the tokens, read as an expression and found to be a plain path, is followed like a column's if its first dot, if any,
stands at its front, and otherwise there is a record for which it leads elsewhere. The tokens that it leads to are those whose texts are
put into the rows. -/
theorem sheet_tokens_iff {text path : String} (h : PathExpr.parse text = .ok (.plain path)) {m : Mapping}
    (hpath : m.tokenPath = some text) :
    (∀ presets opts records, m.sheet presets opts records = records.map fun record =>
        Row.withTexts presets.texts opts (m.namedRow presets opts record) (record.tokensAt text)) ∧
      ((∀ record : Json, record.tokensAt text = ((PathExpr.plain path).evaluate record).strings) ↔
        ('.' ∈ text.toList → text.toList.head? = some '.')) := by
  have hplain : path = String.ofList (Text.dropLeading '.' text.toList) := by
    cases PathExpr.denotes_of_parse h with
    | plain outer other => rfl
  constructor
  · intro presets opts records
    rw [sheet_eq_map]
    refine List.map_congr_left fun record _ => ?_
    rw [localizedRow, hpath]
    rfl
  constructor
  · intro hsame hdot
    rcases Text.eq_cons_dropLeading_or '.' text.toList with hfront | ⟨-, hnothing⟩
    · rw [hfront]
      rfl
    · rw [hnothing, String.ofList_toList] at hplain
      obtain ⟨record, htokens, hstrings⟩ := Json.exists_tokensAt_ne hdot
      have hlist := hsame record
      rw [htokens, hplain, hstrings] at hlist
      cases hlist
  · intro hfront record
    rw [Json.tokensAt_eq_strings, Text.erase_eq_dropLeading hfront, ← hplain]

/-- A gun whose tokens stand in an inner object. -/
def innerGun : Json := .obj [("gun", .str "IDS_A"), ("meta", .obj [("ids", .arr [.str "IDS_A", .int 5])])]

/-- A mapping that takes the tokens from there. -/
def innerTokens (path : String) : Mapping := ⟨"火炮", [⟨"主炮", PathExpr.parse ".gun"⟩], some path⟩

/-- The theorem where the first dot stands at the front. -/
theorem sheet_tokens_frontDot :
    PathExpr.parse ".meta.ids" = .ok (.plain "meta.ids") ∧ (innerTokens ".meta.ids").tokenPath = some ".meta.ids" ∧
      innerGun.tokensAt ".meta.ids" = ((PathExpr.plain "meta.ids").evaluate innerGun).strings ∧
      innerGun.tokensAt ".meta.ids" = ["IDS_A"] := by
  have hparse : PathExpr.parse ".meta.ids" = .ok (.plain "meta.ids") := rfl
  have hpath : (innerTokens ".meta.ids").tokenPath = some ".meta.ids" := rfl
  exact ⟨hparse, hpath, (sheet_tokens_iff hparse hpath).2.2 (by decide) innerGun, by decide +kernel⟩

/-- With its only dot further inside, the path of the tokens does not lead where it leads as a column's path, and the text of a token
is not put in. -/
theorem not_tokens_innerDot :
    PathExpr.parse "meta.ids" = .ok (.plain "meta.ids") ∧
      ((PathExpr.plain "meta.ids").evaluate innerGun).strings = ["IDS_A"] ∧ innerGun.tokensAt "meta.ids" = [] ∧
      ((innerTokens "meta.ids").sheet ⟨.empty, ⟨[("ids_a", "甲")]⟩⟩ {} [innerGun]).map
        (fun row => (row.get? "主炮").bind Json.string?) = [some "IDS_A"] ∧
      ((innerTokens ".meta.ids").sheet ⟨.empty, ⟨[("ids_a", "甲")]⟩⟩ {} [innerGun]).map
        (fun row => (row.get? "主炮").bind Json.string?) = [some "甲"] :=
  ⟨rfl, by decide +kernel, by decide +kernel, by decide +kernel, by decide +kernel⟩

end Mapping

end RecordSheets
