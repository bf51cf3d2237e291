import RecordSheets.PathExpr.Evaluate
import RecordSheets.Proofs.PathExpr.Canonical

/-!
# Sums of paths

A concatenation is written as a sum of paths in parentheses. Over a record it gives the texts of its paths, one after the other
(`Json.evaluate_sum`). A path counts with the record's own member of its key, which is the path without its dots, and if there is no such
member with what it evaluates to by itself.

The two forms of expression meet in the paths. The sum is the canonical text of its parts, so that the parts are read from it
(`PathExpr.parse_sum`), and a path that can stand in a sum is read as a plain path if it stands alone (`PathExpr.parse_alone`).
-/

namespace RecordSheets

namespace PathExpr

/-- A path that can stand in a sum: it has no blanks, and neither a plus sign nor a closing parenthesis ends it early. -/
def Addable (path : String) : Prop := ∀ c ∈ path.toList, Text.isBlank c = false ∧ c ≠ '+' ∧ c ≠ ')'

/-- The key that a path is tried as first: the path without its dots. -/
def keyOf (path : String) : String := String.ofList (path.toList.filter (· != '.'))

/-- The text of a path that stands alone. -/
def alone (path : String) : String := "." ++ path

/-- The sum of paths, in parentheses. -/
def sum (paths : List String) : String := "(" ++ String.intercalate " + " (paths.map alone) ++ ")"

end PathExpr

/-- The value that a path counts with in a sum: the record's own member of the path's key, even if that is null, and without one what the
path evaluates to by itself. -/
def Json.summand (record : Json) (path : String) : Json :=
  match record.fields?.bind fun fields => fields.get? (PathExpr.keyOf path) with
  | some v => v
  | none => record.evaluate (PathExpr.alone path)

namespace PathExpr

/-! ## Reading -/

/-- A path without closing parentheses is a plain path if it stands alone. A bar and quotes in it make no array join. -/
theorem parse_alone {path : String} (h : ')' ∉ path.toList) : parse (alone path) = .ok (.plain path) := by
  have htext : (alone path).toList = '.' :: path.toList := by simp [alone]
  have houter : ¬InParentheses (alone path).toList := by
    rintro ⟨hhead, -⟩
    simp [htext] at hhead
  have hother : ¬('|' ∈ (alone path).toList ∧ ∃ before body, QuotedGroup (alone path).toList before body) := by
    rintro ⟨-, before, body, behind, hsplit, -⟩
    have hmem : ')' ∈ (alone path).toList := by simp [hsplit]
    rw [htext, List.mem_cons] at hmem
    rcases hmem with hmem | hmem
    · simp at hmem
    · exact h hmem
  have hread := parse_of_denotes (.plain houter hother)
  rwa [htext, Text.dropLeading_cons_self, String.ofList_toList] at hread

/-- The part of a concatenation that a path gives. -/
def partFor (path : String) : ConcatPart := ⟨keyOf path, path⟩

/-- A path that can stand in a sum gives a part that can be written there. -/
theorem Addable.tidy {path : String} (h : Addable path) : (partFor path).Tidy := by
  constructor
  case fused => rfl
  case noParen => exact fun hmem => (h _ hmem).2.2 rfl
  case noPlus => exact fun hmem => (h _ hmem).2.1 rfl
  case noBlank => exact fun c hc => (h c hc).1

/-- The parts of a sum are its paths. -/
theorem parse_sum {paths : List String} (hne : paths ≠ []) (h : ∀ path ∈ paths, Addable path) :
    parse (sum paths) = .ok (.concat (paths.map partFor)) := by
  have hcanonical : (PathExpr.concat (paths.map partFor)).render = sum paths := by
    rw [render, sum, List.map_map]
    rfl
  have htidy : ∀ part ∈ paths.map partFor, part.Tidy := by
    intro part hpart
    obtain ⟨path, hpath, rfl⟩ := List.mem_map.1 hpart
    exact (h path hpath).tidy
  refine parse_of_denotes ?_
  rw [← hcanonical, toList_render_concat]
  exact denotes_render_concat (by simpa using hne) htidy

/-! ## Evaluating -/

/-- Parts without a value add nothing. -/
theorem join_filterMap {α β : Type} (value? : α → Option β) (text : β → String) (parts : List α) :
    String.join ((parts.filterMap value?).map text) = String.join (parts.map fun part => ((value? part).map text).getD "") := by
  induction parts with
  | nil => rfl
  | cons part rest ih =>
    rw [List.map_cons, String.join_cons, ← ih, List.filterMap_cons]
    cases value? part with
    | none => simp
    | some v => simp

/-- The text of the part for a path is that of the value that the path counts with. -/
theorem text_partFor {path : String} (h : ')' ∉ path.toList) (record : Json) :
    (((partFor path).resolve? record).map Json.cellText).getD "" = (record.summand path).cellText := by
  unfold ConcatPart.resolve? Json.summand partFor
  cases record.fields?.bind fun fields => fields.get? (keyOf path) with
  | some v => rfl
  | none =>
    rw [Json.evaluate, parse_alone h]
    -- A path that leads nowhere has no value in the sum and evaluates to null by itself: both have the empty text.
    cases hvalue : record.resolve? path with
    | none => simp [evaluate, hvalue, Json.cellText]
    | some v => simp [evaluate, hvalue]

end PathExpr

/-- A sum of paths gives the texts of the values that the paths count with, from left to right. -/
theorem Json.evaluate_sum {paths : List String} (hne : paths ≠ []) (h : ∀ path ∈ paths, PathExpr.Addable path)
    (record : Json) :
    record.evaluate (PathExpr.sum paths) = .str (String.join (paths.map fun path => (record.summand path).cellText)) := by
  rw [evaluate, PathExpr.parse_sum hne h]
  simp only [PathExpr.evaluate]
  rw [PathExpr.join_filterMap, List.map_map]
  refine congrArg (fun texts => Json.str (String.join texts)) (List.map_congr_left fun path hpath => ?_)
  exact PathExpr.text_partFor (fun hmem => (h path hpath _ hmem).2.2 rfl) record

/-- The theorem at a record that has a member for the key of the second path, which is null, and nothing at the end of the last path. -/
theorem Json.evaluate_sum_nullMember :
    ["hull", "upgrade.air", "ranks.1", "crew.name"] ≠ [] ∧
      (∀ path ∈ ["hull", "upgrade.air", "ranks.1", "crew.name"], PathExpr.Addable path) ∧
      (Json.obj [("hull", .str "A1"), ("upgradeair", .null), ("upgrade", .obj [("air", .str "B2")]),
        ("ranks", .arr [.int 7, .bool true])]).evaluate "(.hull + .upgrade.air + .ranks.1 + .crew.name)" = .str "A1true" := by
  have hne : ["hull", "upgrade.air", "ranks.1", "crew.name"] ≠ [] := by simp
  have h : ∀ path ∈ ["hull", "upgrade.air", "ranks.1", "crew.name"], PathExpr.Addable path := by
    simp [PathExpr.Addable, Text.isBlank]
  exact ⟨hne, h, evaluate_sum hne h _⟩

end RecordSheets
