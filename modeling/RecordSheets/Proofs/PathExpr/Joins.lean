import RecordSheets.PathExpr.Evaluate

/-!
# Joined lists

An array join puts bars between the elements of a list, and commas between what lies in an element that is a list itself. However deep
the lists in an element go, only their leaves are seen (`PathExpr.evaluate_arrayJoin`), as long as none of these lists is empty: an empty
one has no leaf, but it still has its place between two commas.

The text of a list in a list is a join of joins. It is one join because the inner ones are never of nothing
(`Text.intercalate_map_intercalate`), which is what `Json.Filled` is for.
-/

namespace RecordSheets

/-- Joins of some texts each, joined with the same separator, are one join of all the texts. -/
theorem Text.intercalate_map_intercalate (sep : String) {textss : List (List String)} (h : ∀ texts ∈ textss, texts ≠ []) :
    String.intercalate sep (textss.map (String.intercalate sep)) = String.intercalate sep textss.flatten := by
  induction textss with
  | nil => rfl
  | cons texts rest ih =>
    rw [List.forall_mem_cons] at h
    obtain ⟨htexts, hrest⟩ := h
    rw [List.map_cons, List.flatten_cons]
    cases rest with
    | nil => simp
    | cons next more =>
      have hflat : (next :: more).flatten ≠ [] := by
        rw [List.flatten_cons]
        exact List.append_ne_nil_of_left_ne_nil (hrest next List.mem_cons_self) _
      rw [String.intercalate_cons_of_ne_nil (by simp), ih hrest, String.intercalate_append_of_ne_nil htexts hflat]

namespace Json

/-! ## Leaves -/

mutual

/-- The leaves of a value from left to right: those of its elements if it is a list, else the value itself. -/
def leaves : Json → List Json
  | .arr items => leavesOf items
  | v => [v]

/-- The leaves of the elements of a list. -/
def leavesOf : List Json → List Json
  | [] => []
  | v :: rest => leaves v ++ leavesOf rest

end

/-- A value that is no list, or a list with elements of which none is or holds an empty list. Lists in objects do not count. -/
inductive Filled : Json → Prop where
  | leaf {v : Json} (h : v.items? = none) : Filled v
  | arr {items : List Json} (hne : items ≠ []) (h : ∀ v ∈ items, Filled v) : Filled (.arr items)

theorem leaves_arr (items : List Json) : (Json.arr items).leaves = items.flatMap leaves := by
  rw [leaves]
  induction items with
  | nil => rfl
  | cons v rest ih => rw [leavesOf, ih, List.flatMap_cons]

theorem leaves_of_items? {v : Json} (h : v.items? = none) : v.leaves = [v] := by
  cases v with
  | arr items => cases h
  | _ => rfl

/-- Where no list is empty there is a leaf. -/
theorem Filled.leaves_ne_nil {v : Json} (h : v.Filled) : v.leaves ≠ [] := by
  induction h with
  | leaf h => simp [leaves_of_items? h]
  | @arr items hne _ ih =>
    obtain ⟨v, rest, rfl⟩ := List.exists_cons_of_ne_nil hne
    rw [leaves_arr, List.flatMap_cons]
    exact List.append_ne_nil_of_left_ne_nil (ih v List.mem_cons_self) _

/-! ## Texts -/

/-- The texts of the elements of a list are taken one by one. -/
theorem elementTexts_eq_map (items : List Json) : elementTexts items = items.map elementText := by
  induction items with
  | nil => rfl
  | cons v rest ih => rw [elementTexts, ih, List.map_cons]

theorem elementText_of_items? {v : Json} (h : v.items? = none) : v.elementText = v.cellText := by
  cases v with
  | arr items => cases h
  | _ => rfl

/-- The text of an element is made of its leaves alone. -/
theorem Filled.elementText_eq {v : Json} (h : v.Filled) : v.elementText = String.intercalate "," (v.leaves.map cellText) := by
  induction h with
  | leaf h => rw [elementText_of_items? h, leaves_of_items? h, List.map_singleton, String.intercalate_singleton]
  | @arr items _ h ih =>
    have hleaves : ∀ texts ∈ items.map (fun v => v.leaves.map cellText), texts ≠ [] := by
      intro texts htexts
      obtain ⟨v, hv, rfl⟩ := List.mem_map.1 htexts
      simpa using (h v hv).leaves_ne_nil
    calc (Json.arr items).elementText
      _ = String.intercalate "," (items.map elementText) := by rw [elementText, elementTexts_eq_map]
      _ = String.intercalate "," ((items.map fun v => v.leaves.map cellText).map (String.intercalate ",")) := by
        rw [List.map_map]
        exact congrArg _ (List.map_congr_left ih)
      _ = String.intercalate "," (items.map fun v => v.leaves.map cellText).flatten :=
        Text.intercalate_map_intercalate "," hleaves
      _ = String.intercalate "," ((Json.arr items).leaves.map cellText) := by
        rw [leaves_arr, List.map_flatMap, List.flatMap_def]

/-- Joined elements show the leaves that each of them has. -/
theorem joined_of_filled (sep : String) {items : List Json} (h : ∀ v ∈ items, v.Filled) :
    joined sep items = String.intercalate sep ((items.map leaves).map fun vs => String.intercalate "," (vs.map cellText)) := by
  rw [joined, elementTexts_eq_map, List.map_map]
  exact congrArg _ (List.map_congr_left fun v hv => (h v hv).elementText_eq)

end Json

/-! ## Array joins -/

namespace PathExpr

/-- An array join that comes to a list joins it with bars. -/
theorem evaluate_arrayJoin_of_list {record : Json} {path : String} {items : List Json}
    (h : record.resolve? path = some (.arr items)) :
    (arrayJoin path).evaluate record = .str (Json.joined "|" items) := by
  simp only [evaluate, h]

/-- An array join that comes to a list in which no list is empty gives the leaves of each element with commas between them, and bars
between the elements. So it gives the same wherever it comes to elements with the same leaves, however these are nested. -/
theorem evaluate_arrayJoin {record : Json} {path : String} {items : List Json} (h : record.resolve? path = some (.arr items))
    (hfilled : ∀ v ∈ items, v.Filled) :
    (arrayJoin path).evaluate record =
        .str (String.intercalate "|" (items.map fun v => String.intercalate "," (v.leaves.map Json.cellText))) ∧
      ∀ (record' : Json) (path' : String) (items' : List Json), record'.resolve? path' = some (.arr items') →
        (∀ v ∈ items', v.Filled) → items'.map Json.leaves = items.map Json.leaves →
        (arrayJoin path').evaluate record' = (arrayJoin path).evaluate record := by
  constructor
  · rw [evaluate_arrayJoin_of_list h, Json.joined_of_filled "|" hfilled, List.map_map]
    rfl
  · intro record' path' items' h' hfilled' hleaves
    rw [evaluate_arrayJoin_of_list h, evaluate_arrayJoin_of_list h', Json.joined_of_filled "|" hfilled,
      Json.joined_of_filled "|" hfilled', hleaves]

/-- A list with elements of several depths: lists, null and an object that holds an empty list. -/
def deepTags : List Json := [.arr [.str "a", .arr [.arr [.int 1], .str "b"]], .null, .obj [("k", .arr [])]]

/-- A list of the same leaves, nested once where they are several. -/
def flatTags : List Json := [.arr [.str "a", .int 1, .str "b"], .null, .obj [("k", .arr [])]]

/-- The theorem at these two lists. -/
theorem evaluate_arrayJoin_tags :
    (Json.obj [("tags", .arr deepTags)]).resolve? "tags" = some (.arr deepTags) ∧ (∀ v ∈ deepTags, v.Filled) ∧
      (Json.arr [.null, .arr flatTags]).resolve? "1" = some (.arr flatTags) ∧ (∀ v ∈ flatTags, v.Filled) ∧
      flatTags.map Json.leaves = deepTags.map Json.leaves ∧
      (arrayJoin "tags").evaluate (.obj [("tags", .arr deepTags)]) = .str "a,1,b||\x7b\"k\":[]\x7d" ∧
      (arrayJoin "1").evaluate (.arr [.null, .arr flatTags]) = .str "a,1,b||\x7b\"k\":[]\x7d" := by
  have hdeep : (Json.obj [("tags", .arr deepTags)]).resolve? "tags" = some (.arr deepTags) := rfl
  have hflat : (Json.arr [.null, .arr flatTags]).resolve? "1" = some (.arr flatTags) := rfl
  have hfilled : ∀ v ∈ deepTags, v.Filled := by
    have hinner : (Json.arr [.arr [.int 1], .str "b"]).Filled :=
      .arr (by simp) (by simpa using ⟨.arr (by simp) (by simpa using .leaf rfl), .leaf rfl⟩)
    simpa [deepTags] using ⟨.arr (by simp) (by simpa using ⟨.leaf rfl, hinner⟩), .leaf rfl, .leaf rfl⟩
  have hfilled' : ∀ v ∈ flatTags, v.Filled := by
    simpa [flatTags] using ⟨.arr (by simp) (by simpa using ⟨.leaf rfl, .leaf rfl, .leaf rfl⟩), .leaf rfl, .leaf rfl⟩
  have hleaves : flatTags.map Json.leaves = deepTags.map Json.leaves := rfl
  obtain ⟨htext, hsame⟩ := evaluate_arrayJoin hdeep hfilled
  have hvalue : (arrayJoin "tags").evaluate (.obj [("tags", .arr deepTags)]) = .str "a,1,b||\x7b\"k\":[]\x7d" := by
    rw [htext]
    rfl
  refine ⟨hdeep, hfilled, hflat, hfilled', hleaves, hvalue, ?_⟩
  rw [hsame _ _ _ hflat hfilled' hleaves, hvalue]

end PathExpr

end RecordSheets
