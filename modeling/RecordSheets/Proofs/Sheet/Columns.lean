import RecordSheets.Proofs.Json.Keys
import RecordSheets.Sheet

/-!
# The columns of a sheet

A sheet has one row for each record, in order, and every row has the columns of the mapping, in declared order and each once.

Where the keys of an object differ, the headings of its mapping do (`Mapping.nodup_columnNames`). From there on the keys of a row are
followed through the passes: taking the cells from the record puts in one new key after the other (`Mapping.row_eq_map`), and each pass
of localization keeps the keys of any row.
-/

namespace RecordSheets

/-! ## The columns of a mapping -/

namespace Mapping

/-- The columns that the members of a mapping stand for: one for each key but the reserved one. -/
def columnsOf (fields : Fields) : List Column :=
  (fields.filter fun x => x.1 != tokenKey).map fun x => ⟨x.1, PathExpr.ofJson x.2⟩

/-- The reserved key stands for no column, every other key for one. -/
theorem columnsOf_cons (name : String) (value : Json) (rest : Fields) :
    columnsOf ((name, value) :: rest) =
      if name = tokenKey then columnsOf rest else ⟨name, PathExpr.ofJson value⟩ :: columnsOf rest := by
  by_cases h : name = tokenKey
  · simp [columnsOf, h]
  · simp [columnsOf, h]

/-- Going through the members of a mapping adds the columns that they stand for. -/
theorem collect_columns {columns : List Column} {path : Option String} {fields : Fields}
    {result : List Column × Option String} (h : collect columns path fields = .ok result) :
    result.1 = columns ++ columnsOf fields := by
  induction fields generalizing columns path with
  | nil =>
    cases h
    simp [columnsOf]
  | cons x rest ih =>
    obtain ⟨name, value⟩ := x
    rw [columnsOf_cons]
    unfold collect at h
    split at h
    · rename_i hname
      rw [if_pos hname]
      split at h
      · exact ih h
      · exact ih h
      · cases h
    · rename_i hname
      rw [if_neg hname, ih h, List.append_assoc]
      rfl

/-- The columns of a mapping are those that the members of its object stand for. -/
theorem columns_of_ofJson {category : String} {fields : Fields} {m : Mapping}
    (h : ofJson category (.obj fields) = .ok m) : m.columns = columnsOf fields := by
  simp only [ofJson] at h
  split at h
  · rename_i columns path hcollect
    cases h
    exact collect_columns hcollect
  · cases h

/-- The headings are the keys of the object without the reserved one, in declared order. -/
theorem columnNames_of_ofJson {category : String} {fields : Fields} {m : Mapping}
    (h : ofJson category (.obj fields) = .ok m) : m.columnNames = fields.keys.filter (· != tokenKey) := by
  rw [columnNames, columns_of_ofJson h, columnsOf, Fields.keys, List.map_map, List.filter_map]
  rfl

/-- Where the object has each key once, the mapping has each heading once. -/
theorem nodup_columnNames {category : String} {fields : Fields} (hd : fields.keys.Nodup) {m : Mapping}
    (h : ofJson category (.obj fields) = .ok m) : m.columnNames.Nodup := by
  rw [columnNames_of_ofJson h]
  exact hd.filter _

end Mapping

/-! ## Cells from the record -/

/-- Cells put in under new headings come behind the row in order. -/
theorem Row.foldl_insert_eq_append (cell : Column → Json) {columns : List Column} {row : Row}
    (hd : (columns.map Column.name).Nodup) (hnew : ∀ c ∈ columns, c.name ∉ Fields.keys row) :
    columns.foldl (fun row c => Fields.insert row c.name (cell c)) row = row ++ columns.map fun c => (c.name, cell c) := by
  induction columns generalizing row with
  | nil => simp
  | cons c rest ih =>
    obtain ⟨hc, hrest⟩ := List.nodup_cons.1 hd
    have hnew' : ∀ x ∈ rest, x.name ∉ Fields.keys (row ++ [(c.name, cell c)]) := by
      intro x hx hmem
      simp only [Fields.keys, List.map_append, List.map_cons, List.map_nil, List.mem_append, List.mem_singleton] at hmem
      rcases hmem with hmem | hmem
      · exact hnew x (by simp [hx]) hmem
      · exact hc (hmem ▸ List.mem_map_of_mem hx)
    rw [List.foldl_cons, Fields.insert_of_not_mem (hnew c (by simp)), ih hrest hnew']
    simp

namespace Mapping

/-- The row of a record before localization holds the cells of the columns in declared order. -/
theorem row_eq_map {m : Mapping} (hd : m.columnNames.Nodup) (record : Json) :
    m.row record = m.columns.map fun c => (c.name, c.cell record) := by
  rw [row, Row.foldl_insert_eq_append (fun c => c.cell record) hd (by simp [Fields.keys]), List.nil_append]

theorem keys_row {m : Mapping} (hd : m.columnNames.Nodup) (record : Json) : (m.row record).keys = m.columnNames := by
  rw [row_eq_map hd, Fields.keys, List.map_map]
  rfl

end Mapping

/-! ## The passes of localization -/

/-- Labelling one column keeps the keys. -/
theorem Fields.keys_labelColumn (row : Fields) (column : String) (table : LabelTable) :
    (row.labelColumn column table).keys = row.keys := by
  unfold labelColumn
  split
  · rename_i raw hraw
    split
    · exact keys_insert_of_mem (mem_keys_of_get? hraw) _
    · rfl
  · rfl

/-- Labelling the enumerated columns keeps the keys. -/
theorem Fields.keys_withLabels (row : Fields) : row.withLabels.keys = row.keys := by
  have hfold : ∀ (tables : List (String × LabelTable)) (row : Fields),
      (tables.foldl (fun row x => row.labelColumn x.1 x.2) row).keys = row.keys := by
    intro tables
    induction tables with
    | nil => intro row; rfl
    | cons x rest ih =>
      intro row
      rw [List.foldl_cons, ih, keys_labelColumn]
  exact hfold _ row

namespace Row

theorem keys_withNames (names : Glossary) (opts : Localization) (row : Row) :
    (withNames names opts row).keys = Fields.keys row := by
  unfold withNames
  split
  · rfl
  · exact Fields.keys_mapValues row _

theorem keys_withToken (texts : Glossary) (opts : Localization) (row : Row) (token : String) :
    (withToken texts opts row token).keys = Fields.keys row := by
  unfold withToken
  split
  · exact Fields.keys_mapValues row _
  · rfl

/-- Putting in the texts of tokens keeps the keys. -/
theorem keys_withTexts (texts : Glossary) (opts : Localization) (row : Row) (tokens : List String) :
    (withTexts texts opts row tokens).keys = Fields.keys row := by
  induction tokens generalizing row with
  | nil => rfl
  | cons token rest ih =>
    rw [withTexts, List.foldl_cons, ← withTexts, ih, keys_withToken]

end Row

/-! ## Sheets -/

namespace Mapping

/-- The row of one record, taken through all the passes of localization. -/
def localizedRow (m : Mapping) (presets : Presets) (opts : Localization) (record : Json) : Row :=
  let row := Row.withNames presets.names opts (m.row record).withLabels
  match m.tokenPath with
  | none => row
  | some path => Row.withTexts presets.texts opts row (record.tokensAt path)

/-- The passes over all rows make of each record its own row. -/
theorem sheet_eq_map (m : Mapping) (presets : Presets) (opts : Localization) (records : List Json) :
    m.sheet presets opts records = records.map (m.localizedRow presets opts) := by
  unfold sheet localizedRow
  cases m.tokenPath with
  | none => simp only [List.map_map, Function.comp_def]
  | some path => simp only [List.map_map, Function.comp_def, List.zipWith_map_left, List.zipWith_self]

theorem keys_localizedRow {m : Mapping} (hd : m.columnNames.Nodup) (presets : Presets) (opts : Localization)
    (record : Json) : (m.localizedRow presets opts record).keys = m.columnNames := by
  unfold localizedRow
  cases m.tokenPath with
  | none => rw [Row.keys_withNames, Fields.keys_withLabels, keys_row hd]
  | some path => rw [Row.keys_withTexts, Row.keys_withNames, Fields.keys_withLabels, keys_row hd]

/-- The sheet that the mapping in an object makes of any values has one row for each of them, in order, which comes from that
value alone, and every row has the keys of the object without the reserved one, in declared order and each once. Taking the
cells from a record makes these keys, and each pass of localization keeps the keys of any row as they are. -/
theorem keys_sheet {category : String} {fields : Fields} (hd : fields.keys.Nodup) {m : Mapping}
    (h : ofJson category (.obj fields) = .ok m) (presets : Presets) (opts : Localization) :
    (m.columnNames = fields.keys.filter (· != tokenKey) ∧ m.columnNames.Nodup) ∧
      (∀ records : List Json, m.sheet presets opts records = records.map (m.localizedRow presets opts) ∧
        (m.sheet presets opts records).length = records.length ∧
        ∀ row ∈ m.sheet presets opts records, row.keys = m.columnNames) ∧
      (∀ record : Json, (m.row record).keys = m.columnNames) ∧
      ∀ row : Row, row.withLabels.keys = Fields.keys row ∧
        (Row.withNames presets.names opts row).keys = Fields.keys row ∧
        ∀ tokens : List String, (Row.withTexts presets.texts opts row tokens).keys = Fields.keys row := by
  have hnames := nodup_columnNames hd h
  refine ⟨⟨columnNames_of_ofJson h, hnames⟩, ?_, keys_row hnames, ?_⟩
  · intro records
    refine ⟨sheet_eq_map m presets opts records, ?_, ?_⟩
    · rw [sheet_eq_map, List.length_map]
    · intro row hrow
      rw [sheet_eq_map] at hrow
      obtain ⟨record, _, rfl⟩ := List.mem_map.1 hrow
      exact keys_localizedRow hnames presets opts record
  · intro row
    exact ⟨Fields.keys_withLabels row, Row.keys_withNames _ _ row, Row.keys_withTexts _ _ row⟩

/-- The statement at a mapping with a spoiled column and the reserved key between its columns. -/
theorem keys_sheet_spoiled :
    (Fields.keys [("名称", .str ".name"), ("i18nkey", .str ".ids"), ("坏", .int 7)]).Nodup ∧
      ofJson "火炮" (.obj [("名称", .str ".name"), ("i18nkey", .str ".ids"), ("坏", .int 7)]) =
        .ok ⟨"火炮", [⟨"名称", PathExpr.parse ".name"⟩, ⟨"坏", .error (.notAString (.int 7))⟩], some ".ids"⟩ ∧
      ∀ records : List Json, ∀ row ∈ sheet ⟨"火炮", [⟨"名称", PathExpr.parse ".name"⟩,
        ⟨"坏", .error (.notAString (.int 7))⟩], some ".ids"⟩ .empty {} records, Fields.keys row = ["名称", "坏"] := by
  have hd : (Fields.keys [("名称", .str ".name"), ("i18nkey", .str ".ids"), ("坏", .int 7)]).Nodup := by decide
  have h : ofJson "火炮" (.obj [("名称", .str ".name"), ("i18nkey", .str ".ids"), ("坏", .int 7)]) =
      .ok ⟨"火炮", [⟨"名称", PathExpr.parse ".name"⟩, ⟨"坏", .error (.notAString (.int 7))⟩], some ".ids"⟩ := rfl
  exact ⟨hd, h, fun records => ((keys_sheet hd h .empty {}).2.1 records).2.2⟩

end Mapping

end RecordSheets
