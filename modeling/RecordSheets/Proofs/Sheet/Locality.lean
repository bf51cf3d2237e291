import RecordSheets.Proofs.Sheet.Columns

/-!
# Cells come from their own record and column

The final cell of a column in the row of a record depends on the record, the value that the mapping gives the column, the path
of the i18n tokens, the presets and the choices for localization, and on nothing else.

Every pass is seen through one cell: looking up a column after the pass gives a function of the cell that was there before it
(`get?_withLabels`, `get?_withNames`, `get?_withTexts`), and these functions put together are `Row.localizedCell`.
-/

namespace RecordSheets

/-! ## Enumerated values -/

/-- A cell with its raw value replaced by the label that a table gives it. -/
def Row.labelCell (table : Option LabelTable) (cell : Json) : Json :=
  match table, cell with
  | some table, .str raw => ((table.label? raw).map Json.str).getD cell
  | _, cell => cell

theorem Row.labelCell_none : Row.labelCell none = id := rfl

namespace Fields

theorem get?_labelColumn_self (row : Fields) (column : String) (table : LabelTable) :
    (row.labelColumn column table).get? column = (row.get? column).map (Row.labelCell (some table)) := by
  unfold labelColumn
  split
  · rename_i raw hraw
    rw [hraw]
    split
    · rename_i label hlabel
      simp [get?_insert_self, Row.labelCell, hlabel]
    · rename_i hlabel
      simp [hraw, Row.labelCell, hlabel]
  · rename_i hno
    cases h : row.get? column with
    | none => rfl
    | some cell =>
      cases cell with
      | str raw => exact absurd h (hno raw)
      | _ => rfl

theorem get?_labelColumn_of_ne {other column : String} (hne : other ≠ column) (row : Fields) (table : LabelTable) :
    (row.labelColumn column table).get? other = row.get? other := by
  unfold labelColumn
  split
  · split
    · exact get?_insert_of_ne hne row _
    · rfl
  · rfl

/-- Labelling columns one after the other changes the cell of a column by its own table alone. -/
theorem get?_foldl_labelColumn {tables : List (String × LabelTable)} (hd : (tables.map Prod.fst).Nodup) (row : Fields)
    (column : String) :
    (tables.foldl (fun row x => row.labelColumn x.1 x.2) row).get? column =
      (row.get? column).map (Row.labelCell (tables.lookup column)) := by
  induction tables generalizing row with
  | nil => simp [Row.labelCell_none]
  | cons x rest ih =>
    obtain ⟨name, table⟩ := x
    obtain ⟨hname, hrest⟩ := List.nodup_cons.1 hd
    rw [List.foldl_cons, ih hrest]
    by_cases h : column = name
    · subst h
      have hlookup : rest.lookup column = none := lookup_of_not_mem hname
      simp [get?_labelColumn_self, hlookup, Row.labelCell_none]
    · rw [get?_labelColumn_of_ne h, List.lookup_cons, beq_false_of_ne h]

/-- Labelling the enumerated columns changes a cell by the table of its column. -/
theorem get?_withLabels (row : Fields) (column : String) :
    row.withLabels.get? column = (row.get? column).map (Row.labelCell (LabelTable.ofColumn? column)) :=
  get?_foldl_labelColumn (by decide) row column

end Fields

namespace Row

/-! ## Names and texts -/

/-- A cell of a column with its name replaced, if names are replaced in that column. -/
def namedCell (names : Glossary) (opts : Localization) (column : String) (cell : Json) : Json :=
  if !names.isEmpty && opts.coversNames column then nameCell names cell else cell

/-- Replacing names changes every cell by itself. -/
theorem withNames_eq_mapValues (names : Glossary) (opts : Localization) (row : Row) :
    withNames names opts row = Fields.mapValues row (namedCell names opts) := by
  unfold withNames namedCell
  cases names.isEmpty with
  | true => exact (Fields.mapValues_self row).symm
  | false => rfl

/-- A cell after names were replaced comes from the cell that was there. -/
theorem get?_withNames (names : Glossary) (opts : Localization) (row : Row) (column : String) :
    (withNames names opts row).get? column = (Fields.get? row column).map (namedCell names opts column) := by
  rw [withNames_eq_mapValues, Fields.get?_mapValues]

/-- A cell with the text of a token put in. -/
def tokenCell (texts : Glossary) (opts : Localization) (cell : Json) (token : String) : Json :=
  match texts.lookup? token with
  | some text => textCell opts token text cell
  | none => cell

/-- Putting in the text of a token changes every cell by itself. -/
theorem withToken_eq_mapValues (texts : Glossary) (opts : Localization) (row : Row) (token : String) :
    withToken texts opts row token = Fields.mapValues row fun _ cell => tokenCell texts opts cell token := by
  unfold withToken tokenCell
  cases texts.lookup? token with
  | none => exact (Fields.mapValues_self row).symm
  | some text => rfl

/-- Putting in the texts of tokens changes every cell by itself. -/
theorem withTexts_eq_mapValues (texts : Glossary) (opts : Localization) (row : Row) (tokens : List String) :
    withTexts texts opts row tokens = Fields.mapValues row fun _ cell => tokens.foldl (tokenCell texts opts) cell := by
  induction tokens generalizing row with
  | nil => exact (Fields.mapValues_self row).symm
  | cons token rest ih =>
    rw [withTexts, List.foldl_cons, ← withTexts, ih, withToken_eq_mapValues, Fields.mapValues_mapValues]
    rfl

/-- A cell after the texts of tokens were put in comes from the cell that was there. -/
theorem get?_withTexts (texts : Glossary) (opts : Localization) (row : Row) (tokens : List String) (column : String) :
    (withTexts texts opts row tokens).get? column =
      (Fields.get? row column).map fun cell => tokens.foldl (tokenCell texts opts) cell := by
  rw [withTexts_eq_mapValues, Fields.get?_mapValues]

/-- What localization makes of a cell, given its column, the record of its row and the path of the record's tokens. -/
def localizedCell (presets : Presets) (opts : Localization) (tokenPath : Option String) (record : Json) (column : String)
    (cell : Json) : Json :=
  let cell := namedCell presets.names opts column (labelCell (LabelTable.ofColumn? column) cell)
  match tokenPath with
  | none => cell
  | some path => (record.tokensAt path).foldl (tokenCell presets.texts opts) cell

end Row

namespace Mapping

/-- A cell of a localized row comes from the cell of the same column before localization. -/
theorem get?_localizedRow (m : Mapping) (presets : Presets) (opts : Localization) (record : Json) (column : String) :
    (m.localizedRow presets opts record).get? column =
      ((m.row record).get? column).map (Row.localizedCell presets opts m.tokenPath record column) := by
  unfold localizedRow Row.localizedCell
  cases m.tokenPath with
  | none =>
    rw [Row.get?_withNames, Fields.get?_withLabels, Option.map_map]
    rfl
  | some path =>
    rw [Row.get?_withTexts, Row.get?_withNames, Fields.get?_withLabels, Option.map_map, Option.map_map]
    simp only [Function.comp_def]

/-! ## Cells from the record -/

/-- The columns that members stand for can be looked up by the keys, the reserved one apart. -/
theorem lookup_columnsOf {column : String} (hc : column ≠ tokenKey) (fields : Fields) (record : Json) :
    ((columnsOf fields).map fun c => (c.name, c.cell record)).lookup column =
      (fields.get? column).map fun value => Column.cell ⟨column, PathExpr.ofJson value⟩ record := by
  induction fields with
  | nil => rfl
  | cons x rest ih =>
    obtain ⟨name, value⟩ := x
    rw [columnsOf_cons, Fields.get?, List.lookup_cons]
    by_cases h : column = name
    · subst h
      simp [hc]
    · rw [beq_false_of_ne h]
      split
      · exact ih
      · rw [List.map_cons, List.lookup_cons, beq_false_of_ne h]
        exact ih

/-- The cell of a column before localization is the value of the expression that the mapping gives it. -/
theorem get?_row {category : String} {fields : Fields} (hd : fields.keys.Nodup) {m : Mapping}
    (h : ofJson category (.obj fields) = .ok m) {column : String} (hc : column ≠ tokenKey) (record : Json) :
    (m.row record).get? column =
      (fields.get? column).map fun value => Column.cell ⟨column, PathExpr.ofJson value⟩ record := by
  rw [row_eq_map (nodup_columnNames hd h), columns_of_ofJson h]
  exact lookup_columnsOf hc fields record

/-- The final cell of a column in the row of a record. -/
theorem get?_localizedRow_of_ofJson {category : String} {fields : Fields} (hd : fields.keys.Nodup) {m : Mapping}
    (h : ofJson category (.obj fields) = .ok m) {column : String} (hc : column ≠ tokenKey) {value : Json}
    (hv : fields.get? column = some value) (presets : Presets) (opts : Localization) (record : Json) :
    (m.localizedRow presets opts record).get? column =
      some (Row.localizedCell presets opts m.tokenPath record column
        (Column.cell ⟨column, PathExpr.ofJson value⟩ record)) := by
  rw [get?_localizedRow, get?_row hd h hc, hv]
  rfl

/-! ## Two sheets -/

/-- Where two sheets, made with the same presets and choices by mappings with the same token path, share a record and a column
with the same value in both mappings, they share the final cell, whatever else they hold. So a sheet of two runs of records is
the two sheets one after the other, and a sheet is put together from the sheets of its single records. -/
theorem sheet_cell_local {category category' : String} {fields fields' : Fields} (hd : fields.keys.Nodup)
    (hd' : fields'.keys.Nodup) {m m' : Mapping} (h : ofJson category (.obj fields) = .ok m)
    (h' : ofJson category' (.obj fields') = .ok m') (htokens : m.tokenPath = m'.tokenPath) (presets : Presets)
    (opts : Localization) :
    (∀ (records records' : List Json) (i j : Nat) (record value : Json) (column : String),
      records[i]? = some record → records'[j]? = some record → column ≠ tokenKey →
      fields.get? column = some value → fields'.get? column = some value →
      ∃ row row' cell, (m.sheet presets opts records)[i]? = some row ∧ (m'.sheet presets opts records')[j]? = some row' ∧
        row.get? column = some cell ∧ row'.get? column = some cell) ∧
      (∀ xs ys : List Json,
        m.sheet presets opts (xs ++ ys) = m.sheet presets opts xs ++ m.sheet presets opts ys) ∧
      ∀ records : List Json, m.sheet presets opts records = records.flatMap fun record => m.sheet presets opts [record] := by
  refine ⟨?_, ?_, ?_⟩
  · intro records records' i j record value column hi hj hc hv hv'
    have hcell := get?_localizedRow_of_ofJson hd h hc hv presets opts record
    have hcell' := get?_localizedRow_of_ofJson hd' h' hc hv' presets opts record
    rw [← htokens] at hcell'
    refine ⟨m.localizedRow presets opts record, m'.localizedRow presets opts record, _, ?_, ?_, hcell, hcell'⟩
    · rw [sheet_eq_map, List.getElem?_map, hi, Option.map_some]
    · rw [sheet_eq_map, List.getElem?_map, hj, Option.map_some]
  · intro xs ys
    simp only [sheet_eq_map, List.map_append]
  · intro records
    simp only [sheet_eq_map, List.map_cons, List.map_nil]
    exact List.map_eq_flatMap

namespace LocalityWitness

/-- A mapping with a spoiled column before the reserved key. -/
def spoiled : Fields := [("坏", .int 7), ("i18nkey", .str ".ids"), ("名称", .str ".name")]

/-- A mapping with the last of these columns only. -/
def plain : Fields := [("名称", .str ".name"), ("i18nkey", .str ".ids")]

/-- The mapping in the first object. -/
def spoiledMapping : Mapping :=
  ⟨"火炮", [⟨"坏", .error (.notAString (.int 7))⟩, ⟨"名称", PathExpr.parse ".name"⟩], some ".ids"⟩

/-- The mapping in the second object. -/
def plainMapping : Mapping := ⟨"船体", [⟨"名称", PathExpr.parse ".name"⟩], some ".ids"⟩

def ship : Json := .obj [("name", .str "Yamato")]

def presets : Presets := ⟨⟨[("yamato", "大和")]⟩, .empty⟩

end LocalityWitness

open LocalityWitness in
/-- The statement at a record that is the second one of one sheet and the only one of another, where the first sheet has a
spoiled column besides. -/
theorem sheet_cell_local_spoiled :
    spoiled.keys.Nodup ∧ plain.keys.Nodup ∧ ofJson "火炮" (.obj spoiled) = .ok spoiledMapping ∧
      ofJson "船体" (.obj plain) = .ok plainMapping ∧ spoiledMapping.tokenPath = plainMapping.tokenPath ∧
      spoiled.get? "名称" = some (.str ".name") ∧ plain.get? "名称" = some (.str ".name") ∧ "名称" ≠ tokenKey ∧
      ∃ row row' cell, (spoiledMapping.sheet presets {} [.null, ship])[1]? = some row ∧
        (plainMapping.sheet presets {} [ship])[0]? = some row' ∧ row.get? "名称" = some cell ∧ row'.get? "名称" = some cell := by
  have hd : spoiled.keys.Nodup := by decide
  have hd' : plain.keys.Nodup := by decide
  have h : ofJson "火炮" (.obj spoiled) = .ok spoiledMapping := rfl
  have h' : ofJson "船体" (.obj plain) = .ok plainMapping := rfl
  have hc : "名称" ≠ tokenKey := by decide
  have hv : spoiled.get? "名称" = some (.str ".name") := rfl
  have hv' : plain.get? "名称" = some (.str ".name") := rfl
  exact ⟨hd, hd', h, h', rfl, hv, hv', hc, (sheet_cell_local hd hd' h h' rfl presets {}).1 [.null, ship] [ship] 1 0 ship
    (.str ".name") "名称" rfl rfl hc hv hv'⟩

end Mapping

end RecordSheets
