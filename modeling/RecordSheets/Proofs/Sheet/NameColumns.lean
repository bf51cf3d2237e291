import RecordSheets.Proofs.Sheet.Locality

/-!
# Names in chosen columns

Where names are replaced in some columns only, a sheet is put together column by column from two others: the chosen columns come from the
sheet with the names replaced in all columns, and the others from the sheet without any names (`Mapping.sheet_nameColumns`).

All three sheets start from the same labelled rows, and every later pass changes a cell by itself. So each row is one change of every cell
of the same row (`Mapping.localizedRow_eq_mapValues`), and a choice of columns is a choice between two such changes
(`Row.merge_mapValues`).
-/

namespace RecordSheets

namespace Row

/-! ## Cells of two rows -/

/-- The cells of some columns of a row, and the cells of the other columns of another row with the same headings. -/
def merge (columns : List String) (row other : Row) : Row :=
  List.zipWith (fun x y => if x.1 ∈ columns then x else y) row other

/-- Two changes of the cells of a row merge into the change that takes the first one in the chosen columns. -/
theorem merge_mapValues (columns : List String) (row : Row) (f g : String → Json → Json) :
    merge columns (Fields.mapValues row f) (Fields.mapValues row g) =
      Fields.mapValues row fun column cell => if column ∈ columns then f column cell else g column cell := by
  unfold merge
  induction row with
  | nil => rfl
  | cons x rest ih =>
    obtain ⟨column, cell⟩ := x
    simp only [Fields.mapValues, List.map_cons, List.zipWith_cons_cons, List.cons.injEq] at ih ⊢
    refine ⟨?_, ih⟩
    split <;> rfl

/-! ## Names in a cell -/

theorem namedCell_empty (opts : Localization) (column : String) (cell : Json) :
    namedCell .empty opts column cell = cell := rfl

/-- A name is replaced in a chosen column as if all were chosen, and in no other one. -/
theorem namedCell_some (names : Glossary) (strict : Bool) (columns : List String) (column : String) (cell : Json) :
    namedCell names ⟨strict, some columns⟩ column cell =
      if column ∈ columns then namedCell names ⟨strict, none⟩ column cell else cell := by
  by_cases h : column ∈ columns
  · simp [namedCell, Localization.coversNames, h]
  · simp [namedCell, Localization.coversNames, h]

end Row

namespace Mapping

/-! ## Rows -/

/-- What the tokens of a record make of a cell. -/
def textedCell (m : Mapping) (texts : Glossary) (strict : Bool) (record cell : Json) : Json :=
  match m.tokenPath with
  | none => cell
  | some path => (record.tokensAt path).foldl (Row.tokenCell texts ⟨strict, none⟩) cell

/-- A localized row is the labelled row with every cell changed by itself: its name is replaced, and then its tokens are. The choice of
columns plays a part in the names alone. -/
theorem localizedRow_eq_mapValues (m : Mapping) (presets : Presets) (opts : Localization) (record : Json) :
    m.localizedRow presets opts record = (m.row record).withLabels.mapValues fun column cell =>
      m.textedCell presets.texts opts.strict record (Row.namedCell presets.names opts column cell) := by
  unfold localizedRow textedCell
  dsimp only
  rw [Row.withNames_eq_mapValues]
  cases m.tokenPath with
  | none => rfl
  | some path =>
    dsimp only
    rw [Row.withTexts_eq_mapValues, Fields.mapValues_mapValues]
    rfl

/-- The row of a record before localization has no other headings than the mapping. -/
theorem name_mem_of_mem_row {m : Mapping} {record : Json} {x : String × Json} (h : x ∈ m.row record) :
    x.1 ∈ m.columnNames := by
  have hfold : ∀ (columns : List Column) (row : Row),
      x ∈ columns.foldl (fun row column => Fields.insert row column.name (column.cell record)) row →
        x ∈ row ∨ x.1 ∈ columns.map Column.name := by
    intro columns
    induction columns with
    | nil => exact fun row hx => .inl hx
    | cons column rest ih =>
      intro row hx
      rcases ih _ hx with hx | hx
      · rcases Fields.mem_insert hx with rfl | hx
        · exact .inr List.mem_cons_self
        · exact .inl hx
      · exact .inr (List.mem_cons_of_mem _ hx)
  rcases hfold m.columns [] h with hx | hx
  · cases hx
  · exact hx

/-! ## Sheets -/

/-- With names replaced in chosen columns, a row is merged from the row with all names replaced and the row without names. -/
theorem localizedRow_some (m : Mapping) (presets : Presets) (strict : Bool) (columns : List String)
    (chosen : Option (List String)) (record : Json) :
    m.localizedRow presets ⟨strict, some columns⟩ record =
      Row.merge columns (m.localizedRow presets ⟨strict, none⟩ record)
        (m.localizedRow ⟨.empty, presets.texts⟩ ⟨strict, chosen⟩ record) := by
  simp only [localizedRow_eq_mapValues, Row.merge_mapValues, Row.namedCell_empty]
  refine congrArg (Fields.mapValues _) (funext fun column => funext fun cell => ?_)
  rw [Row.namedCell_some]
  split <;> rfl

/-- Where every heading is a chosen column, names are replaced as if all columns were chosen. -/
theorem localizedRow_of_subset {m : Mapping} {columns : List String} (h : m.columnNames ⊆ columns) (presets : Presets)
    (strict : Bool) (record : Json) :
    m.localizedRow presets ⟨strict, some columns⟩ record = m.localizedRow presets ⟨strict, none⟩ record := by
  rw [localizedRow_eq_mapValues, localizedRow_eq_mapValues]
  refine Fields.mapValues_congr fun x hx => ?_
  have hkey : x.1 ∈ (m.row record).withLabels.keys := List.mem_map_of_mem hx
  rw [Fields.keys_withLabels] at hkey
  obtain ⟨y, hy, hname⟩ := List.mem_map.1 hkey
  have hchosen : x.1 ∈ columns := h (hname ▸ name_mem_of_mem_row hy)
  rw [Row.namedCell_some, if_pos hchosen]

/-- The final cell of a column in a row of a sheet. -/
def cellAt? (rows : List Row) (i : Nat) (column : String) : Option Json := rows[i]?.bind fun row => Fields.get? row column

/-- A sheet with names replaced in chosen columns is the merge of two sheets made of the same records with the same i18n texts: a chosen
column has in every row the cell that it has where names are replaced in all columns, and every other column has the cell that it has where
there are no names at all. So if all headings are chosen, the sheet is that with the names replaced in all columns, and if none is, that
without names. -/
theorem sheet_nameColumns (m : Mapping) (presets : Presets) (strict : Bool) (columns : List String)
    (chosen : Option (List String)) (records : List Json) :
    m.sheet presets ⟨strict, some columns⟩ records =
        List.zipWith (Row.merge columns) (m.sheet presets ⟨strict, none⟩ records)
          (m.sheet ⟨.empty, presets.texts⟩ ⟨strict, chosen⟩ records) ∧
      (∀ (i : Nat) (column : String), cellAt? (m.sheet presets ⟨strict, some columns⟩ records) i column =
        if column ∈ columns then cellAt? (m.sheet presets ⟨strict, none⟩ records) i column
        else cellAt? (m.sheet ⟨.empty, presets.texts⟩ ⟨strict, chosen⟩ records) i column) ∧
      (m.columnNames ⊆ columns →
        m.sheet presets ⟨strict, some columns⟩ records = m.sheet presets ⟨strict, none⟩ records) ∧
      m.sheet presets ⟨strict, some []⟩ records = m.sheet ⟨.empty, presets.texts⟩ ⟨strict, chosen⟩ records := by
  simp only [sheet_eq_map]
  refine ⟨?_, ?_, ?_, ?_⟩
  · rw [List.zipWith_map, List.zipWith_self]
    exact List.map_congr_left fun record _ => localizedRow_some m presets strict columns chosen record
  · intro i column
    simp only [cellAt?, List.getElem?_map]
    cases records[i]? with
    | none => simp
    | some record =>
      simp only [Option.map_some, Option.bind_some, localizedRow_eq_mapValues, Fields.get?_mapValues,
        Row.namedCell_some, Row.namedCell_empty]
      split <;> rfl
  · intro h
    exact List.map_congr_left fun record _ => localizedRow_of_subset h presets strict record
  · refine List.map_congr_left fun record _ => ?_
    simp only [localizedRow_eq_mapValues, Row.namedCell_some, Row.namedCell_empty, List.not_mem_nil, if_false]

namespace NameColumnsWitness

/-- A mapping with two columns that may hold names, and a path of tokens. -/
def ships : Mapping := ⟨"船体", [⟨"名称", PathExpr.parse ".name"⟩, ⟨"备注", PathExpr.parse ".note"⟩], some ".ids"⟩

/-- Presets with a name that holds a token, and with the text of this token. -/
def presets : Presets := ⟨⟨[("yamato", "大和 IDS_BB")]⟩, ⟨[("ids_bb", "战列舰")]⟩⟩

/-- A ship that is named in both columns. -/
def yamato : Json := .obj [("name", .str "Yamato"), ("note", .str "YAMATO"), ("ids", .arr [.str "IDS_BB"])]

end NameColumnsWitness

open NameColumnsWitness in
/-- The theorem at a ship whose names hold a token, with one column chosen that is there and one that is not, and with more columns chosen
than there are. -/
theorem sheet_nameColumns_yamato :
    (∀ i, cellAt? (ships.sheet presets ⟨false, some ["名称", "国家"]⟩ [yamato]) i "名称" =
        cellAt? (ships.sheet presets ⟨false, none⟩ [yamato]) i "名称") ∧
      (∀ i, cellAt? (ships.sheet presets ⟨false, some ["名称", "国家"]⟩ [yamato]) i "备注" =
        cellAt? (ships.sheet ⟨.empty, presets.texts⟩ ⟨false, none⟩ [yamato]) i "备注") ∧
      ships.columnNames ⊆ ["备注", "国家", "名称"] ∧
      ships.sheet presets ⟨false, some ["备注", "国家", "名称"]⟩ [yamato] = ships.sheet presets ⟨false, none⟩ [yamato] ∧
      (cellAt? (ships.sheet presets ⟨false, some ["名称", "国家"]⟩ [yamato]) 0 "名称").bind Json.string? = some "战列舰" ∧
      (cellAt? (ships.sheet presets ⟨false, some ["名称", "国家"]⟩ [yamato]) 0 "备注").bind Json.string? = some "YAMATO" := by
  have hsome := sheet_nameColumns ships presets false ["名称", "国家"] none [yamato]
  have hall := sheet_nameColumns ships presets false ["备注", "国家", "名称"] none [yamato]
  have hsubset : ships.columnNames ⊆ ["备注", "国家", "名称"] := by decide
  refine ⟨fun i => hsome.2.1 i "名称", fun i => hsome.2.1 i "备注", hsubset, hall.2.2.1 hsubset, ?_, ?_⟩
  · decide +kernel
  · decide +kernel

end Mapping

end RecordSheets
