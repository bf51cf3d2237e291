import RecordSheets.Proofs.Sheet.Provenance

/-!
# Labelled rows

Labelling the enumerated columns changes a row in raw values alone: a string that the table of its own column has as a raw value becomes
the label beside it, and every other cell stays, as do the keys and their order (`Fields.Labelled`). An object has no other labelled form
than this one (`Fields.Labelled.unique`).

Labelling again changes nothing (`Fields.labels_once`). This rests on the tables: no label of a column is a raw value of the same column
(`LabelTable.label?_of_label`), so what was labelled is not found again.
-/

namespace RecordSheets

namespace LabelTable

theorem ofColumn?_of_mem {column : String} {table : LabelTable} (h : (column, table) ∈ byColumn) :
    ofColumn? column = some table := by
  have hd : (byColumn.map Prod.fst).Nodup := by decide
  exact lookup_of_nodup hd h

/-- A raw value has the label that stands beside it, since it stands in the table of a column once. -/
theorem label?_of_mem {column raw label : String} {table : LabelTable} (htable : (column, table) ∈ byColumn)
    (h : (raw, label) ∈ table) : table.label? raw = some label := by
  have hd : ∀ x ∈ byColumn, (x.2.map Prod.fst).Nodup := by decide
  exact lookup_of_nodup (hd _ htable) h

/-- A label of a column is no raw value of this column. -/
theorem label?_of_label {column raw label : String} {table : LabelTable} (htable : (column, table) ∈ byColumn)
    (h : table.label? raw = some label) : table.label? label = none := by
  have hno : ∀ x ∈ byColumn, ∀ y ∈ x.2, y.2 ∉ x.2.map Prod.fst := by decide
  exact lookup_of_not_mem (hno _ htable _ (mem_of_lookup h))

end LabelTable

namespace Fields

/-! ## Labelling again -/

/-- A column whose value is no raw value of a table is not changed by the table. -/
theorem labelColumn_eq_self {row : Fields} {column : String} {table : LabelTable}
    (h : ∀ raw, row.get? column = some (.str raw) → table.label? raw = none) : row.labelColumn column table = row := by
  unfold labelColumn
  split
  · rename_i raw hraw
    rw [h raw hraw]
  · rfl

/-- A row without raw values in its enumerated columns stays as it is. -/
theorem withLabels_eq_self {row : Fields}
    (h : ∀ x ∈ LabelTable.byColumn, ∀ raw, row.get? x.1 = some (.str raw) → x.2.label? raw = none) :
    row.withLabels = row := by
  -- The row is the same before each of the columns that are left, so what is known of it serves for all of them.
  have hfold : ∀ tables : List (String × LabelTable), tables ⊆ LabelTable.byColumn →
      tables.foldl (fun row x => row.labelColumn x.1 x.2) row = row := by
    intro tables
    induction tables with
    | nil => exact fun _ => rfl
    | cons x rest ih =>
      intro hsubset
      obtain ⟨hx, hrest⟩ := List.cons_subset.1 hsubset
      rw [List.foldl_cons, labelColumn_eq_self (h x hx), ih hrest]
  exact hfold _ (List.Subset.refl _)

/-- A string in an enumerated column is labelled by the column's own table. -/
theorem labelText_of_mem {column : String} {table : LabelTable} (h : (column, table) ∈ LabelTable.byColumn) (s : String) :
    Row.labelText column s = (table.label? s).getD s := by
  rw [Row.labelText, LabelTable.ofColumn?_of_mem h, Option.bind_some]

/-- Of a string in an enumerated column, labelling leaves a text that is no raw value of the column. -/
theorem label?_labelText {column : String} {table : LabelTable} (h : (column, table) ∈ LabelTable.byColumn) (s : String) :
    table.label? (Row.labelText column s) = none := by
  rw [labelText_of_mem h]
  cases hlabel : table.label? s with
  | none => exact hlabel
  | some label => exact LabelTable.label?_of_label h hlabel

/-- A labelled row has no raw values in its enumerated columns. -/
theorem label?_withLabels {row : Fields} {column : String} {table : LabelTable}
    (h : (column, table) ∈ LabelTable.byColumn) {text : String} (htext : row.withLabels.get? column = some (.str text)) :
    table.label? text = none := by
  rw [get?_withLabels, Option.map_eq_some_iff] at htext
  obtain ⟨cell, -, hcell⟩ := htext
  cases cell with
  | str s =>
    rw [Row.labelCell_str] at hcell
    rw [← Json.str.inj hcell]
    exact label?_labelText h s
  | _ =>
    rw [Row.labelCell_of_not_str (by simp)] at hcell
    cases hcell

/-! ## What labelling changes -/

/-- What labelling promises of a row. -/
structure Labelled (row labelled : Fields) : Prop where
  /-- The keys stay, in their order. -/
  keys : labelled.keys = row.keys
  /-- A column that is not enumerated keeps its cell. -/
  other : ∀ column ∉ LabelTable.byColumn.map Prod.fst, labelled.get? column = row.get? column
  /-- An enumerated column keeps a cell that is no raw value of the column's own table. -/
  kept : ∀ column table, (column, table) ∈ LabelTable.byColumn → (∀ x ∈ table, row.get? column ≠ some (.str x.1)) →
    labelled.get? column = row.get? column
  /-- A raw value of the column's own table becomes the label beside it. -/
  raw : ∀ column table raw label, (column, table) ∈ LabelTable.byColumn → (raw, label) ∈ table →
    row.get? column = some (.str raw) → labelled.get? column = some (.str label)

/-- Labelling keeps its promises. -/
theorem labelled_withLabels (row : Fields) : row.Labelled row.withLabels := by
  constructor
  case keys => exact keys_withLabels row
  case other =>
    intro column hcolumn
    have hno : LabelTable.ofColumn? column = none := lookup_of_not_mem hcolumn
    rw [get?_withLabels, hno, Row.labelCell_none, Option.map_id_fun, id_eq]
  case kept =>
    intro column table htable hno
    rw [get?_withLabels]
    cases hcell : row.get? column with
    | none => rfl
    | some cell =>
      cases cell with
      | str s =>
        have hnot : s ∉ table.map Prod.fst := by
          intro hmem
          obtain ⟨x, hx, rfl⟩ := List.mem_map.1 hmem
          exact hno x hx hcell
        have hlabel : table.label? s = none := lookup_of_not_mem hnot
        rw [Option.map_some, Row.labelCell_str, labelText_of_mem htable, hlabel, Option.getD_none]
      | _ => rw [Option.map_some, Row.labelCell_of_not_str (by simp)]
  case raw =>
    intro column table raw label htable hraw hcell
    rw [get?_withLabels, hcell, Option.map_some, Row.labelCell_str, labelText_of_mem htable,
      LabelTable.label?_of_mem htable hraw, Option.getD_some]

/-- The promises leave one labelled form of an object. -/
theorem Labelled.unique {row labelled other : Fields} (hd : row.keys.Nodup) (h : row.Labelled labelled)
    (h' : row.Labelled other) : other = labelled := by
  refine eq_of_get? (h.keys ▸ hd) (h'.keys.trans h.keys.symm) fun column _ => ?_
  by_cases hcolumn : column ∈ LabelTable.byColumn.map Prod.fst
  · obtain ⟨⟨name, table⟩, htable, rfl⟩ := List.mem_map.1 hcolumn
    by_cases hraw : ∃ x ∈ table, row.get? name = some (.str x.1)
    · obtain ⟨x, hx, hcell⟩ := hraw
      rw [h.raw _ _ _ _ htable hx hcell, h'.raw _ _ _ _ htable hx hcell]
    · have hno : ∀ x ∈ table, row.get? name ≠ some (.str x.1) := fun x hx hcell => hraw ⟨x, hx, hcell⟩
      rw [h.kept _ _ htable hno, h'.kept _ _ htable hno]
  · rw [h.other _ hcolumn, h'.other _ hcolumn]

/-- Labelling a row twice gives the row labelled once. Labelling keeps the keys in their order and every cell but a raw value of the
column's own table, which becomes the label beside it; on an object nothing else keeps these promises. The columns do not see each other:
rows that agree in a column agree in it after labelling, whatever else they hold. -/
theorem labels_once (row : Fields) :
    row.withLabels.withLabels = row.withLabels ∧ row.Labelled row.withLabels ∧
      (row.keys.Nodup → ∀ labelled, row.Labelled labelled → labelled = row.withLabels) ∧
      ∀ (other : Fields) (column : String), row.get? column = other.get? column →
        row.withLabels.get? column = other.withLabels.get? column := by
  refine ⟨?_, labelled_withLabels row, ?_, ?_⟩
  · exact withLabels_eq_self fun x hx raw hraw => label?_withLabels hx hraw
  · exact fun hd labelled h => (labelled_withLabels row).unique hd h
  · intro other column hsame
    rw [get?_withLabels, get?_withLabels, hsame]

namespace LabelsWitness

/-- A row with one raw value in a column that is not enumerated, in the column of its table and in another enumerated column, and with a
raw value in other letter case. -/
def mixed : Fields :=
  [("名称", .str "Japan"), ("国家", .str "Japan"), ("舰种", .str "Japan"), ("类型", .str "Special"), ("级", .int 7)]

/-- The row with its only raw value labelled. -/
def mixedLabelled : Fields :=
  [("名称", .str "Japan"), ("国家", .str "日本"), ("舰种", .str "Japan"), ("类型", .str "Special"), ("级", .int 7)]

end LabelsWitness

open LabelsWitness in
/-- The theorem at a row where one nation stands in three columns. -/
theorem labels_once_mixed :
    mixed.keys.Nodup ∧ mixed.Labelled mixedLabelled ∧ mixedLabelled = mixed.withLabels ∧
      mixed.withLabels.withLabels = mixedLabelled ∧
      mixed.get? "类型" = Fields.get? [("类型", .str "Special"), ("国家", .str "USA")] "类型" ∧
      mixed.withLabels.get? "类型" = (withLabels [("类型", .str "Special"), ("国家", .str "USA")]).get? "类型" := by
  have hd : mixed.keys.Nodup := by decide
  have hlabelled : mixed.withLabels = mixedLabelled := rfl
  have h : mixed.Labelled mixedLabelled := hlabelled ▸ labelled_withLabels mixed
  have hsame : mixed.get? "类型" = Fields.get? [("类型", .str "Special"), ("国家", .str "USA")] "类型" := rfl
  obtain ⟨htwice, -, hunique, hapart⟩ := labels_once mixed
  exact ⟨hd, h, hunique hd _ h, htwice.trans hlabelled, hsame, hapart _ _ hsame⟩

end Fields

end RecordSheets
