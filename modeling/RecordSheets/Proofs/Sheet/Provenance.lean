import RecordSheets.Proofs.Sheet.Texts

/-!
# Where the text of a cell comes from

A cell that is no string stays what the record gives. A string goes through three passes, and each one leaves it as it is or puts a text of
its own in its place: a label (`Row.labelText`), a name (`Row.nameText`), the text of a token that the record lists. There is no other way
for a text to come into a sheet (`Row.Traced`, `Mapping.sheet_cell_traced`).

No pass blanks a string, since none has an empty text to put in. The labels are not empty, and the tables of names and of i18n texts
lose their empty entries when the glossaries are made of them, so that a look-up in a glossary is one in the table that passes over empty
texts (`Glossary.lookup?_ofFields`, `Glossary.text?_ne_empty`).
-/

namespace RecordSheets

/-! ## Tables -/

namespace Fields

/-- The Chinese name that a table has for a string in lower case. -/
def nameFor? (table : Fields) (s : String) : Option String := (table.get? (Text.lower s)).bind Glossary.name?

/-- The i18n text that a table has for a token in lower case. -/
def textFor? (table : Fields) (token : String) : Option String := (table.get? (Text.lower token)).bind Glossary.text?

end Fields

/-- The presets of a table of names and a table of i18n texts. -/
def Presets.ofTables (names texts : Fields) : Presets := ⟨.names names, .texts texts⟩

namespace Glossary

/-- A glossary has for a token what its table has for the token in lower case, if that is a text. -/
theorem lookup?_ofFields {table : Fields} (hd : table.keys.Nodup) (find? : Json → Option String) (token : String) :
    (ofFields find? table).lookup? token = (table.get? (Text.lower token)).bind find? := by
  unfold lookup? ofFields
  dsimp only
  induction table with
  | nil => rfl
  | cons x rest ih =>
    obtain ⟨key, entry⟩ := x
    obtain ⟨hkey, hrest⟩ := List.nodup_cons.1 hd
    have hlater := ih hrest
    rw [Fields.get?] at hlater
    rw [List.filterMap_cons, Fields.get?, List.lookup_cons]
    by_cases h : Text.lower token = key
    · subst h
      have hnone : rest.lookup (Text.lower token) = none := lookup_of_not_mem hkey
      rw [hnone] at hlater
      cases hentry : find? entry with
      | none => simpa [hentry] using hlater
      | some text => simp [hentry]
    · rw [beq_false_of_ne h]
      cases hentry : find? entry with
      | none => simpa [hentry] using hlater
      | some text => simpa [hentry, List.lookup_cons, beq_false_of_ne h] using hlater

/-- The glossary of a table of names has the names of the table. -/
theorem lookup?_names {table : Fields} (hd : table.keys.Nodup) (s : String) :
    (names table).lookup? s = table.nameFor? s :=
  lookup?_ofFields hd name? s

/-- The glossary of a table of i18n texts has the texts of the table. -/
theorem lookup?_texts {table : Fields} (hd : table.keys.Nodup) (token : String) :
    (texts table).lookup? token = table.textFor? token :=
  lookup?_ofFields hd text? token

theorem text?_ne_empty {entry : Json} {text : String} (h : text? entry = some text) : text ≠ "" := by
  cases entry with
  | str s =>
    simp only [text?] at h
    split at h
    · cases h
    · rename_i hs
      cases h
      simpa using hs
  | _ => cases h

end Glossary

namespace Fields

theorem nameFor?_ne_empty {table : Fields} {s name : String} (h : table.nameFor? s = some name) : name ≠ "" := by
  obtain ⟨entry, -, hname⟩ := Option.bind_eq_some_iff.1 h
  obtain ⟨fields, -, hzh⟩ := Option.bind_eq_some_iff.1 hname
  obtain ⟨value, -, htext⟩ := Option.bind_eq_some_iff.1 hzh
  exact Glossary.text?_ne_empty htext

theorem textFor?_ne_empty {table : Fields} {token text : String} (h : table.textFor? token = some text) : text ≠ "" := by
  obtain ⟨entry, -, htext⟩ := Option.bind_eq_some_iff.1 h
  exact Glossary.text?_ne_empty htext

end Fields

/-- The labels of the enumerated columns are not empty. -/
theorem LabelTable.label?_ne_empty {column raw label : String} {table : LabelTable} (htable : ofColumn? column = some table)
    (h : table.label? raw = some label) : label ≠ "" := by
  have hall : ∀ x ∈ byColumn, ∀ y ∈ x.2, y.2 ≠ "" := by decide
  exact hall _ (mem_of_lookup htable) _ (mem_of_lookup h)

namespace Row

/-! ## The passes on a string -/

/-- What labelling makes of a string in a column. -/
def labelText (column s : String) : String := ((LabelTable.ofColumn? column).bind fun table => table.label? s).getD s

/-- What the replacement of names makes of a string in a column. An empty string is no name. -/
def nameText (names : Fields) (opts : Localization) (column s : String) : String :=
  if s ≠ "" ∧ opts.coversNames column = true then (names.nameFor? s).getD s else s

/-- What a string in a column is before the i18n texts are put in. -/
def namedText (names : Fields) (opts : Localization) (column s : String) : String :=
  nameText names opts column (labelText column s)

theorem labelCell_str (column s : String) :
    labelCell (LabelTable.ofColumn? column) (.str s) = .str (labelText column s) := by
  unfold labelCell labelText
  cases LabelTable.ofColumn? column with
  | none => rfl
  | some table => cases hlabel : table.label? s <;> simp [hlabel]

/-- A string that is a name is replaced in a column where names are. -/
theorem namedCell_str {names : Fields} (hd : names.keys.Nodup) (opts : Localization) (column s : String) :
    namedCell (.names names) opts column (.str s) = .str (nameText names opts column s) := by
  have hlookup := Glossary.lookup?_names hd s
  have hname : s ≠ "" → nameCell (.names names) (.str s) = .str ((names.nameFor? s).getD s) := by
    intro hs
    rw [nameCell, hlookup]
    cases names.nameFor? s <;> simp [hs]
  unfold namedCell nameText
  by_cases hs : s = ""
  · simp [hs, nameCell]
  · cases hcolumn : opts.coversNames column with
    | false => simp
    | true =>
      cases hentries : (Glossary.names names).isEmpty with
      | false => simp [hs, hname hs]
      | true =>
        have hnone : names.nameFor? s = none := by
          rw [Glossary.isEmpty, List.isEmpty_iff] at hentries
          rw [← hlookup, Glossary.lookup?, hentries]
          rfl
        simp [hnone]

theorem labelCell_of_not_str {cell : Json} (h : ∀ s, cell ≠ .str s) (table : Option LabelTable) :
    labelCell table cell = cell := by
  cases cell with
  | str s => exact absurd rfl (h s)
  | _ => cases table <;> rfl

theorem namedCell_of_not_str {cell : Json} (h : ∀ s, cell ≠ .str s) (names : Glossary) (opts : Localization)
    (column : String) : namedCell names opts column cell = cell := by
  have hname : nameCell names cell = cell := by
    cases cell with
    | str s => exact absurd rfl (h s)
    | _ => rfl
  rw [namedCell, hname, ite_self]

/-- Labelling blanks no string. -/
theorem labelText_ne_empty (column : String) {s : String} (h : s ≠ "") : labelText column s ≠ "" := by
  unfold labelText
  cases hlabel : (LabelTable.ofColumn? column).bind fun table => table.label? s with
  | none => exact h
  | some label =>
    obtain ⟨table, htable, hfound⟩ := Option.bind_eq_some_iff.1 hlabel
    exact LabelTable.label?_ne_empty htable hfound

/-- The replacement of names blanks no string. -/
theorem nameText_ne_empty (names : Fields) (opts : Localization) (column : String) {s : String} (h : s ≠ "") :
    nameText names opts column s ≠ "" := by
  unfold nameText
  split
  · cases hname : names.nameFor? s with
    | none => exact h
    | some name => exact Fields.nameFor?_ne_empty hname
  · exact h

/-- Putting in the texts of tokens leaves a string or puts the text of one of the tokens in its place. -/
theorem foldl_textCell_origin (opts : Localization) (known : List (String × String)) (s : String) :
    ∃ text, known.foldl (fun cell x => textCell opts x.1 x.2 cell) (.str s) = .str text ∧
      (text = s ∨ ∃ x ∈ known, x.2 = text) := by
  induction known generalizing s with
  | nil => exact ⟨s, rfl, .inl rfl⟩
  | cons x rest ih =>
    rw [List.foldl_cons, textCell]
    cases tokenFound opts x.1 s with
    | false =>
      obtain ⟨text, hfold, horigin⟩ := ih s
      refine ⟨text, hfold, horigin.imp_right ?_⟩
      rintro ⟨y, hy, htext⟩
      exact ⟨y, List.mem_cons_of_mem _ hy, htext⟩
    | true =>
      obtain ⟨text, hfold, horigin⟩ := ih x.2
      refine ⟨text, hfold, .inr ?_⟩
      rcases horigin with rfl | ⟨y, hy, htext⟩
      · exact ⟨x, List.mem_cons_self, rfl⟩
      · exact ⟨y, List.mem_cons_of_mem _ hy, htext⟩

/-- A token that is found in a string is a part of it. -/
theorem infix_of_tokenFound {opts : Localization} {token s : String} (h : tokenFound opts token s = true) :
    token.toList <:+: s.toList := by
  cases hstrict : opts.strict with
  | false => exact (tokenFound_iff_isInfix hstrict token s).1 h
  | true =>
    rw [tokenFound_eq_beq hstrict, beq_iff_eq] at h
    exact h ▸ List.infix_rfl

/-- Where the final text of a string comes from, for a record with a list of tokens. -/
structure Traced (names texts : Fields) (opts : Localization) (items : List Json) (column s text : String) : Prop where
  /-- The text is the string with its label and its name, or the text of a token in the list. -/
  origin : text = namedText names opts column s ∨ ∃ token, Json.str token ∈ items ∧ texts.textFor? token = some text
  /-- If no token in the list that has a text is a part of the string with its label and its name, this stays. -/
  kept : (∀ token other, Json.str token ∈ items → texts.textFor? token = some other →
    ¬token.toList <:+: (namedText names opts column s).toList) → text = namedText names opts column s
  /-- A string that is not empty is not blanked. -/
  filled : s ≠ "" → text ≠ ""

/-- Where the text of a string comes from after all passes. -/
theorem exists_traced (names : Fields) {texts : Fields} (hd : texts.keys.Nodup) (opts : Localization) (items : List Json)
    (column s : String) :
    ∃ text, ((Glossary.texts texts).knownIn items).foldl (fun cell x => textCell opts x.1 x.2 cell)
        (.str (namedText names opts column s)) = .str text ∧ Traced names texts opts items column s text := by
  have hknown : ∀ x, x ∈ (Glossary.texts texts).knownIn items ↔ Json.str x.1 ∈ items ∧ texts.textFor? x.1 = some x.2 := by
    intro x
    rw [Glossary.mem_knownIn_iff, Glossary.lookup?_texts hd]
  obtain ⟨text, hfold, horigin⟩ := foldl_textCell_origin opts ((Glossary.texts texts).knownIn items)
    (namedText names opts column s)
  have hsource : text = namedText names opts column s ∨
      ∃ token, Json.str token ∈ items ∧ texts.textFor? token = some text := by
    refine horigin.imp_right ?_
    rintro ⟨x, hx, rfl⟩
    exact ⟨x.1, (hknown x).1 hx⟩
  refine ⟨text, hfold, hsource, ?_, ?_⟩
  · intro hno
    have hnotFound : ∀ x ∈ (Glossary.texts texts).knownIn items,
        tokenFound opts x.1 (namedText names opts column s) = false := by
      intro x hx
      obtain ⟨hitem, htext⟩ := (hknown x).1 hx
      rw [← Bool.not_eq_true]
      exact fun hfound => hno x.1 x.2 hitem htext (infix_of_tokenFound hfound)
    rw [foldl_textCell_of_not_found hnotFound] at hfold
    exact (Json.str.inj hfold).symm
  · intro hs
    rcases hsource with rfl | ⟨token, -, htext⟩
    · exact nameText_ne_empty names opts column (labelText_ne_empty column hs)
    · exact Fields.textFor?_ne_empty htext

end Row

/-- The tokens at a path are the strings in the list there; without a list there are none. -/
theorem Json.tokensAt_eq (record : Json) (path : String) :
    record.tokensAt path = ((record.tokenItems? path).getD []).filterMap Json.string? := by
  cases hitems : record.tokenItems? path with
  | some items => exact tokensAt_of_tokenItems? hitems
  | none =>
    unfold tokensAt
    split
    · rename_i items hlist
      rw [tokenItems?, hlist] at hitems
      cases hitems
    · rfl

namespace Mapping

/-- The list at the path of a record's tokens, which is empty if the mapping has no such path or the record no list there. -/
def listedIn (m : Mapping) (record : Json) : List Json := (m.tokenPath.bind record.tokenItems?).getD []

/-- The last pass on a cell puts in the texts of the tokens in the record's list. -/
theorem localizedCell_eq (m : Mapping) (presets : Presets) (opts : Localization) (record : Json) (column : String)
    (cell : Json) :
    Row.localizedCell presets opts m.tokenPath record column cell =
      (presets.texts.knownIn (m.listedIn record)).foldl (fun cell x => Row.textCell opts x.1 x.2 cell)
        (Row.namedCell presets.names opts column (Row.labelCell (LabelTable.ofColumn? column) cell)) := by
  unfold Row.localizedCell listedIn
  cases m.tokenPath with
  | none =>
    dsimp only
    rw [Option.bind_none, Option.getD_none, Glossary.knownIn, List.filterMap_nil, List.foldl_nil]
  | some path =>
    dsimp only
    rw [Json.tokensAt_eq, Row.foldl_tokenCell, Option.bind_some]

/-- A column's cell in the row of a record comes from the value that its expression has over the record. -/
theorem get?_localizedRow_of_mem {m : Mapping} (hd : m.columnNames.Nodup) {column : Column} (h : column ∈ m.columns)
    (presets : Presets) (opts : Localization) (record : Json) :
    (m.localizedRow presets opts record).get? column.name =
      some (Row.localizedCell presets opts m.tokenPath record column.name (column.cell record)) := by
  have hrow : (m.row record).get? column.name = some (column.cell record) := by
    have hmem : (column.name, column.cell record) ∈ m.row record := by
      rw [row_eq_map hd]
      exact List.mem_map_of_mem h
    exact Fields.get?_of_mem ((keys_row hd record).symm ▸ hd) hmem
  rw [get?_localizedRow, hrow, Option.map_some]

/-- The final cell of a column in the row of a record: the value of the column's expression if that is no string, and otherwise a string
whose text comes from the value's by the label of the column, the table of names and the tokens that the record lists. -/
theorem sheet_cell_traced {category : String} {fields : Fields} (hd : fields.keys.Nodup) {m : Mapping}
    (h : ofJson category (.obj fields) = .ok m) {names texts : Fields} (hnames : names.keys.Nodup)
    (htexts : texts.keys.Nodup) (opts : Localization) {records : List Json} {i : Nat} {record : Json}
    (hrecord : records[i]? = some record) {column : Column} (hcolumn : column ∈ m.columns) :
    ∃ row cell, (m.sheet (.ofTables names texts) opts records)[i]? = some row ∧ row.get? column.name = some cell ∧
      ((∀ s, column.cell record ≠ .str s) → cell = column.cell record) ∧
      ∀ s, column.cell record = .str s →
        ∃ text, cell = .str text ∧ Row.Traced names texts opts (m.listedIn record) column.name s text := by
  refine ⟨_, _, ?_, get?_localizedRow_of_mem (nodup_columnNames hd h) hcolumn (.ofTables names texts) opts record, ?_, ?_⟩
  · rw [sheet_eq_map, List.getElem?_map, hrecord, Option.map_some]
  · intro hother
    rw [localizedCell_eq, Row.labelCell_of_not_str hother, Row.namedCell_of_not_str hother]
    exact Row.foldl_textCell_of_not_str _ hother
  · intro s hs
    have hcell : Row.namedCell (.names names) opts column.name
        (Row.labelCell (LabelTable.ofColumn? column.name) (.str s)) = .str (Row.namedText names opts column.name s) := by
      rw [Row.labelCell_str, Row.namedCell_str hnames, Row.namedText]
    rw [hs, localizedCell_eq, Presets.ofTables, hcell]
    exact Row.exists_traced names htexts opts (m.listedIn record) column.name s

namespace ProvenanceWitness

/-- A mapping with an enumerated column, a spoiled one and a path of tokens. -/
def nations : Fields := [("国家", .str ".nation"), ("i18nkey", .str ".meta.ids"), ("坏", .int 7)]

def nationsMapping : Mapping :=
  ⟨"船体", [⟨"国家", PathExpr.parse ".nation"⟩, ⟨"坏", .error (.notAString (.int 7))⟩], some ".meta.ids"⟩

/-- A table with a name for a label, and with a name that is empty. -/
def names : Fields := [("usa", .obj [("zh", .str "")]), ("美国", .obj [("zh", .str "合众国")])]

/-- A table with a text for a part of that name. -/
def texts : Fields := [("合众", .str "联邦")]

/-- A ship that lists the token. -/
def ship : Json := .obj [("nation", .str "USA"), ("meta", .obj [("ids", .arr [.int 5, .str "合众"])])]

end ProvenanceWitness

open ProvenanceWitness in
/-- The theorem at a nation whose label is a name, and whose name holds a token of the record. -/
theorem sheet_cell_traced_nation :
    nations.keys.Nodup ∧ ofJson "船体" (.obj nations) = .ok nationsMapping ∧ names.keys.Nodup ∧ texts.keys.Nodup ∧
      [Json.null, ship][1]? = some ship ∧ ⟨"国家", PathExpr.parse ".nation"⟩ ∈ nationsMapping.columns ∧
      Column.cell ⟨"国家", PathExpr.parse ".nation"⟩ ship = .str "USA" ∧
      ∃ row text, (nationsMapping.sheet (.ofTables names texts) {} [.null, ship])[1]? = some row ∧
        row.get? "国家" = some (.str text) ∧ Row.Traced names texts {} (nationsMapping.listedIn ship) "国家" "USA" text ∧
        Row.labelText "国家" "USA" = "美国" ∧ Row.namedText names {} "国家" "USA" = "合众国" ∧ text = "联邦" := by
  have hd : nations.keys.Nodup := by decide
  have h : ofJson "船体" (.obj nations) = .ok nationsMapping := rfl
  have hnames : names.keys.Nodup := by decide
  have htexts : texts.keys.Nodup := by decide
  have hrecord : [Json.null, ship][1]? = some ship := rfl
  have hcolumn : ⟨"国家", PathExpr.parse ".nation"⟩ ∈ nationsMapping.columns := List.mem_cons_self
  have hcell : Column.cell ⟨"国家", PathExpr.parse ".nation"⟩ ship = .str "USA" := rfl
  obtain ⟨row, cell, hrow, hfinal, -, hstring⟩ := sheet_cell_traced hd h hnames htexts {} hrecord hcolumn
  obtain ⟨text, rfl, htraced⟩ := hstring "USA" hcell
  refine ⟨hd, h, hnames, htexts, hrecord, hcolumn, hcell, row, text, hrow, hfinal, htraced, by decide +kernel,
    by decide +kernel, ?_⟩
  have hknown : (nationsMapping.sheet (.ofTables names texts) {} [.null, ship])[1]?.bind
      (fun row => (row.get? "国家").bind Json.string?) = some "联邦" := by decide +kernel
  rw [hrow, Option.bind_some, hfinal] at hknown
  exact Option.some.inj hknown

end Mapping

end RecordSheets
