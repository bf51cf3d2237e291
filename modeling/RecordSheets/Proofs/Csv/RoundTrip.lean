import RecordSheets.Proofs.Csv.Reader

/-!
# Reading what was written

Every sheet with at least one row and one column is written, and the strict reader gives its records back: the headings and
then the cells of each row in order.

The reader is followed through the written text character by character. Inside a field its place says how much of the field was
read (`Spot.Holds`), and a comma or a line break behind the field makes it a complete one.
-/

namespace RecordSheets.Csv

namespace Reader

theorem run_append (r : Reader) (a b : List Char) : r.run (a ++ b) = (r.run a).bind fun r => r.run b := by
  simp only [run, List.foldlM_append]
  rfl

theorem run_cons (r : Reader) (c : Char) (text : List Char) : r.run (c :: text) = (r.step c).bind fun r => r.run text := by
  simp only [run, List.foldlM_cons]
  rfl

end Reader

/-! ## Fields -/

/-- A place behind a whole field, written with or without quotes. -/
def Spot.Holds (field : List Char) : Spot → Prop
  | .bare got => got = field.reverse
  | .quoted _ => False
  | .closed got => got = field.reverse

/-- A field that needs no quotes is made of characters that need none. -/
theorem needsQuotes_cons_eq_false {c : Char} {cs : List Char} (h : needsQuotes (c :: cs) = false) :
    (c ≠ ',' ∧ c ≠ '"' ∧ c ≠ '\r' ∧ c ≠ '\n') ∧ needsQuotes cs = false := by
  simp only [needsQuotes, List.any_cons, Bool.or_eq_false_iff, beq_eq_false_iff_ne, ne_eq] at h
  obtain ⟨⟨⟨⟨hcomma, hquote⟩, hreturn⟩, hbreak⟩, hrest⟩ := h
  exact ⟨⟨hcomma, hquote, hreturn, hbreak⟩, hrest⟩

/-- A field that needs no quotes is read as it is. -/
theorem run_bare {field : List Char} (h : needsQuotes field = false) (rs : List (List String)) (fs : List String)
    (got : List Char) :
    Reader.run ⟨rs, fs, .bare got⟩ field = some ⟨rs, fs, .bare (field.reverse ++ got)⟩ := by
  induction field generalizing got with
  | nil => rfl
  | cons c cs ih =>
    obtain ⟨⟨hcomma, hquote, hreturn, hbreak⟩, hcs⟩ := needsQuotes_cons_eq_false h
    have hstep : Reader.step ⟨rs, fs, .bare got⟩ c = some ⟨rs, fs, .bare (c :: got)⟩ := by
      simp [Reader.step, hcomma, hquote, hreturn, hbreak]
    rw [Reader.run_cons, hstep, Option.bind_some, ih hcs]
    simp

/-- A field with its quotes doubled is read as the field, inside quotes. -/
theorem run_doubleQuotes (field : List Char) (rs : List (List String)) (fs : List String) (got : List Char) :
    Reader.run ⟨rs, fs, .quoted got⟩ (doubleQuotes field) = some ⟨rs, fs, .quoted (field.reverse ++ got)⟩ := by
  induction field generalizing got with
  | nil => rfl
  | cons c cs ih =>
    have hc : Reader.run ⟨rs, fs, .quoted got⟩ (if c = '"' then ['"', '"'] else [c]) =
        some ⟨rs, fs, .quoted (c :: got)⟩ := by
      by_cases h : c = '"'
      · subst h
        rfl
      · simp [h, Reader.run, Reader.step]
    rw [doubleQuotes, List.flatMap_cons, Reader.run_append, hc, Option.bind_some]
    rw [doubleQuotes] at ih
    rw [ih]
    simp

/-- A written field leads the reader to a place behind it. -/
theorem run_writeField (field : List Char) (rs : List (List String)) (fs : List String) :
    ∃ spot : Spot, spot.Holds field ∧ (spot = .bare [] → field = []) ∧
      Reader.run ⟨rs, fs, .bare []⟩ (writeField field) = some ⟨rs, fs, spot⟩ := by
  cases h : needsQuotes field with
  | false =>
    refine ⟨.bare field.reverse, rfl, fun hs => by simpa using hs, ?_⟩
    rw [writeField, if_neg (by simp [h]), run_bare h, List.append_nil]
  | true =>
    refine ⟨.closed field.reverse, rfl, nofun, ?_⟩
    have hopen : Reader.step ⟨rs, fs, .bare []⟩ '"' = some ⟨rs, fs, .quoted []⟩ := rfl
    rw [writeField, if_pos h, Reader.run_cons, hopen, Option.bind_some, Reader.run_append, run_doubleQuotes,
      Option.bind_some, List.append_nil]
    rfl

/-- A comma behind a field makes it a complete one. -/
theorem step_comma {spot : Spot} {field : List Char} (h : spot.Holds field) (rs : List (List String)) (fs : List String) :
    Reader.step ⟨rs, fs, spot⟩ ',' = some ⟨rs, String.ofList field :: fs, .bare []⟩ := by
  cases spot with
  | bare got =>
    obtain rfl : got = field.reverse := h
    simp [Reader.step, Reader.endField]
  | quoted got => exact h.elim
  | closed got =>
    obtain rfl : got = field.reverse := h
    simp [Reader.step, Reader.endField]

/-- A line break behind a field makes its record a complete one, unless the line is blank. -/
theorem step_lineBreak {spot : Spot} {field : List Char} (h : spot.Holds field) (rs : List (List String))
    (fs : List String) (hblank : spot = .bare [] → fs ≠ []) :
    Reader.step ⟨rs, fs, spot⟩ '\n' = some ⟨(fs.reverse ++ [String.ofList field]) :: rs, [], .bare []⟩ := by
  cases spot with
  | bare got =>
    obtain rfl : got = field.reverse := h
    have hnot : ¬(field.reverse.isEmpty && fs.isEmpty) = true := by
      rw [Bool.and_eq_true, List.isEmpty_iff, List.isEmpty_iff]
      rintro ⟨hfield, hfs⟩
      exact hblank (by rw [hfield]) hfs
    simp only [Reader.step, Char.reduceEq, if_false, if_true, if_neg hnot, Reader.endRecord, List.reverse_reverse,
      List.reverse_cons]
  | quoted got => exact h.elim
  | closed got =>
    obtain rfl : got = field.reverse := h
    simp [Reader.step, Reader.endRecord]

/-! ## Records -/

/-- Only the record of one empty field is written as an empty line. -/
theorem writeFields_ne_nil {fields : List (List Char)} (hne : fields ≠ []) (hempty : fields ≠ [[]]) :
    writeFields fields ≠ [] := by
  match fields with
  | [] => exact absurd rfl hne
  | [f] =>
    have hf : f ≠ [] := fun h => hempty (by rw [h])
    rw [writeFields, writeField]
    split
    · simp
    · exact hf
  | f :: g :: rest => simp [writeFields]

/-- The written fields of a record, with a line break behind them, are read as the record. -/
theorem run_writeFields (fields : List (List Char)) (hne : fields ≠ []) (rs : List (List String)) (fs : List String)
    (hblank : fs = [] → fields ≠ [[]]) :
    Reader.run ⟨rs, fs, .bare []⟩ (writeFields fields ++ ['\n']) =
      some ⟨(fs.reverse ++ fields.map String.ofList) :: rs, [], .bare []⟩ := by
  -- The fields before the present one are in the state, so that only the first field of a record can make a blank line.
  induction fields generalizing fs with
  | nil => exact absurd rfl hne
  | cons f rest ih =>
    obtain ⟨spot, hspot, hstart, hrun⟩ := run_writeField f rs fs
    cases rest with
    | nil =>
      have hfs : spot = .bare [] → fs ≠ [] := fun hs h => hblank h (by rw [hstart hs])
      rw [writeFields, Reader.run_append, hrun, Option.bind_some, Reader.run_cons, step_lineBreak hspot rs fs hfs]
      rfl
    | cons g more =>
      have hwritten : writeFields (f :: g :: more) = writeField f ++ ',' :: writeFields (g :: more) := rfl
      rw [hwritten, List.append_assoc, Reader.run_append, hrun, Option.bind_some, List.cons_append, Reader.run_cons,
        step_comma hspot, Option.bind_some, ih (by simp) _ (by simp)]
      simp

/-- A written record is read as the record. -/
theorem run_writeRecord (fields : List (List Char)) (hne : fields ≠ []) (rs : List (List String)) :
    Reader.run ⟨rs, [], .bare []⟩ (writeRecord fields) = some ⟨fields.map String.ofList :: rs, [], .bare []⟩ := by
  by_cases hempty : fields = [[]]
  · subst hempty
    rfl
  · have hline : (writeFields fields).isEmpty = false := by
      simpa using writeFields_ne_nil hne hempty
    rw [writeRecord, hline, if_neg (by simp), run_writeFields fields hne rs [] fun _ => hempty]
    rfl

/-- Written records are read one after the other. -/
theorem run_writeRecords (recs : List (List String)) (hne : ∀ r ∈ recs, r ≠ []) (rs : List (List String)) :
    Reader.run ⟨rs, [], .bare []⟩ (recs.flatMap fun record => writeRecord (record.map String.toList)) =
      some ⟨recs.reverse ++ rs, [], .bare []⟩ := by
  induction recs generalizing rs with
  | nil => rfl
  | cons r rest ih =>
    have hr : r.map String.toList ≠ [] := by simpa using hne r (by simp)
    have hback : (r.map String.toList).map String.ofList = r := by
      simp [List.map_map, Function.comp_def]
    rw [List.flatMap_cons, Reader.run_append, run_writeRecord _ hr, Option.bind_some, hback,
      ih fun x hx => hne x (by simp [hx])]
    simp

/-! ## Sheets -/

/-- A sheet with a row and a column is written, and its text is read as the headings and then, for each row in order, the text
of its cell in each column; the cell of a column that the row lacks is empty. -/
theorem read?_write {rows : List Fields} {columns : List String} (hrows : rows ≠ []) (hcolumns : columns ≠ []) :
    ∃ text, write rows columns = .ok text ∧
      read? text = some (columns :: rows.map fun row =>
        columns.map fun column => ((row.get? column).map Json.cellText).getD "") := by
  refine ⟨encode rows columns, write_eq_ok rows columns, ?_⟩
  have hne : ∀ r ∈ records rows columns, r ≠ [] := by
    intro r hr h
    have hlength := length_of_mem_records hr
    rw [h, List.length_nil, eq_comm, List.length_eq_zero_iff] at hlength
    exact hcolumns hlength
  have hrun := run_writeRecords (records rows columns) hne []
  rw [encode, if_neg (by simpa using hrows), read?, String.toList_ofList, Reader.start, hrun]
  simp [Reader.finish, records, cellOf]

/-- The theorem at a sheet with a quote, commas, line breaks and a missing cell. -/
theorem read?_write_quoted :
    ([[("a,\"b\"", Json.str "x\ny")], []] : List Fields) ≠ [] ∧ ["a,\"b\"", ""] ≠ ([] : List String) ∧
      ∃ text, write [[("a,\"b\"", Json.str "x\ny")], []] ["a,\"b\"", ""] = .ok text ∧
        read? text = some [["a,\"b\"", ""], ["x\ny", ""], ["", ""]] := by
  refine ⟨by simp, by simp, ?_⟩
  obtain ⟨text, hwrite, hread⟩ := @read?_write [[("a,\"b\"", Json.str "x\ny")], []] ["a,\"b\"", ""] (by simp) (by simp)
  exact ⟨text, hwrite, by simpa [Fields.get?, List.lookup_cons, Json.cellText] using hread⟩

end RecordSheets.Csv
