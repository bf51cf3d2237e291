import RecordSheets.CellText

/-!
# CSV text

Fields are divided by commas and every record ends with a line break. A field with a comma, a quote or a line break is put in
quotes, and a quote inside it is doubled. A record that would be an empty line is written as a pair of quotes.
-/

namespace RecordSheets.Csv

/-- Tells whether a field needs quotes. -/
def needsQuotes (field : List Char) : Bool :=
  field.any fun c => c == ',' || c == '"' || c == '\r' || c == '\n'

/-- A field with its quotes doubled. -/
def doubleQuotes (field : List Char) : List Char := field.flatMap fun c => if c = '"' then ['"', '"'] else [c]

/-- The written form of a field. -/
def writeField (field : List Char) : List Char :=
  if needsQuotes field then '"' :: (doubleQuotes field ++ ['"']) else field

/-- The written fields with commas between them. -/
def writeFields : List (List Char) → List Char
  | [] => []
  | [f] => writeField f
  | f :: rest => writeField f ++ ',' :: writeFields rest

/-- The written form of a record, with the line break at its end. -/
def writeRecord (fields : List (List Char)) : List Char :=
  let line := writeFields fields
  (if line.isEmpty then ['"', '"'] else line) ++ ['\n']

/-- The text of a row's cell in a column; a column that the row lacks is empty. -/
def cellOf (row : Fields) (column : String) : String := ((row.get? column).map Json.cellText).getD ""

/-- The records of a sheet: the headings and then the cells of each row. -/
def records (rows : List Fields) (columns : List String) : List (List String) :=
  columns :: rows.map fun row => columns.map (cellOf row)

/-- The CSV text of rows under some headings. Without rows there is no text, not even the headings. -/
def encode (rows : List Fields) (columns : List String) : String :=
  if rows.isEmpty then ""
  else String.ofList ((records rows columns).flatMap fun record => writeRecord (record.map String.toList))

/-- A record whose number of fields is not that of the first record. -/
structure Misfit where
  /-- The number of fields of the first record. -/
  expected : Nat
  /-- The number of fields of the record. -/
  found : Nat
  deriving DecidableEq, Repr

def Misfit.message (m : Misfit) : String :=
  s!"CSV 인코딩 실패: CSV error: found record with {m.found} fields, but the previous record has {m.expected} fields"

/-- Writes records one after the other, all of which have to have a number of fields. -/
def writeAll (width : Nat) : List (List String) → Except Misfit (List Char)
  | [] => .ok []
  | record :: rest =>
    if record.length = width then (writeAll width rest).map (writeRecord (record.map String.toList) ++ ·)
    else .error ⟨width, record.length⟩

/-- Writes rows under some headings. The headings are the first record and set the number of fields. -/
def write (rows : List Fields) (columns : List String) : Except Misfit String :=
  if rows.isEmpty then .ok ""
  else (writeAll columns.length (records rows columns)).map String.ofList

/-- Records that all have the right number of fields are written. -/
theorem writeAll_of_length {width : Nat} {recs : List (List String)} (h : ∀ r ∈ recs, r.length = width) :
    writeAll width recs = .ok (recs.flatMap fun record => writeRecord (record.map String.toList)) := by
  induction recs with
  | nil => rfl
  | cons r rest ih =>
    have hr : r.length = width := h r (by simp)
    rw [writeAll, if_pos hr, ih fun x hx => h x (by simp [hx])]
    rfl

/-- Every record of a sheet has one field for each heading. -/
theorem length_of_mem_records {rows : List Fields} {columns record : List String} (h : record ∈ records rows columns) :
    record.length = columns.length := by
  simp only [records, List.mem_cons, List.mem_map] at h
  rcases h with rfl | ⟨row, _, rfl⟩
  · rfl
  · simp

/-- Writing rows never fails. -/
theorem write_eq_ok (rows : List Fields) (columns : List String) : write rows columns = .ok (encode rows columns) := by
  unfold write encode
  split
  · rfl
  · rw [writeAll_of_length fun _ => length_of_mem_records]
    rfl

/-- There is a text as soon as there is a row, be it of no columns. -/
theorem isEmpty_encode (rows : List Fields) (columns : List String) : (encode rows columns).isEmpty = rows.isEmpty := by
  cases rows with
  | nil => rfl
  | cons row rest =>
    have hne : encode (row :: rest) columns ≠ "" := by
      rw [encode, if_neg (by simp), ne_eq, ← String.toList_eq_nil_iff, String.toList_ofList, records, List.flatMap_cons]
      simp [writeRecord]
    rw [List.isEmpty_cons, String.isEmpty_eq_false_iff]
    exact hne

/-- The mark by which spreadsheet programs recognise UTF-8. -/
def byteOrderMark : String := String.singleton (Char.ofNat 0xFEFF)

/-- A text with the mark in front. -/
def withMark (text : String) : String := byteOrderMark ++ text

end RecordSheets.Csv
