import RecordSheets.Csv

/-!
# Reading CSV text

A strict reader of CSV text, as a machine that takes one character after the other: fields stand between commas, every record
ends with a line break, and a field may stand in quotes, where a quote is doubled and everything else is taken as it is.

What readers do not agree about is refused: a quote or a carriage return in a bare field, text behind a closing quote, a blank
line, and a last record without its line break. So a text that this reader takes is read alike by all of them.
-/

namespace RecordSheets.Csv

/-- The place of a reader in a field, with the characters so far, the latest first. -/
inductive Spot where
  /-- In a field without quotes, or before the first character of a field. -/
  | bare (got : List Char)
  /-- Inside the quotes of a field. -/
  | quoted (got : List Char)
  /-- Behind a quote inside quotes, which ends them unless it is doubled. -/
  | closed (got : List Char)
  deriving DecidableEq, Repr

/-- The state of a reader. -/
structure Reader where
  /-- The records that are complete, the latest first. -/
  records : List (List String)
  /-- The complete fields of the present record, the latest first. -/
  fields : List String
  /-- The place in the present field. -/
  spot : Spot
  deriving DecidableEq, Repr

namespace Reader

def start : Reader := ⟨[], [], .bare []⟩

/-- Ends the present field. -/
def endField (r : Reader) (got : List Char) : Reader := ⟨r.records, String.ofList got.reverse :: r.fields, .bare []⟩

/-- Ends the present field and its record. -/
def endRecord (r : Reader) (got : List Char) : Reader :=
  ⟨(String.ofList got.reverse :: r.fields).reverse :: r.records, [], .bare []⟩

/-- Reads one character. -/
def step (r : Reader) (c : Char) : Option Reader :=
  match r.spot with
  | .bare got =>
    if c = '"' then if got.isEmpty then some { r with spot := .quoted [] } else none
    else if c = '\r' then none
    else if c = ',' then some (r.endField got)
    else if c = '\n' then if got.isEmpty && r.fields.isEmpty then none else some (r.endRecord got)
    else some { r with spot := .bare (c :: got) }
  | .quoted got => some { r with spot := if c = '"' then .closed got else .quoted (c :: got) }
  | .closed got =>
    if c = '"' then some { r with spot := .quoted (c :: got) }
    else if c = ',' then some (r.endField got)
    else if c = '\n' then some (r.endRecord got)
    else none

def run (r : Reader) (text : List Char) : Option Reader := text.foldlM step r

/-- The records, if the text may end here. -/
def finish (r : Reader) : Option (List (List String)) :=
  if r.fields = [] ∧ r.spot = .bare [] then some r.records.reverse else none

end Reader

/-- The records of a CSV text, if it is one. -/
def read? (text : String) : Option (List (List String)) := (Reader.start.run text.toList).bind Reader.finish

end RecordSheets.Csv
