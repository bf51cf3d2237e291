import RecordSheets.EnumLabel
import RecordSheets.Glossary
import RecordSheets.Mapping
import RecordSheets.PathExpr.Evaluate

/-!
# Sheets

The rows that a mapping makes of records, one for each record in order, with the columns of the mapping. The cells are taken
from the records and then localized in three passes over all rows: enumerated values, names, i18n texts.
-/

namespace RecordSheets

/-- A row of a sheet: the headings with their cells. -/
abbrev Row := Fields

/-- How far localization goes. -/
structure Localization where
  /-- Whether an i18n token has to be the whole cell; otherwise it may also be a part of it. -/
  strict : Bool := false
  /-- The columns whose names are replaced; all of them where none are chosen. -/
  nameColumns : Option (List String) := none
  deriving DecidableEq, Repr

/-- Tells whether names are replaced in a column. -/
def Localization.coversNames (opts : Localization) (column : String) : Bool :=
  match opts.nameColumns with
  | some columns => columns.contains column
  | none => true

namespace Column

/-- The cell of a column in the row of a record, before localization. -/
def cell (column : Column) (record : Json) : Json :=
  match column.expr with
  | .ok expr => expr.evaluate record
  | .error _ => .null

end Column

/-- The row of a record before localization: the cells put in one after the other. -/
def Mapping.row (m : Mapping) (record : Json) : Row :=
  m.columns.foldl (fun row column => row.insert column.name (column.cell record)) []

namespace Row

/-- A cell with its name replaced. An empty cell is no name. -/
def nameCell (names : Glossary) (cell : Json) : Json :=
  match cell with
  | .str s => if s.isEmpty then cell else ((names.lookup? s).map Json.str).getD cell
  | _ => cell

/-- A row with its names replaced. -/
def withNames (names : Glossary) (opts : Localization) (row : Row) : Row :=
  if names.isEmpty then row
  else row.mapValues fun column cell => if opts.coversNames column then nameCell names cell else cell

/-- Tells whether a token is found in a text. -/
def tokenFound (opts : Localization) (token text : String) : Bool :=
  text == token || (!opts.strict && Text.occursIn token.toList text.toList)

/-- A cell with a text in place of the token, if the token is found in it. -/
def textCell (opts : Localization) (token text : String) (cell : Json) : Json :=
  match cell with
  | .str s => if tokenFound opts token s then .str text else cell
  | _ => cell

/-- A row with the text of one token put in. -/
def withToken (texts : Glossary) (opts : Localization) (row : Row) (token : String) : Row :=
  match texts.lookup? token with
  | some text => row.mapValues fun _ cell => textCell opts token text cell
  | none => row

/-- A row with the texts of some tokens put in, one token after the other. -/
def withTexts (texts : Glossary) (opts : Localization) (row : Row) (tokens : List String) : Row :=
  tokens.foldl (withToken texts opts) row

end Row

/-- The i18n tokens of a record: the strings in the list at a path, from which the first dot is removed wherever it
stands. -/
def Json.tokensAt (record : Json) (path : String) : List String :=
  match record.resolve? (String.ofList (path.toList.erase '.')) with
  | some (.arr items) => items.filterMap Json.string?
  | _ => []

/-- The rows of the sheet that a mapping makes of records. -/
def Mapping.sheet (m : Mapping) (presets : Presets) (opts : Localization) (records : List Json) : List Row :=
  let rows := records.map m.row
  let rows := rows.map Fields.withLabels
  let rows := rows.map (Row.withNames presets.names opts)
  match m.tokenPath with
  | none => rows
  | some path => List.zipWith (fun row record => Row.withTexts presets.texts opts row (record.tokensAt path)) rows records

end RecordSheets
