import RecordSheets.Json.Printer

/-!
# The text of a cell

How a value reads in a cell: null is empty, a string is itself, and lists and objects are JSON text. A list joined into one
cell has its nested lists spread out with commas.
-/

namespace RecordSheets.Json

/-- The text of a value in a cell. -/
def cellText : Json → String
  | .null => ""
  | .bool true => "true"
  | .bool false => "false"
  | .int i => String.ofList (wholeText i)
  | .float x => String.ofList (NumberFormat.cell.write x)
  | .str s => s
  | .arr items => (Json.arr items).compact
  | .obj fields => (Json.obj fields).compact

mutual

/-- The text of an element in a joined list: a nested list is joined with commas. -/
def elementText : Json → String
  | .arr items => String.intercalate "," (elementTexts items)
  | .null => cellText .null
  | .bool b => cellText (.bool b)
  | .int i => cellText (.int i)
  | .float x => cellText (.float x)
  | .str s => cellText (.str s)
  | .obj fields => cellText (.obj fields)

/-- The texts of the elements of a list. -/
def elementTexts : List Json → List String
  | [] => []
  | v :: rest => elementText v :: elementTexts rest

end

/-- The texts of the elements with a separator between them. -/
def joined (sep : String) (items : List Json) : String := String.intercalate sep (elementTexts items)

end RecordSheets.Json
