import RecordSheets.Failure
import RecordSheets.PathExpr.Basic

/-!
# Mappings

The mapping of a category lists the columns of its sheet, each with a path expression, in the order in which they are
declared. The reserved key `i18nkey` is no column: it holds the path of a record's i18n tokens. A value that is no
expression spoils its own column only.
-/

namespace RecordSheets

/-- A column of a sheet. -/
structure Column where
  /-- The heading. -/
  name : String
  /-- The expression that gives the cells; without one the cells are null. -/
  expr : Except ExprError PathExpr

/-- The mapping of a category. -/
structure Mapping where
  /-- The category. -/
  category : String
  /-- The columns in declared order. -/
  columns : List Column
  /-- The path of the i18n tokens in a record, as it is written. -/
  tokenPath : Option String

namespace Mapping

/-- The key of a mapping that holds the path of the i18n tokens. -/
def tokenKey : String := "i18nkey"

/-- The end of a mapping file's name, behind the category. -/
def fileEnding : String := "mapping.json"

/-- Goes through the members of a mapping, with the columns and the path of the i18n tokens that came before. The reserved key
gives the path, every other one a column. -/
def collect (columns : List Column) (path : Option String) : Fields → Except MappingFlaw (List Column × Option String)
  | [] => .ok (columns, path)
  | (name, value) :: rest =>
    if name = tokenKey then
      match value with
      | .str found => collect columns (some found) rest
      | .null => collect columns path rest
      | other => .error (.tokenPathNotAString other)
    else collect (columns ++ [⟨name, PathExpr.ofJson value⟩]) path rest

/-- The mapping that a JSON value gives a category. -/
def ofJson (category : String) (value : Json) : Except Failure Mapping :=
  match value with
  | .obj fields =>
    match collect [] none fields with
    | .ok (columns, path) => .ok ⟨category, columns, path⟩
    | .error flaw => .error (.mappingFlawed category flaw)
  | _ => .error (.mappingFlawed category .notAnObject)

/-- The headings in declared order. -/
def columnNames (m : Mapping) : List String := m.columns.map Column.name

end Mapping

end RecordSheets
