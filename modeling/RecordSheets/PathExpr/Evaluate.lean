import RecordSheets.CellText
import RecordSheets.PathExpr.Basic
import RecordSheets.Text.Digits

/-!
# Evaluating path expressions

A path leads from a value to one inside it, an object by its keys and a list by its positions. A value that is not there is
null in a cell.
-/

namespace RecordSheets

/-- The value one step inside a value: the member of that key, or the element at that position. -/
def Json.child? (v : Json) (step : String) : Option Json :=
  match v with
  | .obj fields => Fields.get? fields step
  | .arr items => (Text.unsigned? step.toList).bind fun i => items[i]?
  | _ => none

/-- The value at a path, whose steps stand between dots. -/
def Json.resolve? (v : Json) (path : String) : Option Json := (Text.cut '.' path).foldlM Json.child? v

/-- The value of a concatenation part: the record's own member of the fused key, else the value at the path. -/
def ConcatPart.resolve? (part : ConcatPart) (record : Json) : Option Json :=
  match record.fields?.bind fun fields => fields.get? part.fused with
  | some v => some v
  | none => record.resolve? part.path

namespace PathExpr

/-- The value of an expression over a record. -/
def evaluate (expr : PathExpr) (record : Json) : Json :=
  match expr with
  | .concat parts => .str (String.join ((parts.filterMap fun part => part.resolve? record).map Json.cellText))
  | .arrayJoin path =>
    match record.resolve? path with
    | some (.arr items) => .str (Json.joined "|" items)
    | some v => v
    | none => .null
  | .plain path => (record.resolve? path).getD .null

end PathExpr

/-- The value of an expression text over a record; null if the text is no expression. -/
def Json.evaluate (record : Json) (text : String) : Json :=
  match PathExpr.parse text with
  | .ok expr => expr.evaluate record
  | .error _ => .null

end RecordSheets
