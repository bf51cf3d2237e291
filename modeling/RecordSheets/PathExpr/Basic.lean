import RecordSheets.Json.Printer
import RecordSheets.Text.Blank
import RecordSheets.Text.Pieces

/-!
# Path expressions

A mapping gives each column an expression over a record. Three forms are told apart in this order: a concatenation such as
`(.index + .upgrade.air)`, an array join such as `"(.tags)" | join("|")`, and a plain path such as `.upgrade.hull`. Every
text that is neither of the first two is a plain path; only a parenthesised text without any content is refused.
-/

namespace RecordSheets

/-- One part of a concatenation. -/
structure ConcatPart where
  /-- The path without its dots, tried first as a key of the record. -/
  fused : String
  /-- The path without a dot in front. -/
  path : String
  deriving DecidableEq, Repr

/-- A path expression. -/
inductive PathExpr where
  /-- The texts of the parts, one after the other. -/
  | concat (parts : List ConcatPart)
  /-- The elements of a list, joined. -/
  | arrayJoin (path : String)
  /-- The value at a path. -/
  | plain (path : String)
  deriving DecidableEq, Repr

/-- Why a mapping value is no path expression. -/
inductive ExprError where
  | notAString (found : Json)
  | malformedConcat (text : String)

def ExprError.message : ExprError → String
  | .notAString found => "경로 표현식이 문자열이 아닙니다: " ++ found.compact
  | .malformedConcat text => "해석할 수 없는 연결식: " ++ text

/-- The part that a piece between plus signs gives. -/
def ConcatPart.ofPiece (piece : List Char) : ConcatPart :=
  let bare := Text.dropBlanks piece
  ⟨String.ofList (bare.filter (· != '.')), String.ofList (Text.dropLeading '.' bare)⟩

namespace PathExpr

/-- What an attempt gives at the first place of a text where it gives something. -/
def leftmost? (attempt? : List Char → Option (List Char)) : List Char → Option (List Char)
  | [] => none
  | c :: rest =>
    match attempt? (c :: rest) with
    | some found => some found
    | none => leftmost? attempt? rest

/-- The text in the parentheses that open here, if they are closed and not empty. -/
def groupHere? : List Char → Option (List Char)
  | '(' :: rest =>
    let body := rest.takeWhile (· != ')')
    if body ≠ [] ∧ ')' ∈ rest then some body else none
  | _ => none

/-- The text in the parentheses that open here inside quotes, `"(` to `)"`, if it is not empty and holds no closing
parenthesis. -/
def quotedGroupHere? : List Char → Option (List Char)
  | '"' :: '(' :: rest =>
    let body := rest.takeWhile (· != ')')
    if body ≠ [] ∧ [')', '"'].isPrefixOf (rest.dropWhile (· != ')')) then some body else none
  | _ => none

/-- Tells whether a text begins and ends with parentheses. -/
def isParenthesised (cs : List Char) : Bool := cs.head? == some '(' && cs.getLast? == some ')'

/-- The plain path of a text. -/
def plainOf (cs : List Char) : PathExpr := .plain (String.ofList (Text.dropLeading '.' cs))

/-- The array join of the text in quoted parentheses. -/
def arrayJoinOf (body : List Char) : PathExpr :=
  .arrayJoin (String.ofList (Text.dropLeading '.' (body.filter (· != '"'))))

/-- The concatenation of the text in parentheses. -/
def concatOf (body : List Char) : PathExpr := .concat ((Text.pieces '+' body).map ConcatPart.ofPiece)

/-- Reads an expression. -/
def parse (text : String) : Except ExprError PathExpr :=
  let cs := text.toList
  if isParenthesised cs then
    match leftmost? groupHere? cs with
    | some body => .ok (concatOf body)
    | none => .error (.malformedConcat text)
  else if cs.contains '|' then
    match leftmost? quotedGroupHere? cs with
    | some body => .ok (arrayJoinOf body)
    | none => .ok (plainOf cs)
  else .ok (plainOf cs)

/-- Reads the expression that a mapping gives for a column. -/
def ofJson : Json → Except ExprError PathExpr
  | .str text => parse text
  | other => .error (.notAString other)

end PathExpr

end RecordSheets
