import RecordSheets.Failure
import RecordSheets.Glob

/-!
# Category filters

A filter chooses categories by a glob pattern over their names or the names of their files; without a pattern it takes all.
-/

namespace RecordSheets

/-- A choice of categories. -/
structure CategoryFilter where
  /-- The pattern; without one every category is chosen. -/
  glob : Option Glob
  deriving DecidableEq, Repr

namespace CategoryFilter

/-- The filter that takes every category. -/
def all : CategoryFilter := ⟨none⟩

/-- The filter of a pattern text. -/
def ofPattern (pattern : Option String) : Except Failure CategoryFilter :=
  match pattern with
  | none => .ok all
  | some text =>
    match Glob.ofString? text with
    | some glob => .ok ⟨some glob⟩
    | none => .error (.invalidPattern text)

/-- Tells whether a name is taken. -/
def takes (f : CategoryFilter) (name : String) : Bool :=
  match f.glob with
  | some glob => glob.accepts name
  | none => true

/-- Tells whether a category is taken, by its own name or by that of its file. -/
def takesCategory (f : CategoryFilter) (category fileName : String) : Bool := f.takes category || f.takes fileName

end CategoryFilter

end RecordSheets
