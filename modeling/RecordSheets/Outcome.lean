import RecordSheets.Json.Value

/-!
# Outcomes and reports

What became of a category, and the report on a batch: how many categories ended in each way, and which ones, in batch order.
Categories whose records could not be had are listed apart and not counted.
-/

namespace RecordSheets

/-- What became of a category. -/
inductive Outcome where
  /-- Its sheet was written to a file, with a number of rows and of bytes. -/
  | written (path : String) (rows bytes : Nat)
  /-- There was nothing to write. -/
  | empty
  /-- Its mapping could not be had or its sheet could not be written. -/
  | failed (reason : String)
  deriving DecidableEq, Repr

namespace Outcome

def toJson : Outcome → Json
  | .written path rows bytes =>
    .obj [("status", .str "written"), ("path", .str path), ("rows", .int rows), ("bytes", .int bytes)]
  | .empty => .obj [("status", .str "empty")]
  | .failed reason => .obj [("status", .str "failed"), ("reason", .str reason)]

end Outcome

/-- The report on a batch. -/
structure Report where
  /-- How many sheets were written. -/
  success : Nat := 0
  /-- How many categories failed. -/
  failed : Nat := 0
  /-- How many categories had nothing to write. -/
  empty : Nat := 0
  /-- The files written, in batch order. -/
  files : List String := []
  /-- The categories that failed, with the reasons. -/
  failures : List (String × String) := []
  /-- The categories that had nothing to write. -/
  emptyCategories : List String := []
  /-- The categories whose records could not be had, with the reasons. -/
  unavailable : List (String × String) := []
  deriving DecidableEq, Repr

namespace Report

/-- A report with the outcome of a category added. -/
def record (r : Report) (category : String) : Outcome → Report
  | .written path _ _ => { r with success := r.success + 1, files := r.files ++ [path] }
  | .empty => { r with empty := r.empty + 1, emptyCategories := r.emptyCategories ++ [category] }
  | .failed reason => { r with failed := r.failed + 1, failures := r.failures ++ [(category, reason)] }

/-- A report with a category added whose records could not be had. -/
def recordUnavailable (r : Report) (category reason : String) : Report :=
  { r with unavailable := r.unavailable ++ [(category, reason)] }

/-- The number of categories with an outcome. -/
def total (r : Report) : Nat := r.success + r.failed + r.empty

def textsToJson (texts : List String) : Json := .arr (texts.map Json.str)

def pairsToJson (pairs : List (String × String)) : Json := .arr (pairs.map fun (a, b) => .arr [.str a, .str b])

def toJson (r : Report) : Json :=
  .obj [("success", .int r.success), ("failed", .int r.failed), ("empty", .int r.empty), ("files", textsToJson r.files),
    ("failures", pairsToJson r.failures), ("empty_categories", textsToJson r.emptyCategories),
    ("unavailable", pairsToJson r.unavailable)]

end Report

end RecordSheets
