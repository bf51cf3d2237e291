import RecordSheets.CategoryFilter
import RecordSheets.Files.Access
import RecordSheets.Json.Reader

/-!
# Catalogues of record files

A catalogue lists the categories whose records lie in a folder, each with one file. A file named for a known endpoint belongs
to that endpoint's category, every other one to the category of its own name; of several files of one category the first in
order counts.
-/

namespace RecordSheets

/-- The known categories with their endpoints. -/
def knownCategories : List (String × String) := [
  ("空袭", "airSupport"), ("特色", "specials"), ("飞机", "aircraft"), ("鱼雷", "torpedoes"), ("反潜武器", "asw"),
  ("弹道穿深", "penetration"), ("消耗品", "ability"), ("防空", "airDefense"), ("副炮", "atba"), ("火炮", "artillery"),
  ("船体", "hull")]

/-- The category of an endpoint. -/
def categoryOf? (endpoint : String) : Option String := (knownCategories.find? fun x => x.2 == endpoint).map Prod.fst

def endpointOf? (category : String) : Option String := (knownCategories.find? fun x => x.1 == category).map Prod.snd

/-- A category with its records. -/
structure CategoryRecords where
  /-- The category. -/
  category : String
  /-- The records in order. -/
  records : List Json

/-- The categories of a folder with their files. -/
structure Catalogue where
  /-- The categories with the paths of their files. -/
  entries : List (String × String)
  /-- The size in bytes from which on a file is mapped into memory and not read through a buffer. -/
  threshold : Nat := 10 * 1024 * 1024
  deriving DecidableEq, Repr

namespace Catalogue

/-- The category and the file name of a record file; nothing for a file of another kind. -/
def recordFile? (place : Place) : Option (String × String) :=
  place.getLast?.bind fun name =>
    match Path.splitExtension name with
    | (stem, some ending) =>
      if ending.toList.map Char.toLower = "json".toList then some ((categoryOf? stem).getD stem, name) else none
    | (_, none) => none

/-- The path of a place below a folder. -/
def pathBelow (dir : String) (place : Place) : String := Path.join dir (String.intercalate "/" place)

/-- The category and the path of a record file that a filter takes, for a place below a folder. -/
def entryOf? (dir : String) (filter : CategoryFilter) (place : Place) : Option (String × String) :=
  (recordFile? place).bind fun (category, name) =>
    if filter.takesCategory category name then some (category, pathBelow dir place) else none

/-- The first entry of each category, leaving out the categories in `seen`. -/
def firsts (seen : List String) : List (String × String) → List (String × String)
  | [] => []
  | x :: rest => if seen.contains x.1 then firsts seen rest else x :: firsts (x.1 :: seen) rest

/-- Tells whether a place lies within a depth. -/
def within (maxDepth : Option Nat) (place : Place) : Bool :=
  match maxDepth with
  | some depth => place.length ≤ depth
  | none => true

/-- The places of the files below a folder down to a depth, in order. A file whose path is too long to be followed is not
among them. -/
def places (t : FileTree) (dir : String) (folder : Place) (maxDepth : Option Nat) : List Place :=
  (t.filesBelow folder).filter fun q => within maxDepth q && t.hasFile (pathBelow dir q)

/-- The catalogue of a folder. -/
def scan (t : FileTree) (dir : String) (maxDepth : Option Nat) (filter : CategoryFilter) : Except Failure Catalogue :=
  match t.locate dir with
  | .error _ => .error (.inputNotFound dir)
  | .ok folder =>
    if t.isFolder folder then .ok { entries := firsts [] ((places t dir folder maxDepth).filterMap (entryOf? dir filter)) }
    else .error (.inputNotADirectory dir)

def categories (c : Catalogue) : List String := c.entries.map Prod.fst

/-- The path of a category's file. -/
def pathFor? (c : Catalogue) (category : String) : Option String := c.entries.lookup category

/-- The size that decides how a file is read; a file that is gone has none. -/
def sizeAt (t : FileTree) (path : String) : Nat :=
  match t.find path with
  | .ok (.file content) => content.length
  | .ok .folder => 4096
  | .error _ => 0

/-- The JSON document in a record file. One reader stands for both ways of reading, through a buffered stream and from mapped memory:
it is assumed that they have one grammar and differ in the place that they give for a fault alone. -/
def document (t : FileTree) (path : String) (reading : Json.Reading) : Except Failure Json :=
  match t.find path, reading with
  | .error e, _ => .error (.sourceNotOpened path e)
  | .ok .folder, .mapped => .error (.sourceNotMapped path .noDevice)
  | .ok .folder, .buffered => .error (.sourceUnreadable path (.refused .isDirectory))
  | .ok (.file content), reading =>
    match Json.read content with
    | .ok v => .ok v
    | .error fault => .error (.sourceUnreadable path (fault.obstacle reading content))

/-- The records of a category; nothing if the category is unknown or has none. -/
def fetch (c : Catalogue) (t : FileTree) (category : String) : Except Failure (Option (List Json)) :=
  match c.pathFor? category with
  | none => .ok none
  | some path =>
    match document t path (if c.threshold ≤ sizeAt t path then .mapped else .buffered) with
    | .error e => .error e
    | .ok (.arr []) => .ok none
    | .ok (.arr records) => .ok (some records)
    | .ok _ => .error (.sourceNotAList path)

/-- Why a category without records is left out. -/
def noRecords : String := "데이터 없음"

/-- The records of some categories, and the categories whose records cannot be had with the reasons. -/
def loadBatch (c : Catalogue) (t : FileTree) : List String → List CategoryRecords × List (String × String)
  | [] => ([], [])
  | category :: rest =>
    let later := loadBatch c t rest
    match c.fetch t category with
    | .ok (some records) => (⟨category, records⟩ :: later.1, later.2)
    | .ok none => (later.1, (category, noRecords) :: later.2)
    | .error e => (later.1, (category, e.message) :: later.2)

end Catalogue

end RecordSheets
