import RecordSheets.Files.Access
import RecordSheets.Json.Reader
import RecordSheets.Mapping

/-!
# Mapping files

The mapping of a category is a file of a folder, named for the category. It is read anew each time it is wanted.
-/

namespace RecordSheets

/-- A folder with mapping files. -/
structure MappingFolder where
  /-- The folder. -/
  dir : String
  deriving DecidableEq, Repr

namespace MappingFolder

/-- The path of a category's mapping. -/
def pathFor (m : MappingFolder) (category : String) : String := Path.join m.dir (category ++ Mapping.fileEnding)

/-- The mapping in the content of a file. -/
def ofContent (category path : String) (content : Bytes) : Except Failure Mapping :=
  match Utf8.decode? content with
  | none => .error (.mappingUnreadable path .notText)
  | some _ =>
    match Json.read content with
    | .ok value => Mapping.ofJson category value
    | .error fault => .error (.mappingUnreadable path (fault.obstacle .mapped content))

/-- The mapping of a category. -/
def load (m : MappingFolder) (t : FileTree) (category : String) : Except Failure Mapping :=
  let path := m.pathFor category
  match t.read path with
  | .ok content => ofContent category path content
  | .error .notFound => .error (.mappingNotFound category path)
  | .error e => .error (.mappingUnreadable path (.refused e))

end MappingFolder

end RecordSheets
