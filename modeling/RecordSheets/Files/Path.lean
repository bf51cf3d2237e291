import RecordSheets.Text.Pieces

/-!
# Paths

Paths are texts, printed as they are given. Joining never normalises anything: an absolute second part takes the place of the
first, and otherwise one slash stands between them.
-/

namespace RecordSheets.Path

/-- Tells whether a path starts at the root. -/
def isAbsolute (path : String) : Bool := path.toList.head? == some '/'

/-- A path with a further part. -/
def join (base part : String) : String :=
  if isAbsolute part then part
  else if base.isEmpty || base.toList.getLast? == some '/' then base ++ part
  else base ++ "/" ++ part

/-- The names of a path between slashes. -/
def names (path : String) : List String := Text.cut '/' path

/-- Tells whether a name between slashes stays at its place: it is empty or a single dot. -/
def staysPut (name : String) : Bool := name == "" || name == "."

/-- The names of a path that lead to the folder which holds it. The names behind the last one that moves belong to it. -/
def namesAbove (path : String) : List String := (((names path).reverse.dropWhile staysPut).drop 1).reverse

/-- A file name cut at its last dot into stem and extension. A name whose only dot comes first has no extension. -/
def splitExtension (name : String) : String × Option String :=
  let back := name.toList.reverse
  match back.dropWhile (· != '.') with
  | [] => (name, none)
  | [_] => (name, none)
  | _ :: stem => (String.ofList stem.reverse, some (String.ofList (back.takeWhile (· != '.')).reverse))

end RecordSheets.Path
