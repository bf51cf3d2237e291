import RecordSheets.Files.FileTree
import RecordSheets.Files.Path
import RecordSheets.Files.SystemError

/-!
# Access by path

Reading, writing and making folders by path, with the errors of the system. A path is followed name by name; an empty name
and a single dot stay at the place, two dots go up.

The tree consists of folders and plain files, so there are no links, devices or permissions in it, and no disk that gets full. Opening a
file and writing it is one step (`write`, `writeNew`): whether it goes well is settled when the file is opened, and a file that was opened
takes all of its content. What is proved of publishing rests on this.
-/

namespace RecordSheets.FileTree

/-- The longest name in bytes. -/
def nameLimit : Nat := 255

/-- The longest path in bytes. -/
def pathLimit : Nat := 4095

/-- The place that a name leads to from a place. -/
def step (t : FileTree) (p : Place) (name : String) : Except SystemError Place :=
  match t.at? p with
  | none => .error .notFound
  | some (.file _) => .error .notDirectory
  | some (.folder children) =>
    if Path.staysPut name then .ok p
    else if name = ".." then .ok p.dropLast
    else if nameLimit < name.utf8ByteSize then .error .nameTooLong
    else if (children.lookup name).isSome then .ok (p ++ [name])
    else .error .notFound

/-- The place that names lead to from a place. -/
def follow (t : FileTree) (p : Place) (names : List String) : Except SystemError Place := names.foldlM t.step p

/-- The place that a path starts from. -/
def origin (t : FileTree) (path : String) : Place := if Path.isAbsolute path then [] else t.here

/-- Refuses texts that are no paths. -/
def checkPath (path : String) : Except SystemError Unit :=
  if path.toList.contains (Char.ofNat 0) then .error .nulInPath
  else if path.isEmpty then .error .notFound
  else if pathLimit < path.utf8ByteSize then .error .nameTooLong
  else .ok ()

/-- The place that a path leads to. -/
def locate (t : FileTree) (path : String) : Except SystemError Place := do
  checkPath path
  t.follow (t.origin path) (Path.names path)

/-- What a path leads to. -/
def find (t : FileTree) (path : String) : Except SystemError Entry := do
  let p ← t.locate path
  match t.look? p with
  | some e => .ok e
  | none => .error .notFound

/-- Tells whether a path leads to something. -/
def hasPath (t : FileTree) (path : String) : Bool :=
  match t.find path with
  | .ok _ => true
  | .error _ => false

def hasFolder (t : FileTree) (path : String) : Bool :=
  match t.find path with
  | .ok .folder => true
  | _ => false

def hasFile (t : FileTree) (path : String) : Bool :=
  match t.find path with
  | .ok (.file _) => true
  | _ => false

/-- The content of the file that a path leads to. -/
def read (t : FileTree) (path : String) : Except SystemError Bytes := do
  match ← t.find path with
  | .file content => .ok content
  | .folder => .error .isDirectory

/-- Where something is to be made: a folder that is there and a name in it. -/
structure Site where
  /-- The folder. -/
  parent : Place
  /-- The name in the folder. -/
  name : String
  /-- Whether the path has a slash behind the name. -/
  slashed : Bool
  deriving DecidableEq, Repr

/-- The names of a path without the empty ones behind the last name. -/
def trimmedNames (path : String) : List String := ((Path.names path).reverse.dropWhile (· == "")).reverse

def Site.place (s : Site) : Place := s.parent ++ [s.name]

/-- Tells whether the name of a site is one that always leads to a folder. -/
def Site.isDots (s : Site) : Bool := s.name == "." || s.name == ".."

/-- The site of a path. -/
def site (t : FileTree) (path : String) : Except SystemError Site := do
  checkPath path
  let names := trimmedNames path
  let parent ← t.follow (t.origin path) names.dropLast
  match t.look? parent with
  | none => .error .notFound
  | some (.file _) => .error .notDirectory
  | some .folder => .ok ⟨parent, names.getLast?.getD ".", names.length < (Path.names path).length⟩

/-- Writes a file, in place of one that is there. -/
def write (t : FileTree) (path : String) (content : Bytes) : Except SystemError FileTree := do
  let s ← t.site path
  if s.slashed || s.isDots then .error .isDirectory
  else if nameLimit < s.name.utf8ByteSize then .error .nameTooLong
  else if t.isFolder s.place then .error .isDirectory
  else .ok (t.put s.place (.file content))

/-- Writes a file where nothing is yet. Dots always lead to something, also with a slash behind them. -/
def writeNew (t : FileTree) (path : String) (content : Bytes) : Except SystemError FileTree := do
  let s ← t.site path
  if s.isDots then .error .alreadyThere
  else if s.slashed then .error .isDirectory
  else if nameLimit < s.name.utf8ByteSize then .error .nameTooLong
  else if (t.look? s.place).isSome then .error .alreadyThere
  else .ok (t.put s.place (.file content))

/-- Makes a folder in a folder. -/
def makeFolder (t : FileTree) (path : String) : Except SystemError FileTree := do
  let s ← t.site path
  if s.isDots then .error .alreadyThere
  else if nameLimit < s.name.utf8ByteSize then .error .nameTooLong
  else if (t.look? s.place).isSome then .error .alreadyThere
  else .ok (t.put s.place .folder)

/-- Goes from a folder to the folders of some names and makes those that are missing. A file in the way is one that is already
there. Folders made before an error stay. -/
def makeOn (t : FileTree) (p : Place) : List String → FileTree × Except SystemError Place
  | [] => (t, .ok p)
  | name :: rest =>
    match t.step p name with
    | .ok q => if t.isFolder q then makeOn t q rest else (t, .error .alreadyThere)
    | .error .notFound => makeOn (t.put (p ++ [name]) .folder) (p ++ [name]) rest
    | .error e => (t, .error e)

/-- Follows names from a place up to the first folder that is missing, and makes folders from there on. -/
def followMaking (t : FileTree) (p : Place) : List String → FileTree × Except SystemError Place
  | [] => (t, .ok p)
  | name :: rest =>
    match t.step p name with
    | .ok q => followMaking t q rest
    | .error e => if e = .notFound ∧ t.isFolder p then makeOn t p (name :: rest) else (t, .error e)

/-- Makes a folder and the folders above it that are missing. A folder that is there already does no harm. A path that ends
with a dot names no folder to make, so it has to lead to one that is there. -/
def makeFolders (t : FileTree) (path : String) : FileTree × Option SystemError :=
  match checkPath path with
  | .error e => (t, some e)
  | .ok () =>
    match t.followMaking (t.origin path) (Path.namesAbove path) with
    | (t, .error e) => (t, some e)
    | (t, .ok _) =>
      match t.makeFolder path with
      | .ok made => (made, none)
      | .error e => (t, if e = .alreadyThere ∧ t.hasFolder path then none else some e)

/-- Removes what a path leads to, with all that lies below it. -/
def remove (t : FileTree) (path : String) : Except SystemError FileTree := do
  let p ← t.locate path
  .ok (t.prune p)

/-- The paths of all that lies below the folder that relative paths start from, in order; those of folders end with a
slash. -/
def listing (t : FileTree) : List String :=
  ((t.below t.here).map fun x => String.intercalate "/" x.1 ++ (if x.2 = .folder then "/" else "")).mergeSort
    fun a b => a ≤ b

end RecordSheets.FileTree
