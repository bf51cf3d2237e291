import RecordSheets.Program.Run
import Std.Time.DateTime.Timestamp

/-!
# The program

The outer layer: reads from the disk what a run may look at, lets the run happen on that value and carries its changes
over to the disk.
-/

namespace RecordSheets.Disk

/-- A file or folder of the disk, put at its place in a tree. Files are taken whole; folders without what lies in them. -/
def observe (t : FileTree) (place : Place) : IO FileTree := do
  let path := "/" ++ String.intercalate "/" place
  let root ← IO.currentDir
  if ← (root / path).isDir then return t.put place .folder
  if ← (root / path).pathExists then return t.put place (.file (← IO.FS.readBinFile path).toList)
  return t

/-- The place that names lead to, and all places on the way to it, the latest first. -/
def way (start : Place) (names : List String) : List Place :=
  names.foldl (fun places name =>
    let p := places.headD []
    if name = "" ∨ name = "." then places
    else if name = ".." then p.dropLast :: places
    else (p ++ [name]) :: places) [start]

/-- All that is on the way of a path, and what it leads to. -/
def observeWay (t : FileTree) (path : String) : IO FileTree :=
  (way (t.origin path) (Path.names path)).reverse.foldlM observe t

/-- All that lies in a folder, down to a depth. -/
def observeBelow (t : FileTree) (place : Place) : Nat → IO FileTree
  | 0 => return t
  | depth + 1 => do
    let path := "/" ++ String.intercalate "/" place
    let root ← IO.currentDir
    if !(← (root / path).isDir) then return t
    let mut tree := t
    for entry in ← (root / path).readDir do
      let inner := place ++ [entry.fileName]
      tree ← observe tree inner
      tree ← observeBelow tree inner depth
    return tree

/-- A folder with what lies in it, down to a depth. -/
def observeFolder (t : FileTree) (path : String) (depth : Nat) : IO FileTree := do
  let t ← observeWay t path
  observeBelow t ((way (t.origin path) (Path.names path)).headD []) depth

/-- Deeper folders than this are not looked at: no path reaches them. -/
def depthLimit : Nat := 2048

/-- All that the run of some options may look at. -/
def survey (o : Options) : IO FileTree := do
  let here := ((Path.names (← IO.currentDir).toString).filter (· != ""))
  let t := FileTree.ofFolder here
  let t ← observeFolder t o.input (min (o.maxDepth.getD depthLimit) depthLimit)
  let t ← observeFolder t o.mappingDir 1
  let t ← observeFolder t o.presetDir 1
  let t ← observeFolder t o.output 1
  let t ← (o.log.toList ++ o.report.toList).foldlM observeWay t
  return t

/-- Carries the differences between two trees over to the disk, folders before what lies in them. -/
def apply (before after : FileTree) : IO Unit := do
  for (place, entry) in after.below [] do
    if before.look? place != some entry then
      let path := "/" ++ String.intercalate "/" place
      match entry with
      | .folder => IO.FS.createDirAll path
      | .file content => IO.FS.writeBinFile path content.toByteArray

end RecordSheets.Disk

open RecordSheets

/-- Runs the program. -/
def main (args : List String) : IO UInt32 := do
  let start ← IO.monoNanosNow
  let before ← match CommandLine.parse args with
    | .ok o => Disk.survey o
    | .error _ => pure (FileTree.ofFolder [])
  let elapsed := (← IO.monoNanosNow) - start
  let now ← Std.Time.Timestamp.now
  let clock : Clock := ⟨⟨elapsed / 1000000000, elapsed % 1000000000⟩, now.toSecondsSinceUnixEpoch.val.toNat⟩
  let ending := Program.run clock before args
  Disk.apply before ending.tree
  IO.print ending.output
  if let some complaint := ending.complaint then IO.eprintln complaint
  return ending.status.toUInt32
