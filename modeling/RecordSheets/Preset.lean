import RecordSheets.Files.Access
import RecordSheets.Glossary
import RecordSheets.Json.Reader

/-!
# Preset files

The glossaries are read from two files of a folder, once for a run, when they are first wanted. A file that cannot be
read, or that holds no JSON object, gives an empty glossary.
-/

namespace RecordSheets

/-- The members of the JSON object in a file, if it holds one. -/
def FileTree.readTable? (t : FileTree) (path : String) : Option Fields :=
  match t.read path with
  | .error _ => none
  | .ok content =>
    match Utf8.decode? content with
    | none => none
    | some _ =>
      match Json.read content with
      | .ok v => v.fields?
      | .error _ => none

namespace Presets

/-- The name of the file with the names. -/
def nameFile : String := "name.json"

/-- The name of the file with the i18n texts. -/
def textFile : String := "i18n.json"

/-- The presets in a folder. -/
def load (t : FileTree) (dir : String) : Presets :=
  ⟨((t.readTable? (Path.join dir nameFile)).map Glossary.names).getD .empty,
    ((t.readTable? (Path.join dir textFile)).map Glossary.texts).getD .empty⟩

end Presets

/-- The presets of a folder, read when they are first wanted. -/
structure PresetStore where
  /-- The folder. -/
  dir : String
  /-- The presets, once they were wanted. -/
  loaded : Option Presets
  deriving DecidableEq, Repr

namespace PresetStore

/-- A store that has not read anything yet. -/
def ofFolder (dir : String) : PresetStore := ⟨dir, none⟩

/-- A store that holds its presets from the start. -/
def ofPresets (presets : Presets) : PresetStore := ⟨"", some presets⟩

/-- Tells whether the presets were wanted before. -/
def isLoaded (s : PresetStore) : Bool := s.loaded.isSome

/-- The presets of a store, read now if this is the first time, and the store after that. -/
def get (s : PresetStore) (t : FileTree) : Presets × PresetStore :=
  match s.loaded with
  | some presets => (presets, s)
  | none =>
    let presets := Presets.load t s.dir
    (presets, { s with loaded := some presets })

end PresetStore

end RecordSheets
