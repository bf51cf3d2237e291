import RecordSheets.Catalogue
import RecordSheets.CommandLine
import RecordSheets.Csv
import RecordSheets.MappingFolder
import RecordSheets.Outcome
import RecordSheets.Preset
import RecordSheets.Sheet

/-!
# Publishing sheets

A publisher makes the sheet of a category from its records and writes it to a file of a folder. What goes wrong with one
category never keeps another from being written.
-/

namespace RecordSheets

/-- Where sheets come from and go to, and how they are made. -/
structure Publisher where
  /-- The folder with the mappings. -/
  mappings : MappingFolder
  /-- The folder for the sheets. -/
  outputDir : String
  /-- What happens to a sheet's file that is there already. -/
  mode : WriteMode := .overwrite
  /-- Whether the sheets start with a byte order mark. -/
  mark : Bool := true
  /-- How far localization goes. -/
  localization : Localization := {}
  deriving DecidableEq, Repr

/-- What publishing works on: the files, and the presets as far as they were read. -/
structure Desk where
  /-- The files. -/
  tree : FileTree
  /-- The presets as far as they were read. -/
  presets : PresetStore
  deriving Repr

namespace Publisher

/-- The path of a category's sheet. -/
def outputPath (p : Publisher) (category : String) : String := Path.join p.outputDir (category ++ ".csv")

/-- The files with a sheet written. -/
def save (mode : WriteMode) (t : FileTree) (path : String) (content : Bytes) : Except Failure FileTree :=
  match mode with
  | .overwrite =>
    match t.write path content with
    | .ok t => .ok t
    | .error e => .error (.outputNotWritten path e)
  | .error =>
    match t.writeNew path content with
    | .ok t => .ok t
    | .error .alreadyThere => .error (.outputExists path)
    | .error e => .error (.outputNotWritten path e)

/-- The content of a sheet's file, given its CSV text. -/
def content (p : Publisher) (csv : String) : Bytes := Utf8.encode (if p.mark then Csv.withMark csv else csv)

/-- Makes and writes the sheet of a category. The presets are read when the mapping has been had, even if there are no
records. -/
def publish (p : Publisher) (desk : Desk) (category : String) (records : List Json) : Outcome × Desk :=
  match p.mappings.load desk.tree category with
  | .error e => (.failed e.message, desk)
  | .ok mapping =>
    let (presets, store) := desk.presets.get desk.tree
    let desk := { desk with presets := store }
    let rows := mapping.sheet presets p.localization records
    match Csv.write rows mapping.columnNames with
    | .error misfit => (.failed misfit.message, desk)
    | .ok csv =>
      if csv.isEmpty then (.empty, desk)
      else
        let path := p.outputPath category
        let content := p.content csv
        match save p.mode desk.tree path content with
        | .ok tree => (.written path rows.length content.length, { desk with tree := tree })
        | .error e => (.failed e.message, desk)

/-- Publishes the categories of a batch one after the other. -/
def publishAll (p : Publisher) (desk : Desk) : List CategoryRecords → List Outcome × Desk
  | [] => ([], desk)
  | entry :: rest =>
    let (outcome, desk) := p.publish desk entry.category entry.records
    let (outcomes, desk) := publishAll p desk rest
    (outcome :: outcomes, desk)

end Publisher

/-- The report on a batch with its outcomes. -/
def Report.ofBatch (batch : List CategoryRecords) (outcomes : List Outcome) : Report :=
  (batch.zip outcomes).foldl (fun report (entry, outcome) => report.record entry.category outcome) {}

end RecordSheets
