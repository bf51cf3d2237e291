import RecordSheets.Text.Blank
import RecordSheets.Text.Digits
import RecordSheets.Text.Pieces

/-!
# Command line

The options of the program and how arguments give them. An option has a value, attached to it or in the next argument; a
switch has none. The value in a next argument is checked only when the next option or switch comes, or at the end: an
unknown argument before that is reported first.
-/

namespace RecordSheets

/-- What happens to a sheet's file that is there already. -/
inductive WriteMode where
  /-- It is replaced. -/
  | overwrite
  /-- It stays and the category fails. -/
  | error
  deriving DecidableEq, Repr

def WriteMode.label : WriteMode → String
  | .overwrite => "Overwrite"
  | .error => "Error"

/-- The options of a run. -/
structure Options where
  /-- The folder with the record files. -/
  input : String := ""
  /-- The folder for the sheets. -/
  output : String := "data"
  /-- The folder with the mappings. -/
  mappingDir : String := "mapping"
  /-- The folder with the glossaries. -/
  presetDir : String := "preset"
  /-- What happens to a sheet's file that is there already. -/
  mode : WriteMode := .overwrite
  /-- The pattern of the categories to take. -/
  pattern : Option String := none
  /-- How often more details were asked for, up to 255 times. -/
  verbose : Nat := 0
  /-- Whether the categories are only listed. -/
  dryRun : Bool := false
  /-- Whether the mappings are only checked. -/
  validateOnly : Bool := false
  /-- Whether an i18n token has to be the whole cell. -/
  strictI18n : Bool := false
  /-- The columns whose names are replaced, with commas between them. -/
  nameColumns : Option String := none
  /-- The number of threads. -/
  threads : Option Nat := none
  /-- How deep folders are searched. -/
  maxDepth : Option Nat := none
  /-- The file for the error log. -/
  log : Option String := none
  /-- The file for the report. -/
  report : Option String := none
  deriving DecidableEq, Repr

/-- The names in a list with commas between them, trimmed and without the blank ones. -/
def columnList (text : String) : List String :=
  (((Text.pieces ',' text.toList).map Text.strip).filter fun name => !name.isEmpty).map String.ofList

/-- The columns whose names are replaced, as a list. -/
def Options.nameColumnList (o : Options) : Option (List String) := o.nameColumns.map columnList

/-- Why arguments give no options. Asking for help or for the version is one of the reasons. -/
inductive UsageError where
  /-- A value is missing, empty or none of the possible ones. -/
  | invalidValue
  /-- A value is no number. -/
  | valueValidation
  | unknownArgument
  /-- An option or switch came twice. -/
  | argumentConflict
  /-- A value is attached to a switch. -/
  | tooManyValues
  /-- There is no input folder. -/
  | missingInput
  | displayHelp
  | displayVersion
  deriving DecidableEq, Repr

namespace CommandLine

/-- The options, which take a value. -/
inductive Opt where
  | input
  | output
  | mappingDir
  | presetDir
  | mode
  | pattern
  | nameColumns
  | threads
  | maxDepth
  | log
  | report
  deriving DecidableEq, Repr

/-- The switches, which take none. -/
inductive Switch where
  | verbose
  | dryRun
  | validateOnly
  | strictI18n
  | help
  | version
  deriving DecidableEq, Repr

/-- What a name on the command line stands for. -/
inductive Key where
  | opt (o : Opt)
  | switch (s : Switch)
  deriving DecidableEq, Repr

/-- The names behind two hyphens. -/
def longKeys : List (String × Key) := [
  ("input", .opt .input), ("output", .opt .output), ("mapping-dir", .opt .mappingDir), ("preset-dir", .opt .presetDir),
  ("mode", .opt .mode), ("pattern", .opt .pattern), ("name-columns", .opt .nameColumns), ("threads", .opt .threads),
  ("max-depth", .opt .maxDepth), ("log", .opt .log), ("report", .opt .report), ("verbose", .switch .verbose),
  ("dry-run", .switch .dryRun), ("validate-only", .switch .validateOnly), ("strict-i18n", .switch .strictI18n),
  ("help", .switch .help), ("version", .switch .version)]

/-- The letters behind one hyphen. -/
def shortKeys : List (Char × Key) := [
  ('i', .opt .input), ('o', .opt .output), ('m', .opt .mode), ('p', .opt .pattern), ('j', .opt .threads),
  ('v', .switch .verbose), ('h', .switch .help), ('V', .switch .version)]

/-- How far the arguments have been read. -/
structure Progress where
  /-- The options so far. -/
  options : Options := {}
  /-- The options and switches that came, the repeatable one apart. -/
  given : List Key := []
  /-- An option whose value is not checked yet, with the value if it came. -/
  pending : Option (Opt × Option String) := none
  /-- Whether a lone pair of hyphens came. -/
  ended : Bool := false
  deriving DecidableEq, Repr

/-- A path value, which must not be empty. -/
def pathValue (value : String) : Except UsageError String := if value.isEmpty then .error .invalidValue else .ok value

def numberValue (value : String) : Except UsageError Nat :=
  match Text.unsigned? value.toList with
  | some n => .ok n
  | none => .error .valueValidation

def modeValue (value : String) : Except UsageError WriteMode :=
  if value = "overwrite" then .ok .overwrite
  else if value = "error" then .ok .error
  else .error .invalidValue

/-- The options with one more value. -/
def setValue (o : Options) (key : Opt) (value : String) : Except UsageError Options :=
  match key with
  | .input => (pathValue value).map fun path => { o with input := path }
  | .output => (pathValue value).map fun path => { o with output := path }
  | .mappingDir => (pathValue value).map fun path => { o with mappingDir := path }
  | .presetDir => (pathValue value).map fun path => { o with presetDir := path }
  | .mode => (modeValue value).map fun mode => { o with mode := mode }
  | .pattern => .ok { o with pattern := some value }
  | .nameColumns => .ok { o with nameColumns := some value }
  | .threads => (numberValue value).map fun n => { o with threads := some n }
  | .maxDepth => (numberValue value).map fun n => { o with maxDepth := some n }
  | .log => (pathValue value).map fun path => { o with log := some path }
  | .report => (pathValue value).map fun path => { o with report := some path }

namespace Progress

/-- Notes that an option or switch came, which it may do once. -/
def note (p : Progress) (key : Key) : Except UsageError Progress :=
  if p.given.contains key then .error .argumentConflict else .ok { p with given := key :: p.given }

/-- Takes the value of an option. -/
def take (p : Progress) (key : Opt) (value : String) : Except UsageError Progress := do
  let p ← p.note (.opt key)
  let options ← setValue p.options key value
  return { p with options := options }

/-- Checks the value that waits for it. -/
def settle (p : Progress) : Except UsageError Progress :=
  match p.pending with
  | none => .ok p
  | some (_, none) => .error .invalidValue
  | some (key, some value) => { p with pending := none }.take key value

/-- Takes an option with the value attached to it, if there is one. -/
def option (p : Progress) (key : Opt) (attached : Option String) : Except UsageError Progress := do
  let p ← p.settle
  match attached with
  | some value => p.take key value
  | none => return { p with pending := some (key, none) }

def switch (p : Progress) (key : Switch) : Except UsageError Progress := do
  let p ← p.settle
  match key with
  | .help => .error .displayHelp
  | .version => .error .displayVersion
  | .verbose => return { p with options := { p.options with verbose := min (p.options.verbose + 1) 255 } }
  | .dryRun => return { (← p.note (.switch key)) with options := { p.options with dryRun := true } }
  | .validateOnly => return { (← p.note (.switch key)) with options := { p.options with validateOnly := true } }
  | .strictI18n => return { (← p.note (.switch key)) with options := { p.options with strictI18n := true } }

/-- Takes an argument behind two hyphens. -/
def long (p : Progress) (cs : List Char) : Except UsageError Progress :=
  let name := cs.takeWhile (· != '=')
  let attached := match cs.dropWhile (· != '=') with
    | [] => none
    | _ :: value => some (String.ofList value)
  match longKeys.lookup (String.ofList name) with
  | none => .error .unknownArgument
  | some (.opt key) => p.option key attached
  | some (.switch key) => if attached.isSome then .error .tooManyValues else p.switch key

/-- Takes the letters behind one hyphen: switches, and then perhaps an option with the rest as its value. -/
def short (p : Progress) : List Char → Except UsageError Progress
  | [] => .ok p
  | c :: rest =>
    match shortKeys.lookup c with
    | none => .error .unknownArgument
    | some (.switch key) => (p.switch key).bind fun p => short p rest
    | some (.opt key) =>
      p.option key (if rest.isEmpty then none else some (String.ofList (Text.dropLeading '=' rest)))

/-- Takes an argument that is neither an option nor a switch: the value of the option before it. -/
def bare (p : Progress) (arg : String) : Except UsageError Progress :=
  match p.pending with
  | some (key, none) => if p.ended then .error .unknownArgument else .ok { p with pending := some (key, some arg) }
  | _ => .error .unknownArgument

/-- Takes one argument. -/
def step (p : Progress) (arg : String) : Except UsageError Progress :=
  if p.ended then p.bare arg
  else
    match arg.toList with
    | ['-', '-'] => .ok { p with ended := true }
    | '-' :: '-' :: cs => p.long cs
    | ['-'] => p.bare arg
    | '-' :: cs => p.short cs
    | _ => p.bare arg

/-- The options at the end of the arguments. -/
def finish (p : Progress) : Except UsageError Options := do
  let p ← p.settle
  if p.given.contains (.opt .input) then return p.options else .error .missingInput

end Progress

/-- The options that arguments give. -/
def parse (args : List String) : Except UsageError Options :=
  (args.foldlM Progress.step {}).bind Progress.finish

end CommandLine

end RecordSheets
