import RecordSheets.Conversion
import RecordSheets.Program.Console

/-!
# Runs of the program

A run as a function of the arguments, the files and the clock: what is printed, how the run ends and which files there are
afterwards. A category that cannot be handled is reported and never ends a run; only the input folder, the pattern, the
output folder, the error log and the report file can.
-/

namespace RecordSheets

/-- The readings of the clock that a run shows. -/
structure Clock where
  /-- How long the run takes. -/
  elapsed : Duration
  /-- The time of the error log, in seconds since 1970. -/
  unixSeconds : Nat
  deriving DecidableEq, Repr

/-- Why a run ends early. -/
inductive Stop where
  | inputNotFound (path : String)
  | inputNotADirectory (path : String)
  | badPattern (failure : Failure)
  | notScanned (failure : Failure)
  | outputFolder (path : String) (e : SystemError)
  | errorLog (e : SystemError)
  | report (path : String) (e : SystemError)

namespace Stop

/-- A message with its cause. -/
def withCause (message cause : String) : String := message ++ "\n\nCaused by:\n    " ++ cause

def message : Stop → String
  | .inputNotFound path => s!"입력 폴더가 존재하지 않습니다: {Text.quoted path}"
  | .inputNotADirectory path => s!"입력 경로가 폴더가 아닙니다: {Text.quoted path}"
  | .badPattern failure => failure.message
  | .notScanned failure => withCause "입력 폴더 탐색 실패" failure.message
  | .outputFolder path e => withCause s!"출력 폴더를 만들 수 없습니다: {Text.quoted path}" e.message
  | .errorLog e => e.message
  | .report path e => withCause s!"보고서를 저장할 수 없습니다: {Text.quoted path}" e.message

end Stop

/-- A run, or the later part of one. -/
structure Run where
  /-- The texts printed, a line break to follow each. -/
  lines : List String
  /-- Why the run ended early, if it did. -/
  stop : Option Stop
  /-- The files afterwards. -/
  tree : FileTree

namespace Run

/-- A run that ends here. -/
def done (t : FileTree) (lines : List String) : Run := ⟨lines, none, t⟩

/-- A run that ends here, too early. -/
def halt (t : FileTree) (stop : Stop) : Run := ⟨[], some stop, t⟩

/-- A run with lines printed before. -/
def after (lines : List String) (r : Run) : Run := { r with lines := lines ++ r.lines }

/-- Writes the error log if one is wanted and goes on. -/
def withLog (o : Options) (clock : Clock) (errors : List (String × String)) (t : FileTree) (goOn : FileTree → Run) : Run :=
  match o.log with
  | none => goOn t
  | some path =>
    match t.write path (Utf8.encode (Console.errorLog clock.unixSeconds errors)) with
    | .ok t => after [s!"\n📝 에러 로그 저장: {Text.quoted path}"] (goOn t)
    | .error e => halt t (.errorLog e)

/-- Writes the report if one is wanted and goes on. -/
def withReport (o : Options) (report : Report) (t : FileTree) (goOn : FileTree → Run) : Run :=
  match o.report with
  | none => goOn t
  | some path =>
    match t.write path (Utf8.encode report.toJson.pretty) with
    | .ok t => after [s!"\n📝 실행 보고서 저장: {Text.quoted path}"] (goOn t)
    | .error e => halt t (.report path e)

/-- Makes the output folder if it is missing and goes on. -/
def withOutput (o : Options) (t : FileTree) (goOn : FileTree → Run) : Run :=
  if t.hasFolder o.output then after [s!"  📁 기존 출력 폴더 사용: {Text.quoted o.output}"] (goOn t)
  else
    match t.makeFolders o.output with
    | (t, none) => after [s!"  📁 출력 폴더 생성: {Text.quoted o.output}"] (goOn t)
    | (t, some e) => halt t (.outputFolder o.output e)

def mappings (o : Options) : MappingFolder := ⟨o.mappingDir⟩

def publisher (o : Options) : Publisher :=
  { mappings := mappings o, outputDir := o.output, mode := o.mode,
    localization := { strict := o.strictI18n, nameColumns := o.nameColumnList } }

/-- The categories whose mappings cannot be had, with the reasons. -/
def mappingErrors (o : Options) (t : FileTree) (categories : List String) : List (String × String) :=
  categories.filterMap fun category =>
    match (mappings o).load t category with
    | .ok _ => none
    | .error e => some (category, e.message)

/-- Checks the mappings of the categories. -/
def validate (o : Options) (clock : Clock) (t : FileTree) (categories : List String) : Run :=
  let errors := mappingErrors o t categories
  let good := categories.filter fun category =>
    match (mappings o).load t category with
    | .ok _ => true
    | .error _ => false
  let stats := Statistics.ticks { total := categories.length }
    (good.map (fun _ => Tick.success) ++ errors.map fun _ => Tick.error)
  after ("\n🔍 매핑 검사 중..." :: (if 0 < o.verbose then good.map fun category => s!"  ✓ {category}" else []))
    (after (Console.errors (0 < o.verbose) errors)
      (withLog o clock errors t fun t =>
        done t (Console.checkSummary stats clock.elapsed ++ Console.checkVerdict stats)))

/-- Converts the records of the categories, with the output folder at hand. -/
def publish (o : Options) (clock : Clock) (c : Catalogue) (t : FileTree) : Run :=
  let x := (publisher o).convert c t ⟨t, .ofFolder o.presetDir⟩
  let stats := Statistics.ticks { total := c.categories.length } x.steps
  let errors := x.unavailable ++ x.report.failures
  after ("\n📥 원본 레코드 로드 중..." ::
      (if 0 < o.verbose then x.unavailable.map fun (category, reason) => s!"  ⚠ {category} ({reason})" else []))
    (after ("\n💾 CSV 파일 작성 중..." :: Console.errors (0 < o.verbose) errors)
      (withLog o clock errors x.tree fun t =>
        withReport o x.report t fun t =>
          done t (Console.summary stats clock.elapsed ++ Console.files x.report.files ++ Console.verdict x.report)))

/-- Goes on with the categories of the input folder. -/
def withCatalogue (o : Options) (clock : Clock) (t : FileTree) (c : Catalogue) : Run :=
  if c.categories.isEmpty then done t Console.nothingToDo
  else
    after (Console.found c.categories.length)
      (if o.dryRun then done t (Console.dryRun c)
      else if o.validateOnly then validate o clock t c.categories
      else withOutput o t (publish o clock c))

/-- Searches the input folder and goes on. -/
def search (o : Options) (clock : Clock) (t : FileTree) : Run :=
  match CategoryFilter.ofPattern o.pattern with
  | .error e => halt t (.badPattern e)
  | .ok filter =>
    match Catalogue.scan t o.input o.maxDepth filter with
    | .error e => halt t (.notScanned e)
    | .ok c => withCatalogue o clock t c

/-- The run of some options. -/
def ofOptions (o : Options) (clock : Clock) (t : FileTree) : Run :=
  if !t.hasPath o.input then halt t (.inputNotFound o.input)
  else if !t.hasFolder o.input then halt t (.inputNotADirectory o.input)
  else after (Console.header o) (search o clock t)

/-- What is printed, every text with its line break. -/
def output (r : Run) : String := String.join (r.lines.map (· ++ "\n"))

end Run

/-- What the caller of the program sees. -/
structure Ending where
  /-- What is printed to standard output. -/
  output : String
  /-- The exit code: 0 after a whole run, 1 after one that ended early, 2 for arguments that give no options. -/
  status : Nat
  /-- What is printed to standard error about an early end. -/
  complaint : Option String
  /-- The files afterwards. -/
  tree : FileTree

namespace Program

/-- The name and the version of the program. -/
def version : String := "shipcsv 0.2.0"

/-- The short description of the options. -/
def help : String :=
  "GAME DATA TO CSV CONVERTER\n\nUsage: shipcsv [OPTIONS] --input <INPUT>\n\n" ++
  "  -i, --input <INPUT>\n  -o, --output <OUTPUT>\n      --mapping-dir <DIR>\n      --preset-dir <DIR>\n" ++
  "  -m, --mode <overwrite|error>\n  -p, --pattern <PATTERN>\n  -v, --verbose\n      --dry-run\n" ++
  "      --validate-only\n      --strict-i18n\n      --name-columns <COLUMNS>\n  -j, --threads <N>\n" ++
  "      --max-depth <N>\n      --log <FILE>\n      --report <FILE>\n  -h, --help\n  -V, --version\n"

/-- The run of the program with some arguments. -/
def run (clock : Clock) (t : FileTree) (args : List String) : Ending :=
  match CommandLine.parse args with
  | .error .displayVersion => ⟨version ++ "\n", 0, none, t⟩
  | .error .displayHelp => ⟨help, 0, none, t⟩
  | .error _ => ⟨"", 2, none, t⟩
  | .ok o =>
    let r := Run.ofOptions o clock t
    match r.stop with
    | none => ⟨r.output, 0, none, r.tree⟩
    | some stop => ⟨r.output, 1, some ("Error: " ++ stop.message), r.tree⟩

end Program

end RecordSheets
