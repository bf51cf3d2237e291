import RecordSheets.Catalogue
import RecordSheets.CommandLine
import RecordSheets.Statistics
import RecordSheets.Text.Quoted

/-!
# Console texts

What a run prints, as the texts of its lines. A text may hold line breaks of its own; an empty line is put before a new
part by one in front.
-/

namespace RecordSheets.Console

/-- The line that divides parts. -/
def rule : String := String.ofList (List.replicate 50 '═')

/-- The lines at the start of a run. -/
def header (o : Options) : List String :=
  ["\n" ++ rule, " 🏴‍☠️ GAME DATA TO CSV CONVERTER", rule, s!"  📂 입력 폴더: {Text.quoted o.input}",
    s!"  🗺️ 매핑 폴더: {Text.quoted o.mappingDir}"] ++
  (if o.validateOnly then []
    else [s!"  🈶 프리셋 폴더: {Text.quoted o.presetDir}", s!"  📄 출력 폴더: {Text.quoted o.output}",
      s!"  ⚙️ 모드: {o.mode.label}"]) ++
  (match o.pattern with
    | some pattern => [s!"  🔍 패턴 필터: {pattern}"]
    | none => []) ++
  (match o.nameColumns with
    | some columns => [s!"  🎯 이름 치환 컬럼: {columns}"]
    | none => []) ++
  (if o.strictI18n then ["  🔒 i18n 정확 일치 모드"] else []) ++
  (match o.maxDepth with
    | some depth => [s!"  📏 최대 깊이: {depth}"]
    | none => []) ++
  (if o.dryRun then ["  ⚠️ 드라이런 모드 (실제 변환 없음)"] else []) ++
  (if o.validateOnly then ["  🔍 매핑 검사 모드"] else []) ++
  [rule, "\n📁 카테고리 검색 중..."]

def nothingToDo : List String := ["⚠️ 처리할 카테고리가 없습니다."]

/-- The line that counts the categories. -/
def found (count : Nat) : List String := [s!"  📋 발견된 카테고리 수: {count}"]

/-- The last name of a path. -/
def fileName (path : String) : String := ((Path.names path).getLast?).getD ""

/-- The lines of a list of categories, numbered from a number on. -/
def planned (c : Catalogue) (number : Nat) : List String → List String
  | [] => []
  | category :: rest =>
    let endpoint := (endpointOf? category).getD "-"
    let file := ((c.pathFor? category).map fileName).getD ""
    s!"  {number}. {category} ({endpoint}) <- {file}" :: planned c (number + 1) rest

def dryRun (c : Catalogue) : List String :=
  ["\n📋 처리 예정 카테고리 목록:"] ++ planned c 1 c.categories ++
  [s!"\nℹ️ 총 {c.categories.length} 개의 카테고리가 처리될 예정입니다."]

/-- The lines of the categories that could not be handled; the reasons only if details are wanted. -/
def errors (detailed : Bool) (errors : List (String × String)) : List String :=
  if errors.isEmpty then []
  else
    "\n❌ 처리하지 못한 카테고리:" ::
      errors.flatMap fun (category, reason) => s!"  • {category}" :: (if detailed then [s!"    {reason}"] else [])

/-- The lines that sum up a conversion. -/
def summary (s : Statistics) (elapsed : Duration) : List String :=
  ["\n" ++ rule, " 📊 처리 통계", rule, s!"  📁 전체 카테고리: {s.total}", s!"  ✅ 성공:          {s.success}",
    if 0 < s.error then s!"  ❌ 실패:          {s.error}" else "  ✅ 실패:          0"] ++
  (if 0 < s.empty then [s!"  ⚠️ 데이터 없음:   {s.empty}"] else []) ++
  (if 0 < s.unavailable then [s!"  ⚠️ 소스 없음:     {s.unavailable}"] else []) ++
  [s!"  🧾 출력 행 수:    {s.rows}", s!"  📤 출력 용량:     {byteText s.bytes.toNat}"] ++
  (if 0 < s.total then [s!"  📈 성공률:        {s.successRate}%"] else []) ++
  [s!"  ⏱️ 처리 시간:     {elapsed.text}", rule]

/-- The lines that sum up a check of mappings. -/
def checkSummary (s : Statistics) (elapsed : Duration) : List String :=
  ["\n" ++ rule, " 🔍 매핑 검사 결과", rule, s!"  📁 전체 카테고리: {s.total}", s!"  ✅ 유효:          {s.success}",
    if 0 < s.error then s!"  ❌ 무효:          {s.error}" else "  ✅ 무효:          0",
    s!"  ⏱️ 검사 시간:     {elapsed.text}", rule]

/-- The last line of a check of mappings. -/
def checkVerdict (s : Statistics) : List String :=
  if s.error = 0 then ["\n✅ 모든 매핑이 유효합니다!\n"] else [s!"\n⚠️ {s.error} 개의 매핑에 오류가 있습니다.\n"]

/-- The lines of the files that were written. -/
def files (paths : List String) : List String :=
  if paths.isEmpty then [] else "\n📄 생성된 파일:" :: paths.map fun path => s!"  - {path}"

/-- The last line of a conversion. -/
def verdict (r : Report) : List String :=
  [s!"\n✨ 완료: 성공 {r.success} / 실패 {r.failed} / 데이터 없음 {r.empty}\n"]

/-- The content of the error log. -/
def errorLog (unixSeconds : Nat) (errors : List (String × String)) : String :=
  s!"shipcsv 에러 로그\n생성 시간: Unix timestamp: {unixSeconds}\n총 에러 수: {errors.length}\n" ++
    String.ofList (List.replicate 50 '=') ++ "\n" ++
    String.join (errors.map fun (category, reason) => s!"\n카테고리: {category}\n에러: {reason}\n")

end RecordSheets.Console
