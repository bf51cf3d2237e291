import RecordSheets.Files.SystemError
import RecordSheets.Json.Fault
import RecordSheets.Json.Printer

/-!
# Failures

Everything that can go wrong with a category or with the whole input, as causes with one wording each.
-/

namespace RecordSheets

/-- Why the content of a file is not a JSON document. -/
inductive Obstacle where
  /-- The system refused to read the file. -/
  | refused (e : SystemError)
  /-- The file is not UTF-8. -/
  | notText
  /-- The text is no document, for a cause at a line and a column. -/
  | fault (cause : Json.Cause) (line column : Nat)
  deriving DecidableEq, Repr

def Obstacle.message : Obstacle → String
  | .refused e => e.message
  | .notText => "stream did not contain valid UTF-8"
  | .fault cause line column => s!"{cause.message} at line {line} column {column}"

/-- The obstacle that a fault in a text is. -/
def Json.Fault.obstacle (f : Json.Fault) (reading : Json.Reading) (text : Bytes) : Obstacle :=
  let place := f.place reading text
  .fault f.cause place.1 place.2

/-- Why a JSON document is no mapping. -/
inductive MappingFlaw where
  | notAnObject
  /-- The path of the i18n tokens is not a string. -/
  | tokenPathNotAString (found : Json)

def MappingFlaw.message : MappingFlaw → String
  | .notAnObject => "매핑은 JSON 객체여야 합니다"
  | .tokenPathNotAString found => s!"i18nkey 값이 문자열이 아닙니다: {found.compact}"

/-- Why a category, or the input as a whole, could not be handled. -/
inductive Failure where
  | inputNotFound (path : String)
  | inputNotADirectory (path : String)
  | mappingNotFound (category path : String)
  | mappingUnreadable (path : String) (obstacle : Obstacle)
  | mappingFlawed (category : String) (flaw : MappingFlaw)
  | sourceNotOpened (path : String) (e : SystemError)
  | sourceNotMapped (path : String) (e : SystemError)
  | sourceUnreadable (path : String) (obstacle : Obstacle)
  | sourceNotAList (path : String)
  | outputExists (path : String)
  | outputNotWritten (path : String) (e : SystemError)
  | invalidPattern (pattern : String)

/-- The wording of a failure. -/
def Failure.message : Failure → String
  | .inputNotFound path => s!"입력 폴더를 찾을 수 없습니다: {path}"
  | .inputNotADirectory path => s!"입력 경로가 폴더가 아닙니다: {path}"
  | .mappingNotFound category path => s!"매핑 파일을 찾을 수 없습니다 ({category}): {path}"
  | .mappingUnreadable path obstacle => s!"매핑 파일 파싱 실패 ({path}): {obstacle.message}"
  | .mappingFlawed category flaw => s!"잘못된 매핑 ({category}): {flaw.message}"
  | .sourceNotOpened path e => s!"파일을 열 수 없습니다 ({path}): {e.message}"
  | .sourceNotMapped path e => s!"파일을 열 수 없습니다 ({path}): 메모리 매핑 실패: {e.message}"
  | .sourceUnreadable path obstacle => s!"JSON 파싱 실패 ({path}): {obstacle.message}"
  | .sourceNotAList path => s!"레코드 데이터가 배열이 아닙니다: {path}"
  | .outputExists path => s!"출력 파일이 이미 존재합니다: {path}"
  | .outputNotWritten path e => s!"파일 쓰기 실패 ({path}): {e.message}"
  | .invalidPattern pattern => s!"유효하지 않은 패턴: {pattern}"

end RecordSheets
