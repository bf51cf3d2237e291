/-!
# System errors

The ways in which the file system refuses a request, with their numbers and wordings.
-/

namespace RecordSheets

/-- Why the file system refused a request. -/
inductive SystemError where
  | notFound
  | alreadyThere
  | noDevice
  | notDirectory
  | isDirectory
  | nameTooLong
  /-- A path holds the character NUL. -/
  | nulInPath
  deriving DecidableEq, Repr

def SystemError.message : SystemError → String
  | .notFound => "No such file or directory (os error 2)"
  | .alreadyThere => "File exists (os error 17)"
  | .noDevice => "No such device (os error 19)"
  | .notDirectory => "Not a directory (os error 20)"
  | .isDirectory => "Is a directory (os error 21)"
  | .nameTooLong => "File name too long (os error 36)"
  | .nulInPath => "file name contained an unexpected NUL byte"

end RecordSheets
