/-!
# Verbosity

How many details of a run are told.
-/

namespace RecordSheets

/-- The least level of the messages that are told. -/
inductive LogLevel where
  | warn
  | info
  | debug
  deriving DecidableEq, Repr

namespace LogLevel

/-- The level that a number of requests for more details chooses. -/
def ofVerbosity : Nat → LogLevel
  | 0 => .warn
  | 1 => .info
  | _ => .debug

def label : LogLevel → String
  | .warn => "WARN"
  | .info => "INFO"
  | .debug => "DEBUG"

end LogLevel

end RecordSheets
