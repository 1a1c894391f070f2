/-!
# Log lines

A pass keeps its log as data. Each line has a level and a text.
-/

set_option autoImplicit false

namespace RecordSynthesis

/-- How important a log line is. -/
inductive LogLevel where
  | debug
  | info
  | warn
  | error
  deriving DecidableEq, Inhabited

/-- The name of a level. -/
def LogLevel.name : LogLevel → String
  | .debug => "DEBUG"
  | .info => "INFO"
  | .warn => "WARN"
  | .error => "ERROR"

/-- A line of the log. -/
structure LogLine where
  level : LogLevel
  text : String
  deriving DecidableEq, Inhabited

/-- A line with its level in front. -/
def LogLine.print (l : LogLine) : String := l.level.name ++ " " ++ l.text

end RecordSynthesis
