/-!
# Log lines

What a run tells while it goes on, one line at a time.

## Main definitions

* `LogLine`: a line with its level
* `LogLine.render`: the line as text
-/

namespace KeyPlan

/-- How much a line matters. -/
inductive LogLevel where
  | debug
  | info
  | warn
  | error
  deriving DecidableEq, Repr

/-- The word for the level. -/
def LogLevel.word : LogLevel → String
  | debug => "DEBUG"
  | info => "INFO"
  | warn => "WARN"
  | error => "ERROR"

/-- **A line of the log.** -/
structure LogLine where
  level : LogLevel
  text : String
  deriving DecidableEq, Repr

/-- The line as text: its level, a space and what it says. -/
def LogLine.render (l : LogLine) : String := l.level.word ++ " " ++ l.text

end KeyPlan
