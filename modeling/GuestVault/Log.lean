/-!
# Log

What a job says while it runs, with a level of importance.
-/

namespace GuestVault

/-- How important a message is. -/
inductive LogLevel where
  | error
  | warn
  | info
  | debug
  | trace
deriving Repr, DecidableEq

namespace LogLevel

/-- The place of a level; more important ones come first. -/
def rank : LogLevel → Nat
  | .error => 1
  | .warn => 2
  | .info => 3
  | .debug => 4
  | .trace => 5

/-- The tag at the front of a line, five characters wide. -/
def tag : LogLevel → String
  | .error => "ERROR"
  | .warn => " WARN"
  | .info => " INFO"
  | .debug => "DEBUG"
  | .trace => "TRACE"

end LogLevel

/-- One message. -/
structure LogEntry where
  level : LogLevel
  message : String
deriving Repr, DecidableEq

/-- The line that shows a message. -/
def LogEntry.line (e : LogEntry) : String :=
  e.level.tag ++ " " ++ e.message

end GuestVault
