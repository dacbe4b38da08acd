/-!
# Log entries

What the program tells about its own work: a message with a level and with the part of the program
that it comes from.
-/

namespace FontCatalog.Log

/-- The levels of log entries, the most important first. -/
inductive Level where
  | error
  | warn
  | info
  | debug
  | trace
  deriving DecidableEq, Repr

def Level.name : Level → String
  | error => "ERROR"
  | warn => "WARN"
  | info => "INFO"
  | debug => "DEBUG"
  | trace => "TRACE"

structure Entry where
  level : Level
  /-- The part of the program that the entry comes from. -/
  target : String
  message : String
  deriving DecidableEq, Repr

end FontCatalog.Log
