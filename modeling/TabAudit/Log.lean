/-!
# Log records

What the program reports about its own work: a level and a line of text.
-/

namespace TabAudit

/-- How much a record matters. -/
inductive LogLevel where
  | debug
  | info
  | warning
  | error
  | critical
  deriving DecidableEq, Repr

namespace LogLevel

/-- The name a level is shown by. -/
def name : LogLevel → String
  | debug => "DEBUG"
  | info => "INFO"
  | warning => "WARNING"
  | error => "ERROR"
  | critical => "CRITICAL"

/-- The rank a level is compared by. -/
def rank : LogLevel → Nat
  | debug => 10
  | info => 20
  | warning => 30
  | error => 40
  | critical => 50

end LogLevel

/-- One line of the log. -/
structure LogRecord where
  level : LogLevel
  message : String
  deriving DecidableEq, Repr

/-- The records of a run, in order. -/
abbrev Log := List LogRecord

namespace Log

def debug (message : String) : LogRecord := ⟨.debug, message⟩

def warning (message : String) : LogRecord := ⟨.warning, message⟩

def error (message : String) : LogRecord := ⟨.error, message⟩

end Log

end TabAudit
