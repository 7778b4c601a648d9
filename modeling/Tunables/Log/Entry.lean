import Tunables.Text

/-!
# Log entries

What the catalog reports about its work.
-/

namespace Tunables

/-- The severity of a log entry. -/
inductive LogLevel where
  | debug
  | info
  | warning
  | error
  | critical
  deriving DecidableEq, Repr

def LogLevel.name : LogLevel → String
  | .debug => "DEBUG"
  | .info => "INFO"
  | .warning => "WARNING"
  | .error => "ERROR"
  | .critical => "CRITICAL"

/-- An entry before it is stamped with the cycle it belongs to. -/
structure LogEntry where
  level : LogLevel
  text : Text
  deriving DecidableEq, Repr

namespace LogEntry

def debug (text : Text) : LogEntry := ⟨.debug, text⟩

def info (text : Text) : LogEntry := ⟨.info, text⟩

/-- An entry for unexpected but harmless events. -/
def warning (text : Text) : LogEntry := ⟨.warning, text⟩

def error (text : Text) : LogEntry := ⟨.error, text⟩

end LogEntry

/-- A value together with the entries logged on the way to it. -/
structure Logged (α : Type) where
  value : α
  entries : List LogEntry

end Tunables
