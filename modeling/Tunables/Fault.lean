import Tunables.Text.Quoted

/-!
# Failed commands

A command can fail in ways that the catalog knows and in ways that it does not.
The known ones concern one command only; a timeout and an interruption end the
whole cycle.
-/

namespace Tunables

/-- A command that failed or gave an unusable reply. -/
structure CommandError where
  message : Text
  command : Text
  status : Text
  deriving DecidableEq, Repr

/-- A command error that names no command. -/
def CommandError.plain (message : Text) : CommandError :=
  ⟨message, "", ""⟩

/-- How a command can fail. -/
inductive Fault where
  | command (error : CommandError)
  | rejected (message : Text)
  | catalog (message : Text)
  | baseline (message : Text)
  | cycle (message : Text)
  | timedOut (message : Text)
  | interrupted (message : Text)
  | missingKey (key : Text)
  | foreign (kind : String) (message : Text)
  deriving DecidableEq, Repr

namespace Fault

/-- The name of the kind of a fault. -/
def kind : Fault → String
  | .command _ => "CommandExecutionError"
  | .rejected _ => "CatalogValidationError"
  | .catalog _ => "CatalogError"
  | .baseline _ => "BaselineLoadError"
  | .cycle _ => "ReconcileError"
  | .timedOut _ => "TimeoutError"
  | .interrupted _ => "CancelledError"
  | .missingKey _ => "KeyError"
  | .foreign kind _ => kind

/-- The text that a fault was raised with. -/
def detail : Fault → Text
  | .command error => error.message
  | .rejected message => message
  | .catalog message => message
  | .baseline message => message
  | .cycle message => message
  | .timedOut message => message
  | .interrupted message => message
  | .missingKey key => key
  | .foreign _ message => message

/-- The wording of a fault; a missing key is quoted. -/
def message : Fault → Text
  | .missingKey key => Text.quoted key
  | fault => fault.detail

def shown (fault : Fault) : Text :=
  fault.kind ++ "(" ++ Text.quoted fault.detail ++ ")"

/-- Whether a fault concerns a single command only. -/
def isKnown : Fault → Bool
  | .command _ => true
  | .rejected _ => true
  | .catalog _ => true
  | .baseline _ => true
  | .cycle _ => true
  | _ => false

/-- The fault of work that is cut off by its deadline. -/
def deadline : Fault := .timedOut ""

/-- The fault of work that is given up from outside. -/
def cancellation : Fault := .interrupted ""

end Fault
end Tunables
