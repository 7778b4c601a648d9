import Tunables.Log.Console

/-!
# Correlation scopes

Each task has a correlation id of its own.  A scope gives the task that enters it an
id, and when it is left it puts back the id that was there before.  A new task starts
with the id of the task that makes it.
-/

namespace Tunables

/-- What a task knows of its scopes: the id in force, and the ids to be put back when
the scopes that it is in are left. -/
structure LogContext where
  correlation : Option Text
  outer : List (Option Text)
  deriving DecidableEq, Repr

namespace LogContext

/-- The context of a task that nobody has given an id. -/
def outside : LogContext :=
  ⟨none, []⟩

def enter (context : LogContext) (id : Text) : LogContext :=
  ⟨some id, context.correlation :: context.outer⟩

def leave (context : LogContext) : LogContext :=
  match context.outer with
  | [] => context
  | previous :: rest => ⟨previous, rest⟩

/-- The context that a new task starts with. -/
def copy (context : LogContext) : LogContext :=
  ⟨context.correlation, []⟩

end LogContext

/-- What a task tells the logger.  The id of a scope is drawn when it is entered. -/
inductive LogAction where
  | enter (draw : Nat)
  | leave
  | print (entry : LogEntry)
  | fork (child : Nat)

/-- An entry as it is shown, with the correlation id in front. -/
structure ShownEntry where
  correlation : Text
  entry : LogEntry
  deriving DecidableEq, Repr

/-- The logger: the context of each task, and what was shown, the newest in front. -/
structure Logger where
  contexts : Nat → LogContext
  shown : List ShownEntry

namespace Logger

def create : Logger :=
  ⟨fun _ => .outside, []⟩

def setContext (logger : Logger) (task : Nat) (context : LogContext) : Logger :=
  { logger with contexts := fun other =>
      if other = task then context else logger.contexts other }

def print (logger : Logger) (console : Console) (task : Nat) (entry : LogEntry) : Logger :=
  let correlation := (logger.contexts task).correlation
  { logger with shown :=
      ⟨{ console with correlation := correlation }.correlationText, entry⟩ :: logger.shown }

/-- Does what a task tells it, with the ids that are drawn. -/
def perform (console : Console) (ids : Nat → Text) (task : Nat) (logger : Logger) :
    LogAction → Logger
  | .enter draw => logger.setContext task ((logger.contexts task).enter (ids draw))
  | .leave => logger.setContext task (logger.contexts task).leave
  | .print entry => logger.print console task entry
  | .fork child => logger.setContext child (logger.contexts task).copy

def performAll (console : Console) (ids : Nat → Text) (task : Nat) (logger : Logger)
    (actions : List LogAction) : Logger :=
  actions.foldl (perform console ids task) logger

end Logger
end Tunables
