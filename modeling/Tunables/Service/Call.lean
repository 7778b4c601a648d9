import Tunables.Baseline
import Tunables.Cycle
import Tunables.Executor

/-!
# Calls to a service

A service is started, stopped and asked to reconcile.  A call ends at once or
after it has waited, and it can fail in its own ways.
-/

namespace Tunables

/-- How a call to a service fails. -/
inductive ServiceError where
  | notStarted
  | baseline (cause : LoadFailure)
  | executor (cause : Executor.BuildError)
  | cycle (cause : CycleError)
  | misordered (cause : OrderError)
  | interrupted (detail : Text)

namespace ServiceError

/-- The error of a cycle that ended without a result. -/
def ofStop : CycleStop → ServiceError
  | .failed error => .cycle error
  | .interrupted detail => .interrupted detail
  | .misordered error => .misordered error

def message : ServiceError → Text
  | .notStarted => "Catalog service has not been started"
  | .baseline cause => cause.message
  | .executor cause => cause.message
  | .cycle cause => cause.message
  | .misordered cause => cause.message
  | .interrupted detail => detail

def shown : ServiceError → Text
  | .notStarted => (Fault.foreign "RuntimeError" notStarted.message).shown
  | .baseline (.baseline error) => (Fault.baseline error.message).shown
  | .baseline (.bound error) => (Fault.foreign "OverflowError" error.message).shown
  | .executor cause => cause.shown
  | .cycle cause => (Fault.cycle cause.message).shown
  | .misordered cause => (Fault.rejected cause.message).shown
  | .interrupted detail => (Fault.interrupted detail).shown

end ServiceError

/-- How a call to a service ends. -/
inductive CallOutcome where
  | started
  | stopped
  | reported (report : Report)
  | dropped
  | failed (error : ServiceError)

/-- What a cycle is run for: a call that asks for it, the first start, or the
refresh from time to time. -/
inductive CyclePurpose where
  | request
  | initial
  | refresh
  deriving DecidableEq, Repr

/-- A cycle under way: its number, what it is run for, the store and the
executor that it works with, its limit, and when it began. -/
structure CycleFrame where
  number : Nat
  purpose : CyclePurpose
  store : Nat
  executor : Nat
  limit : Timeout
  since : Moment
  deriving DecidableEq

/-- Calls and refresh loops are told apart by numbers. -/
abbrev TaskId := Nat

/-- What a call or a refresh loop waits for, or how it ended. -/
inductive TaskState where
  | ready
  | readingBaseline
  | inCycle (frame : CycleFrame) (command : Command) (asked : Moment)
      (resume : Answer → Talk (Except CycleStop CycleResult))
  | resting (since : Moment)
  | joining (loop : TaskId)
  | ended (outcome : CallOutcome)

/-- A call or a refresh loop.  A doomed one is cancelled when it is resumed. -/
structure Task where
  state : TaskState
  doomed : Bool

namespace Task

/-- How a task ended, if it did. -/
def outcome? (task : Task) : Option CallOutcome :=
  match task.state with
  | .ended outcome => some outcome
  | _ => none

def isAlive (task : Task) : Bool :=
  task.outcome?.isNone

/-- Marks a task for cancellation.  One that has ended cannot be cancelled, and
one that waits for the refresh loop to end goes on waiting. -/
def doom (task : Task) : Task :=
  match task.state with
  | .joining _ => task
  | .ended _ => task
  | _ => { task with doomed := true }

end Task
end Tunables
