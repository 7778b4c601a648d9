import Tunables.Bound
import Tunables.Fault
import Tunables.Log.Entry
import Tunables.Moment
import Tunables.NameOrder
import Tunables.Reply

/-!
# Failures of a cycle

Whatever goes wrong between a command and its use is a failure.  A cycle turns
most failures into an error of its own and lets an interruption through.
-/

namespace Tunables

/-- What goes wrong with a command or with the use of its reply. -/
inductive Failure where
  | fault (fault : Fault)
  | reply (error : ReplyError)
  | bound (error : BoundError)

namespace Failure

def message : Failure → Text
  | .fault raised => raised.message
  | .reply error => error.message
  | .bound error => error.message

def shown : Failure → Text
  | .fault raised => raised.shown
  | .reply error => (Fault.rejected error.message).shown
  | .bound error => (Fault.foreign "OverflowError" error.message).shown

/-- Whether a failure concerns a single command only. -/
def isKnown : Failure → Bool
  | .fault raised => raised.isKnown
  | .reply _ => true
  | .bound _ => false

/-- Whether a failure means that the names could not be listed, rather than
that something unexpected happened. -/
def isListingFailure : Failure → Bool
  | .fault (.command _) => true
  | .fault (.rejected _) => true
  | .reply _ => true
  | _ => false

end Failure

/-- How a cycle fails. -/
inductive CycleError where
  | listing (cause : Failure)
  | timedOut (limit : Timeout) (detail : Text)
  | aborted (cause : Failure)
  | raised (detail : Text)

def CycleError.message : CycleError → Text
  | .listing cause => "Could not list cluster parameters: " ++ cause.message
  | .timedOut limit _ => "Reconciliation timed out after " ++ limit.text ++ "s"
  | .aborted cause => "Reconciliation failed: " ++ cause.shown
  | .raised detail => detail

/-- How a cycle ends without a result: it failed, it was interrupted, or its
parameters made no catalog. -/
inductive CycleStop where
  | failed (error : CycleError)
  | interrupted (detail : Text)
  | misordered (error : OrderError)

/-- The error of a failure that ends a cycle with a limit, and the entries that
report it. -/
def Failure.stop (limit : Timeout) : Failure → CycleStop × List LogEntry
  | .fault (.timedOut detail) =>
      (.failed (.timedOut limit detail),
        [.error ("Reconciliation exceeded " ++ limit.text ++ "s and was aborted")])
  | .fault (.cycle detail) => (.failed (.raised detail), [])
  | .fault (.interrupted detail) => (.interrupted detail, [])
  | failure =>
      (.failed (.aborted failure),
        [.error ("Reconciliation aborted by unexpected executor failure: " ++
          failure.shown)])

end Tunables
