import Tunables.Cycle
import Tunables.Executor.Script

/-!
# Talks in time

A scripted executor takes some time for each answer.  Work that waits for an
answer is cut off when its deadline passes or when it is given up from outside,
whichever comes first; work that never waits is never cut off.
-/

namespace Tunables

/-- When waiting work is cut off. -/
structure Cutoffs where
  deadline : Option Moment
  cancellation : Option Moment

/-- The run of a talk: its value, the commands that were carried out, the
entries that were logged, and when it ended. -/
structure TimedRun (α : Type) where
  value : α
  calls : List Command
  entries : List LogEntry
  finish : Moment

/-- Why waiting work is cut off. -/
inductive CutReason where
  | deadline
  | cancellation
  deriving DecidableEq, Repr

/-- The fault that work sees when it is cut off. -/
def CutReason.fault : CutReason → Fault
  | .deadline => .deadline
  | .cancellation => .cancellation

/-- A cut: when it comes, why, and the cutoffs that are left. -/
structure Cut where
  moment : Moment
  reason : CutReason
  rest : Cutoffs

namespace Cutoffs

def none : Cutoffs := ⟨.none, .none⟩

def cutByDeadline (cutoffs : Cutoffs) (moment : Moment) : Cut :=
  ⟨moment, .deadline, ⟨.none, cutoffs.cancellation⟩⟩

def cutByCancellation (cutoffs : Cutoffs) (moment : Moment) : Cut :=
  ⟨moment, .cancellation, ⟨cutoffs.deadline, .none⟩⟩

/-- The first cut of a wait that ends at a moment, if there is one. -/
def first? (cutoffs : Cutoffs) (due : Moment) : Option Cut :=
  match cutoffs.deadline.filter (· ≤ due), cutoffs.cancellation.filter (· ≤ due) with
  | some deadline, some cancellation =>
      if deadline ≤ cancellation then some (cutoffs.cutByDeadline deadline)
      else some (cutoffs.cutByCancellation cancellation)
  | some deadline, .none => some (cutoffs.cutByDeadline deadline)
  | .none, some cancellation => some (cutoffs.cutByCancellation cancellation)
  | .none, .none => .none

end Cutoffs

namespace Talk

/-- Runs a talk with a scripted executor from a moment on. -/
def run {α : Type} (script : Script) (now : Moment) (cutoffs : Cutoffs) :
    Talk α → TimedRun α
  | .done value => ⟨value, [], [], now⟩
  | .say entry next =>
      let later := next.run script now cutoffs
      { later with entries := entry :: later.entries }
  | .ask command resume =>
      match script.delay? command with
      | none =>
          let later := (resume (script.answer command)).run script now cutoffs
          { later with calls := command :: later.calls }
      | some delay =>
          let due := now + max delay 0
          match cutoffs.first? due with
          | some cut =>
              (resume (.error cut.reason.fault)).run script (max now cut.moment) cut.rest
          | none =>
              let later := (resume (script.answer command)).run script due cutoffs
              { later with calls := command :: later.calls }

end Talk

/-- Runs a cycle that starts at time zero. -/
def Cycle.run (previous : Catalog) (script : Script) (limit : Timeout)
    (cancellation : Option Moment) : TimedRun (Except CycleStop CycleResult) :=
  (Cycle.talk previous limit).run script 0 ⟨limit.deadline 0, cancellation⟩

end Tunables
