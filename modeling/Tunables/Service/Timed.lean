import Tunables.Service

/-!
# Services in time

Here a service has a clock.  Its executors take the time that their scripts
say, limits and rests run out when they are due, and whatever need not wait
happens at once.  The clock moves to the next of these moments when nothing is
left to do.
-/

namespace Tunables

namespace Executor

/-- How long an executor waits before it answers, if it waits at all. -/
def delay? : Executor → Command → Option Moment
  | .script given, command => given.delay? command
  | .tool _, _ => none

/-- The answer of an executor, and what it logs before.  There is no program that a tool
could start. -/
def reply : Executor → Command → Logged Answer
  | .script given, command => ⟨given.answer command, []⟩
  | .tool given, command =>
      let cause := FileError.notFound given.binary
      let run := given.run command
        (.failed ⟨cause.kind, cause.number, cause.reason ++ ": " ++ Text.quoted cause.path⟩) none
      ⟨run.answer command, run.laterEntries⟩

end Executor

/-- A service and its clock. -/
structure TimedService where
  service : Service
  now : Moment

/-- An event that will happen, and when.  Without a moment it happens at once. -/
structure Pending where
  due : Option Moment
  event : Service.Event

namespace Service

/-- When the command that a cycle waits for is answered or cut off. -/
def pendingAnswer (s : Service) (id : TaskId) (frame : CycleFrame) (command : Command)
    (asked : Moment) : Option Pending :=
  (s.executors[frame.executor]?).map fun used =>
    let reply := used.executor.reply command
    let answered := Event.answered id reply.value reply.entries
    match used.executor.delay? command with
    | none => ⟨none, answered⟩
    | some delay =>
        let due := asked + max delay 0
        match (Timeout.deadline frame.limit frame.since).filter (· ≤ due) with
        | some deadline => ⟨some (max deadline asked), .expired id⟩
        | none => ⟨some due, answered⟩

/-- What happens to a task next if nobody interferes. -/
def pendingFor (s : Service) (id : TaskId) (task : Task) : Option Pending :=
  if task.doomed then some ⟨none, .cancelled id⟩
  else
    match task.state with
    | .readingBaseline => some ⟨none, .fileRead id⟩
    | .inCycle frame command asked _ => s.pendingAnswer id frame command asked
    | .resting since =>
        s.settings.refreshInterval.units?.map fun interval =>
          ⟨some (since + interval), .woken id⟩
    | .joining loop => if s.isAlive loop then none else some ⟨none, .joined id⟩
    | .ready => none
    | .ended _ => none

/-- What happens next to each task. -/
def pending (s : Service) : List Pending :=
  (s.tasks.zipIdx.filterMap fun (task, id) => s.pendingFor id task)

end Service

namespace Pending

/-- The first of what happens at once, or else of what is due first. -/
def earliest? (entries : List Pending) : Option Pending :=
  entries.foldl (fun best entry =>
    match best with
    | none => some entry
    | some kept =>
        match kept.due, entry.due with
        | some keptDue, some entryDue => if entryDue < keptDue then some entry else some kept
        | some _, none => some entry
        | none, _ => some kept) none

end Pending

namespace TimedService

/-- Carries out an event now. -/
def fire (t : TimedService) (event : Service.Event) : TimedService :=
  { t with service := t.service.step t.now event }

/-- How many events are carried out before a run is given up. -/
def patience : Nat := 1000000

/-- Carries out what happens at once and what is due up to a horizon, until a
condition holds; `fuel` bounds the number of events. -/
def runUntil (holds : Service → Bool) (horizon : Option Moment) :
    (fuel : Nat) → TimedService → TimedService
  | 0, t => t
  | fuel + 1, t =>
      if holds t.service then t
      else
        match Pending.earliest? t.service.pending with
        | none => t
        | some ⟨none, event⟩ => runUntil holds horizon fuel (t.fire event)
        | some ⟨some due, event⟩ =>
            if horizon.any (· < due) then t
            else
              runUntil holds horizon fuel (TimedService.fire { t with now := max t.now due } event)

/-- Carries out what happens at once. -/
def settle (t : TimedService) : TimedService :=
  runUntil (fun s => s.pending.all (·.due.isSome)) none patience t

def await (t : TimedService) (id : TaskId) : TimedService :=
  runUntil (fun s => !s.isAlive id) none patience t

/-- How a task ended, if it did. -/
def outcome? (t : TimedService) (id : TaskId) : Option CallOutcome :=
  (t.service.tasks[id]?).bind Task.outcome?

/-- Makes a call and waits until it has ended. -/
def call (t : TimedService) (event : Service.Event) : TimedService :=
  (t.fire event).await t.service.tasks.length

/-- Makes a call and goes on as far as no time passes. -/
def begin (t : TimedService) (event : Service.Event) : TimedService :=
  (t.fire event).settle

/-- Cancels a task and waits until it has ended. -/
def cancel (t : TimedService) (id : TaskId) : TimedService :=
  (t.fire (.cancel id)).await id

def advance (t : TimedService) (distance : Moment) : TimedService :=
  let horizon := t.now + max distance 0
  let later := runUntil (fun _ => false) (some horizon) patience t
  { later with now := max later.now horizon }

end TimedService
end Tunables
