import Tunables.Log.Scope
import Tunables.Service

/-!
# The scopes of a service

A cycle runs in a scope of its own.  The scope is entered before the cycle is announced
and left before the guard is freed, however the cycle ends; whatever the task does before
and after that is told to the logger outside of it.  The ids are drawn by the cycles in
turn.
-/

namespace Tunables
namespace Service

/-- What a part of a turn tells the logger when it neither enters nor leaves a scope: the
tasks that it makes, and the entries that it logs. -/
def plainly (before after : Service) : List LogAction :=
  (List.range' before.tasks.length (after.tasks.length - before.tasks.length)).map .fork ++
    ((after.log.take (after.log.length - before.log.length)).reverse.map fun line =>
      .print line.entry)

def tellAfterCycle (s : Service) (now : Moment) (id : TaskId) (purpose : CyclePurpose)
    (result : Except ServiceError CallOutcome) : List LogAction :=
  plainly s (s.afterCycle now id purpose result)

def tellProceed (s : Service) (now : Moment) (id : TaskId) (frame : CycleFrame) :
    Talk (Except CycleStop CycleResult) → List LogAction
  | .say entry next =>
      .print entry :: (s.say (some frame.number) entry).tellProceed now id frame next
  | .ask command _ => (s.startEntries frame.executor command).map .print
  | .done (.error stop) =>
      .leave ::
        (s.releaseGuard frame.store).tellAfterCycle now id frame.purpose (.error (.ofStop stop))
  | .done (.ok result) =>
      let committed := s.commitResult frame result
      plainly s committed ++
        .leave :: (committed.releaseGuard frame.store).tellAfterCycle now id frame.purpose
          (.ok (.reported result.report))

/-- The line that announces a cycle. -/
def announcement : LogEntry :=
  .info "Reconciliation cycle started"

def tellBeginCycle (s : Service) (now : Moment) (id : TaskId) (purpose : CyclePurpose)
    (limit : Timeout) (store : Store) : List LogAction :=
  let place := s.stores.length - 1
  let number := s.cycles + 1
  let begun := ({ s with cycles := number }.takeGuard place).say (some number) announcement
  .enter number :: .print announcement ::
    match begun.ensureExecutor (some number) with
    | (.error error, refused) =>
        plainly begun refused ++
          .leave :: (refused.releaseGuard place).tellAfterCycle now id purpose
            (.error (.executor error))
    | (.ok _, ready) =>
        plainly begun ready ++
          ready.tellProceed now id
            ⟨number, purpose, place, ready.executors.length - 1, limit, now⟩
            (Cycle.talk store.current limit)

def tellReconcile (s : Service) (now : Moment) (id : TaskId) (purpose : CyclePurpose)
    (timeout : Timeout) : List LogAction :=
  match s.store?.filter (!·.refreshing) with
  | none => plainly s (s.reconcile now id purpose timeout)
  | some store =>
      s.tellBeginCycle now id purpose
        (timeout <|> s.settings.reconcileTimeout.map Seconds.fractional) store

def tellPublish (s : Service) (now : Moment) (id : TaskId) (catalog : Catalog) :
    List LogAction :=
  if s.settings.skipClusterUpdate then plainly s (s.publish now id catalog)
  else
    { s with stores := s.stores ++ [Store.ofCatalog catalog .baseline] }.tellReconcile now id
      .initial none

def tellPublishLoaded (s : Service) (now : Moment) (id : TaskId)
    (loaded : Logged (Except LoadFailure Catalog)) : List LogAction :=
  match loaded.value with
  | .ok catalog =>
      let told := s.sayAll none loaded.entries
      plainly s told ++ told.tellPublish now id catalog
  | .error _ => plainly s (s.publishLoaded now id loaded)

def tellStart (s : Service) (now : Moment) (id : TaskId) : List LogAction :=
  match s.store?, s.baseline with
  | none, .catalog catalog => s.tellPublish now id catalog
  | none, .document document => s.tellPublishLoaded now id (Baseline.loadLogged document)
  | _, _ => plainly s (s.start now id)

def tellFileRead (s : Service) (now : Moment) (id : TaskId) : List LogAction :=
  match s.baseline with
  | .file file => s.tellPublishLoaded now id (file.read s.tree)
  | _ => []

def tellCancelled (s : Service) (now : Moment) (id : TaskId) : TaskState → List LogAction
  | .inCycle frame _ _ resume => s.tellProceed now id frame (resume (.error .cancellation))
  | _ => []

def tellResumed (s : Service) (now : Moment) (id : TaskId)
    (resumed : TaskState → List LogAction) : List LogAction :=
  match s.tasks[id]? with
  | none => []
  | some task =>
      if task.doomed then s.tellCancelled now id task.state else resumed task.state

/-- The task that has its turn in an event, and what it tells. -/
def turn (s : Service) (now : Moment) : Event → TaskId × List LogAction
  | .start => (s.tasks.length, s.addCall.tellStart now s.tasks.length)
  | .stop => (s.tasks.length, plainly s.addCall (s.addCall.stop s.tasks.length))
  | .reconcile timeout =>
      (s.tasks.length, s.addCall.tellReconcile now s.tasks.length .request timeout)
  | .fileRead id =>
      (id, s.tellResumed now id fun
        | .readingBaseline => s.tellFileRead now id
        | _ => [])
  | .answered id answer entries =>
      (id, s.tellResumed now id fun
        | .inCycle frame command _ resume =>
            let told := (s.recordCall frame.executor command).sayAll (some frame.number) entries
            entries.map .print ++ told.tellProceed now id frame (resume answer)
        | _ => [])
  | .expired id =>
      (id, s.tellResumed now id fun
        | .inCycle frame _ _ resume => s.tellProceed now id frame (resume (.error .deadline))
        | _ => [])
  | .woken id =>
      (id, s.tellResumed now id fun
        | .resting _ => s.tellReconcile now id .refresh none
        | _ => [])
  | .joined id =>
      (id, s.tellResumed now id fun
        | .joining loop => if s.isAlive loop then [] else plainly s (s.completeStop id)
        | _ => [])
  | .cancelled id => (id, s.tellResumed now id fun _ => [])
  | _ => (s.tasks.length, [])

end Service

structure LoggingService where
  service : Service
  logger : Logger

namespace LoggingService

/-- A service that was not started yet, none of whose callers is in a scope. -/
def create (settings : Settings) (tree : FileTree) (baseline : BaselineOrigin)
    (executor : Option Executor) : LoggingService :=
  ⟨.create settings tree baseline executor, .create⟩

/-- Carries out an event; the task that has its turn tells the logger about it. -/
def step (console : Console) (ids : Nat → Text) (s : LoggingService) (now : Moment)
    (event : Service.Event) : LoggingService :=
  let (task, actions) := s.service.turn now event
  ⟨s.service.step now event, s.logger.performAll console ids task actions⟩

def after (console : Console) (ids : Nat → Text) (s : LoggingService)
    (events : List (Moment × Service.Event)) : LoggingService :=
  events.foldl (fun t event => t.step console ids event.1 event.2) s

end LoggingService
end Tunables
