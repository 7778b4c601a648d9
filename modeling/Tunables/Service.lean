import Tunables.Service.Call
import Tunables.Store

/-!
# The catalog service

A service publishes a dataset as its first catalog and keeps it in line with the
cluster, when it is asked to and from time to time.  Calls and the refresh loop
are tasks that may wait in between; an event says which task goes on and with
what.  Any order of events is a possible run, and the times that events carry
are only remembered.
-/

namespace Tunables

/-- Where the first catalog of a service comes from. -/
inductive BaselineOrigin where
  | catalog (catalog : Catalog)
  | document (document : Document)
  | file (file : BaselineFile)

/-- What a subscriber is told about a commit. -/
structure Update where
  version : Nat
  checksum : String
  added : List Text
  removed : List Text
  failed : List Text
  deriving DecidableEq, Repr

def Update.of (metadata : Metadata) (report : Report) : Update :=
  ⟨metadata.version, metadata.checksum, report.added, report.removed, report.failed⟩

/-- A subscriber and the updates that wait for it. -/
structure Subscriber where
  active : Bool
  updates : List Update
  deriving DecidableEq, Repr

/-- An executor and the commands that it has carried out. -/
structure UsedExecutor where
  executor : Executor
  calls : List Command

/-- A log entry, stamped with the number of the cycle that it belongs to. -/
structure StampedEntry where
  cycle : Option Nat
  entry : LogEntry
  deriving DecidableEq, Repr

/-- A service.  The store in use is the last one, and so is the executor; the
log has its newest entry in front. -/
structure Service where
  settings : Settings
  tree : FileTree
  baseline : BaselineOrigin
  stores : List Store
  executors : List UsedExecutor
  tasks : List Task
  refresher : Option TaskId
  subscribers : List Subscriber
  lastReport : Option Report
  cycles : Nat
  log : List StampedEntry

namespace Service

/-- A service that was not started yet. -/
def create (settings : Settings) (tree : FileTree) (baseline : BaselineOrigin)
    (executor : Option Executor) : Service :=
  ⟨settings, tree, baseline, [], (executor.map fun given => ⟨given, []⟩).toList, [], none, [],
    none, 0, []⟩

def store? (s : Service) : Option Store :=
  s.stores.getLast?

/-- The store in use, which is there once the service was started. -/
def store (s : Service) : Except ServiceError Store :=
  match s.store? with
  | some store => .ok store
  | none => .error .notStarted

/-- The commands carried out by the executor in use. -/
def calls? (s : Service) : Option (List Command) :=
  (s.executors.getLast?.filter fun used =>
    match used.executor with
    | .script _ => true
    | .tool _ => false).map (·.calls)

def isAlive (s : Service) (id : TaskId) : Bool :=
  (s.tasks[id]?).any Task.isAlive

def isRefreshing (s : Service) : Bool :=
  s.refresher.any s.isAlive

/-! ## Changing parts -/

def say (s : Service) (cycle : Option Nat) (entry : LogEntry) : Service :=
  { s with log := ⟨cycle, entry⟩ :: s.log }

def sayAll (s : Service) (cycle : Option Nat) (entries : List LogEntry) : Service :=
  entries.foldl (fun told entry => told.say cycle entry) s

/-- Puts a task into a state in which nothing is to be cancelled. -/
def setState (s : Service) (id : TaskId) (state : TaskState) : Service :=
  { s with tasks := s.tasks.set id ⟨state, false⟩ }

def endTask (s : Service) (id : TaskId) (outcome : CallOutcome) : Service :=
  s.setState id (.ended outcome)

def addTask (s : Service) (state : TaskState) : Service :=
  { s with tasks := s.tasks ++ [⟨state, false⟩] }

def addCall (s : Service) : Service :=
  s.addTask .ready

/-- Marks a task for cancellation, unless cancelling it would change nothing. -/
def doom (s : Service) (id : TaskId) : Service :=
  { s with tasks := s.tasks.modify id Task.doom }

def modifyStore (s : Service) (index : Nat) (change : Store → Store) : Service :=
  { s with stores := s.stores.modify index change }

def releaseGuard (s : Service) (index : Nat) : Service :=
  s.modifyStore index fun store => store.release?.getD store

def takeGuard (s : Service) (index : Nat) : Service :=
  s.modifyStore index fun store => store.tryBegin.2

/-- Records a command as carried out by an executor. -/
def recordCall (s : Service) (index : Nat) (command : Command) : Service :=
  { s with executors := s.executors.modify index fun used =>
      { used with calls := used.calls ++ [command] } }

def notify (s : Service) (update : Update) : Service :=
  { s with subscribers := s.subscribers.map fun subscriber =>
      if subscriber.active then { subscriber with updates := subscriber.updates ++ [update] }
      else subscriber }

/-- What an executor logs before it carries out a command. -/
def startEntries (s : Service) (index : Nat) (command : Command) : List LogEntry :=
  (s.executors[index]?).elim [] fun used => used.executor.startEntries command

def replaceExecutor (s : Service) (executor : Executor) : Service :=
  { s with executors := s.executors ++ [⟨executor, []⟩] }

/-- Makes sure that there is an executor: without one, it is built as the
settings say.  What is logged is stamped as given. -/
def ensureExecutor (s : Service) (cycle : Option Nat) :
    Except Executor.BuildError Executor × Service :=
  match s.executors.getLast? with
  | some used => (.ok used.executor, s)
  | none =>
      let built := Executor.ofSettings s.tree s.settings
      let told := s.sayAll cycle built.entries
      match built.value with
      | .ok executor => (.ok executor, told.replaceExecutor executor)
      | .error error => (.error error, told)

/-! ## Starting and stopping -/

/-- Makes sure that a refresh loop runs if the settings ask for one and none is
remembered. -/
def ensureRefresher (s : Service) (now : Moment) : Service :=
  if s.settings.refreshesPeriodically && s.refresher.isNone then
    { s.addTask (.resting now) with refresher := some s.tasks.length }
  else s

def completeStart (s : Service) (now : Moment) (id : TaskId) : Service :=
  ((s.ensureRefresher now).say none
    (.info (s.settings.serviceName ++ " v" ++ s.settings.serviceVersion ++ " started"))).endTask
      id .started

/-- Ends a stop.  The refresh loop is remembered no longer. -/
def completeStop (s : Service) (id : TaskId) : Service :=
  ({ s with refresher := none }.say none
    (.info (s.settings.serviceName ++ " stopped"))).endTask id .stopped

/-! ## Cycles -/

/-- What a task does after its cycle.  A call reports what happened; a start
goes on, unless the cycle failed in an unforeseen way; the refresh loop rests,
unless it was interrupted. -/
def afterCycle (s : Service) (now : Moment) (id : TaskId) :
    CyclePurpose → Except ServiceError CallOutcome → Service
  | .request, .ok outcome => s.endTask id outcome
  | .request, .error error => s.endTask id (.failed error)
  | .initial, .ok _ => s.completeStart now id
  | .initial, .error (.cycle error) =>
      (s.say none (.warning ("Initial reconciliation failed, serving baseline catalog: " ++
        error.message))).completeStart now id
  | .initial, .error error => s.endTask id (.failed error)
  | .refresh, .ok _ => s.setState id (.resting now)
  | .refresh, .error (.interrupted detail) => s.endTask id (.failed (.interrupted detail))
  | .refresh, .error (.cycle error) =>
      (s.say none (.error ("Periodic reconciliation failed: " ++ error.message))).setState id
        (.resting now)
  | .refresh, .error error =>
      (s.say none (.error ("Periodic reconciliation raised unexpectedly: " ++
        error.shown))).setState id (.resting now)

/-- Commits the result of a cycle and tells everyone about it. -/
def commitResult (s : Service) (frame : CycleFrame) (result : CycleResult) : Service :=
  match s.stores[frame.store]? with
  | none => s
  | some store =>
      let committed := store.commit result.catalog .cluster
      let stamp := some frame.number
      ({ s.modifyStore frame.store (fun _ => committed) with
          lastReport := some result.report }
        |>.say stamp (Store.commitEntry committed.metadata)
        |>.notify (.of committed.metadata result.report)
        |>.say stamp (.info ("Reconciliation cycle committed snapshot v" ++
          toString committed.version)))

/-- Goes on with a cycle up to its next command or to its end. -/
def proceed (s : Service) (now : Moment) (id : TaskId) (frame : CycleFrame) :
    Talk (Except CycleStop CycleResult) → Service
  | .say entry next => (s.say (some frame.number) entry).proceed now id frame next
  | .ask command resume =>
      (s.sayAll (some frame.number) (s.startEntries frame.executor command)).setState id
        (.inCycle frame command now resume)
  | .done (.error stop) =>
      (s.releaseGuard frame.store).afterCycle now id frame.purpose (.error (.ofStop stop))
  | .done (.ok result) =>
      ((s.commitResult frame result).releaseGuard frame.store).afterCycle now id frame.purpose
        (.ok (.reported result.report))

/-- Begins a cycle on a store whose guard was free. -/
def beginCycle (s : Service) (now : Moment) (id : TaskId) (purpose : CyclePurpose)
    (limit : Timeout) (store : Store) : Service :=
  let place := s.stores.length - 1
  let number := s.cycles + 1
  let begun := ({ s with cycles := number }.takeGuard place).say (some number)
    (.info "Reconciliation cycle started")
  match begun.ensureExecutor (some number) with
  | (.error error, refused) =>
      (refused.releaseGuard place).afterCycle now id purpose (.error (.executor error))
  | (.ok _, ready) =>
      ready.proceed now id
        ⟨number, purpose, place, ready.executors.length - 1, limit, now⟩
        (Cycle.talk store.current limit)

/-- Reconciles, unless a cycle is under way already. -/
def reconcile (s : Service) (now : Moment) (id : TaskId) (purpose : CyclePurpose)
    (timeout : Timeout) : Service :=
  match s.store? with
  | none => s.afterCycle now id purpose (.error .notStarted)
  | some store =>
      if store.refreshing then
        (s.say none (.info "Reconciliation already in progress, request dropped")).afterCycle
          now id purpose (.ok .dropped)
      else
        let limit := timeout <|> s.settings.reconcileTimeout.map Seconds.fractional
        s.beginCycle now id purpose limit store

/-- Publishes the first catalog of a start, and brings it in line with the
cluster unless the settings say otherwise. -/
def publish (s : Service) (now : Moment) (id : TaskId) (catalog : Catalog) : Service :=
  let published := { s with stores := s.stores ++ [Store.ofCatalog catalog .baseline] }
  if s.settings.skipClusterUpdate then
    (published.say none
      (.info "Cluster update skipped, serving baseline catalog")).completeStart now id
  else published.reconcile now id .initial none

/-- Goes on with a start whose dataset was loaded or could not be. -/
def publishLoaded (s : Service) (now : Moment) (id : TaskId)
    (loaded : Logged (Except LoadFailure Catalog)) : Service :=
  let told := s.sayAll none loaded.entries
  match loaded.value with
  | .ok catalog => told.publish now id catalog
  | .error cause => told.endTask id (.failed (.baseline cause))

/-! ## Calls -/

/-- Starts the service.  A task was added for the call. -/
def start (s : Service) (now : Moment) (id : TaskId) : Service :=
  match s.store? with
  | some _ =>
      (s.say none
        (.warning "Catalog already published, keeping the current snapshot")).completeStart
          now id
  | none =>
      match s.baseline with
      | .catalog catalog => s.publish now id catalog
      | .document document => s.publishLoaded now id (Baseline.loadLogged document)
      | .file file => (s.say none (file.startEntry s.tree)).setState id .readingBaseline

/-- Stops the service: the refresh loop is cancelled and waited for. -/
def stop (s : Service) (id : TaskId) : Service :=
  match s.refresher with
  | none => s.completeStop id
  | some loop =>
      if s.isAlive loop then (s.doom loop).setState id (.joining loop)
      else s.completeStop id

/-! ## Events -/

/-- What happens to a service.  A command is answered by its executor, which may log
entries before it does. -/
inductive Event where
  | start
  | stop
  | reconcile (timeout : Timeout)
  | fileRead (id : TaskId)
  | answered (id : TaskId) (answer : Answer) (entries : List LogEntry)
  | expired (id : TaskId)
  | woken (id : TaskId)
  | joined (id : TaskId)
  | cancel (id : TaskId)
  | cancelled (id : TaskId)
  | subscribe
  | unsubscribe (subscriber : Nat)
  | drain (subscriber : Nat)
  | replaceExecutor (executor : Executor)

def interrupt (s : Service) (id : TaskId) : Service :=
  s.endTask id (.failed (.interrupted Fault.cancellation.detail))

def deliverCancellation (s : Service) (now : Moment) (id : TaskId) : TaskState → Service
  | .inCycle frame _ _ resume => s.proceed now id frame (resume (.error .cancellation))
  | .ended _ => s
  | _ => s.interrupt id

/-- Goes on with a task in a state that fits; a doomed task is cancelled
instead. -/
def resumeTask (s : Service) (now : Moment) (id : TaskId)
    (resume : TaskState → Option Service) : Service :=
  match s.tasks[id]? with
  | none => s
  | some task =>
      if task.doomed then s.deliverCancellation now id task.state
      else (resume task.state).getD s

/-- Reads the dataset of a service that is loaded from a file. -/
def readBaseline (s : Service) (now : Moment) (id : TaskId) : Service :=
  match s.baseline with
  | .file file => s.publishLoaded now id (file.read s.tree)
  | _ => s

/-- Carries out an event at a moment.  An event that does not fit changes
nothing. -/
def step (s : Service) (now : Moment) : Event → Service
  | .start => s.addCall.start now s.tasks.length
  | .stop => s.addCall.stop s.tasks.length
  | .reconcile timeout => s.addCall.reconcile now s.tasks.length .request timeout
  | .fileRead id =>
      s.resumeTask now id fun
        | .readingBaseline => some (s.readBaseline now id)
        | _ => none
  | .answered id answer entries =>
      s.resumeTask now id fun
        | .inCycle frame command _ resume =>
            let told := (s.recordCall frame.executor command).sayAll (some frame.number) entries
            some (told.proceed now id frame (resume answer))
        | _ => none
  | .expired id =>
      s.resumeTask now id fun
        | .inCycle frame _ _ resume => some (s.proceed now id frame (resume (.error .deadline)))
        | _ => none
  | .woken id =>
      s.resumeTask now id fun
        | .resting _ => some (s.reconcile now id .refresh none)
        | _ => none
  | .joined id =>
      s.resumeTask now id fun
        | .joining loop => if s.isAlive loop then none else some (s.completeStop id)
        | _ => none
  | .cancel id => s.doom id
  | .cancelled id => s.resumeTask now id fun _ => none
  | .subscribe => { s with subscribers := s.subscribers ++ [⟨true, []⟩] }
  | .unsubscribe subscriber =>
      { s with subscribers := s.subscribers.modify subscriber ({ · with active := false }) }
  | .drain subscriber =>
      { s with subscribers := s.subscribers.modify subscriber ({ · with updates := [] }) }
  | .replaceExecutor executor => s.replaceExecutor executor

end Service
end Tunables
