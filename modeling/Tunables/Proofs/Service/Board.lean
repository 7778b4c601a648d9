import Mathlib.Data.List.Basic
import Mathlib.Logic.Function.Basic
import Tunables.Proofs.Talk
import Tunables.Service

/-!
# The board of a service

The board is what cycles work on and what others can see of it: the stores, the
last report, the subscribers, and what each task is doing.  Settings, executors
and the log are not on the board, so most of what a service does leaves it as it
is.
-/

namespace Tunables

/-- What a task is doing, as far as stores are concerned.  Of the talk of a cycle
there is a rest left. -/
inductive Activity where
  | idle
  | reading
  | cycling (frame : CycleFrame) (rest : Talk (Except CycleStop CycleResult))

def TaskState.activity : TaskState → Activity
  | .readingBaseline => .reading
  | .inCycle frame command _ resume => .cycling frame (.ask command resume)
  | _ => .idle

/-- The parts of a service that cycles work on. -/
structure Board where
  stores : List Store
  lastReport : Option Report
  subscribers : List Subscriber
  cycles : Nat
  activity : TaskId → Activity

theorem Task.state_doom (task : Task) : task.doom.state = task.state := by
  unfold Task.doom
  split
  · rfl
  · rfl
  · rfl

theorem Store.getD_release? (store : Store) :
    store.release?.getD store = { store with refreshing := false } := by
  obtain ⟨snapshot, refreshing⟩ := store
  cases refreshing with
  | false => rfl
  | true => rfl

namespace Board

/-- A task begins to do something else. -/
def assign (b : Board) (id : TaskId) (activity : Activity) : Board :=
  { b with activity := Function.update b.activity id activity }

/-- A store is published behind the others. -/
def publish (b : Board) (catalog : Catalog) : Board :=
  { b with stores := b.stores ++ [.ofCatalog catalog .baseline] }

/-- A cycle begins on a store. -/
def begin (b : Board) (place : Nat) (store : Store) : Board :=
  { b with cycles := b.cycles + 1, stores := b.stores.set place { store with refreshing := true } }

/-- A cycle on a store is over and has changed nothing. -/
def giveUp (b : Board) (place : Nat) (store : Store) : Board :=
  { b with stores := b.stores.set place { store with refreshing := false } }

/-- What is left for subscribers when they are told of an update. -/
def told (update : Update) (subscribers : List Subscriber) : List Subscriber :=
  subscribers.map fun subscriber =>
    if subscriber.active then { subscriber with updates := subscriber.updates ++ [update] }
    else subscriber

/-- A cycle on a store is over and its result was committed. -/
def commit (b : Board) (place : Nat) (store : Store) (result : CycleResult) : Board :=
  { b with
    stores := b.stores.set place ⟨.of result.catalog (store.version + 1) .cluster, false⟩
    lastReport := some result.report
    subscribers := told (.of (.of result.catalog (store.version + 1) .cluster) result.report)
      b.subscribers }

@[simp] theorem assign_activity_self (b : Board) (id : TaskId) :
    b.assign id (b.activity id) = b := by
  simp [assign]

theorem activity_assign_iff {b : Board} {id other : TaskId} {before now : Activity} :
    (b.assign id before).activity other = now ↔
      (other = id ∧ before = now) ∨ (other ≠ id ∧ b.activity other = now) := by
  unfold assign
  dsimp only
  by_cases same : other = id
  · subst same
    simp
  · simp [same]

theorem assign_of_eq {b : Board} {id : TaskId} {activity : Activity}
    (same : b.activity id = activity) : b.assign id activity = b := by
  rw [← same, assign_activity_self]

@[simp] theorem assign_assign (b : Board) (id : TaskId) (first second : Activity) :
    (b.assign id first).assign id second = b.assign id second := by
  simp [assign]

theorem giveUp_assign (b : Board) (id : TaskId) (activity : Activity) (place : Nat)
    (store : Store) :
    (b.assign id activity).giveUp place store = (b.giveUp place store).assign id activity :=
  rfl

theorem commit_assign (b : Board) (id : TaskId) (activity : Activity) (place : Nat)
    (store : Store) (result : CycleResult) :
    (b.assign id activity).commit place store result =
      (b.commit place store result).assign id activity :=
  rfl

end Board

namespace Service

/-- What a task is doing.  A task that does not exist does nothing. -/
def activity (s : Service) (id : TaskId) : Activity :=
  match s.tasks[id]? with
  | some task => task.state.activity
  | none => .idle

def board (s : Service) : Board :=
  ⟨s.stores, s.lastReport, s.subscribers, s.cycles, s.activity⟩

variable (s : Service) (now : Moment) (id : TaskId)

theorem activity_of_tasks {task : Task} (present : s.tasks[id]? = some task) :
    s.activity id = task.state.activity := by
  rw [activity, present]

theorem activity_eq_idle_of_length_le (absent : s.tasks.length ≤ id) :
    s.activity id = .idle := by
  rw [activity, List.getElem?_eq_none absent]

/-! ## What does not touch the board -/

@[simp] theorem board_say (cycle : Option Nat) (entry : LogEntry) :
    (s.say cycle entry).board = s.board :=
  rfl

/-- Entries that are logged change nothing but the log. -/
theorem sayAll_eq (cycle : Option Nat) (entries : List LogEntry) :
    s.sayAll cycle entries =
      { s with log := (entries.map (StampedEntry.mk cycle)).reverse ++ s.log } := by
  induction entries generalizing s with
  | nil => rfl
  | cons entry rest ih =>
      refine (ih (s.say cycle entry)).trans ?_
      rw [List.map_cons, List.reverse_cons, List.append_assoc]
      rfl

@[simp] theorem tasks_sayAll (cycle : Option Nat) (entries : List LogEntry) :
    (s.sayAll cycle entries).tasks = s.tasks := by
  rw [sayAll_eq]

theorem lt_length_sayAll {s : Service} {id : TaskId} (inside : id < s.tasks.length)
    (cycle : Option Nat) (entries : List LogEntry) :
    id < (s.sayAll cycle entries).tasks.length := by
  rw [tasks_sayAll]
  exact inside

@[simp] theorem board_sayAll (cycle : Option Nat) (entries : List LogEntry) :
    (s.sayAll cycle entries).board = s.board := by
  rw [sayAll_eq]
  rfl

@[simp] theorem board_recordCall (index : Nat) (command : Command) :
    (s.recordCall index command).board = s.board :=
  rfl

@[simp] theorem board_replaceExecutor (executor : Executor) :
    (s.replaceExecutor executor).board = s.board :=
  rfl

@[simp] theorem tasks_replaceExecutor (executor : Executor) :
    (s.replaceExecutor executor).tasks = s.tasks :=
  rfl

@[simp] theorem board_ensureExecutor (cycle : Option Nat) :
    (s.ensureExecutor cycle).2.board = s.board := by
  unfold ensureExecutor
  cases s.executors.getLast? with
  | some used => rfl
  | none =>
      dsimp only
      split
      · rw [board_replaceExecutor, board_sayAll]
      · rw [board_sayAll]

@[simp] theorem tasks_ensureExecutor (cycle : Option Nat) :
    (s.ensureExecutor cycle).2.tasks = s.tasks := by
  unfold ensureExecutor
  cases s.executors.getLast? with
  | some used => rfl
  | none =>
      dsimp only
      split
      · rw [tasks_replaceExecutor, tasks_sayAll]
      · rw [tasks_sayAll]

/-! ## What tasks are doing -/

theorem activity_setState {state : TaskState}
    (fits : id < s.tasks.length ∨ state.activity = .idle) :
    (s.setState id state).activity = Function.update s.activity id state.activity := by
  funext other
  by_cases same : other = id
  · subst same
    rw [Function.update_self]
    by_cases present : other < s.tasks.length
    · simp [activity, setState, present]
    · have idle := fits.resolve_left present
      simp [activity, setState, present, idle]
  · rw [Function.update_of_ne same]
    have different : ¬ id = other := fun equal => same equal.symm
    simp [activity, setState, different]

theorem board_setState {state : TaskState}
    (fits : id < s.tasks.length ∨ state.activity = .idle) :
    (s.setState id state).board = s.board.assign id state.activity := by
  unfold board Board.assign
  rw [activity_setState s id fits]
  rfl

@[simp] theorem board_endTask (outcome : CallOutcome) :
    (s.endTask id outcome).board = s.board.assign id .idle :=
  board_setState s id (.inr rfl)

@[simp] theorem board_rest (since : Moment) :
    (s.setState id (.resting since)).board = s.board.assign id .idle :=
  board_setState s id (.inr rfl)

@[simp] theorem board_join (loop : TaskId) :
    (s.setState id (.joining loop)).board = s.board.assign id .idle :=
  board_setState s id (.inr rfl)

/-- A task that is added does nothing yet. -/
theorem board_addTask {state : TaskState} (idle : state.activity = .idle) :
    (s.addTask state).board = s.board := by
  have same : (s.addTask state).activity = s.activity := by
    funext other
    unfold activity addTask
    rcases Nat.lt_trichotomy other s.tasks.length with earlier | last | later
    · rw [List.getElem?_append_left earlier]
    · simp [last, idle]
    · have absent : (s.tasks ++ [⟨state, false⟩])[other]? = none := by
        rw [List.getElem?_eq_none_iff, List.length_append, List.length_singleton]
        exact later
      rw [absent, List.getElem?_eq_none (Nat.le_of_lt later)]
  unfold board
  rw [same]
  rfl

@[simp] theorem board_addCall : s.addCall.board = s.board :=
  board_addTask s rfl

@[simp] theorem board_doom : (s.doom id).board = s.board := by
  have same : (s.doom id).activity = s.activity := by
    funext other
    unfold activity doom
    rw [List.getElem?_modify]
    cases s.tasks[other]? with
    | none => rfl
    | some task =>
        by_cases here : id = other
        · simp [here, Task.state_doom]
        · simp [here]
  unfold board
  rw [same]
  rfl

@[simp] theorem board_ensureRefresher : (s.ensureRefresher now).board = s.board := by
  unfold ensureRefresher
  split
  · exact board_addTask s rfl
  · rfl

@[simp] theorem board_completeStart :
    (s.completeStart now id).board = s.board.assign id .idle := by
  rw [completeStart, board_endTask, board_say, board_ensureRefresher]

@[simp] theorem board_completeStop : (s.completeStop id).board = s.board.assign id .idle := by
  rw [completeStop, board_endTask, board_say]
  rfl

/-- After its cycle a task does nothing that concerns the board. -/
@[simp] theorem board_afterCycle (purpose : CyclePurpose)
    (result : Except ServiceError CallOutcome) :
    (s.afterCycle now id purpose result).board = s.board.assign id .idle := by
  unfold afterCycle
  split <;> simp only [board_endTask, board_completeStart, board_rest, board_say]

/-! ## Cycles -/

section Store

variable {s}
variable {frame : CycleFrame} {place : Nat} {store : Store}

theorem board_modifyStore (present : s.stores[place]? = some store) (change : Store → Store) :
    (s.modifyStore place change).board =
      { s.board with stores := s.stores.set place (change store) } := by
  unfold modifyStore board
  rw [List.modify_eq_set_getElem?, present]
  rfl

theorem board_takeGuard (present : s.stores[place]? = some store) :
    ({ s with cycles := s.cycles + 1 }.takeGuard place).board = s.board.begin place store := by
  have there : { s with cycles := s.cycles + 1 }.stores[place]? = some store := present
  rw [takeGuard, board_modifyStore there]
  rfl

theorem board_releaseGuard (present : s.stores[place]? = some store) :
    (s.releaseGuard place).board = s.board.giveUp place store := by
  rw [releaseGuard, board_modifyStore present, Store.getD_release?]
  rfl

theorem board_commitResult (present : s.stores[frame.store]? = some store)
    (result : CycleResult) :
    (s.commitResult frame result).board =
      { s.board with
        stores := s.stores.set frame.store (store.commit result.catalog .cluster)
        lastReport := some result.report
        subscribers :=
          Board.told (.of (.of result.catalog (store.version + 1) .cluster) result.report)
            s.subscribers } := by
  have stores : s.stores.modify frame.store (fun _ => store.commit result.catalog .cluster) =
      s.stores.set frame.store (store.commit result.catalog .cluster) := by
    rw [List.modify_eq_set_getElem?, present]
    rfl
  unfold commitResult modifyStore
  rw [present]
  dsimp only
  rw [stores]
  rfl

/-- The result of a cycle is on the board when its guard was freed. -/
theorem board_releaseGuard_commitResult (present : s.stores[frame.store]? = some store)
    (result : CycleResult) :
    ((s.commitResult frame result).releaseGuard frame.store).board =
      s.board.commit frame.store store result := by
  have inside : frame.store < s.stores.length := (List.getElem?_eq_some_iff.mp present).1
  have board := board_commitResult present result
  have there : (s.commitResult frame result).stores[frame.store]? =
      some (store.commit result.catalog .cluster) := by
    have stores := congrArg Board.stores board
    change (s.commitResult frame result).stores = s.stores.set frame.store _ at stores
    rw [stores, List.getElem?_set_self inside]
  rw [board_releaseGuard there, board, Board.giveUp]
  simp only [List.set_set]
  rfl

end Store

theorem tasks_commitResult (frame : CycleFrame) (result : CycleResult) :
    (s.commitResult frame result).tasks = s.tasks := by
  unfold commitResult
  split
  · rfl
  · rfl

/-- How a cycle on a store goes on: it waits for the answer to its next command,
or it is over and its result or failure is handed to the task. -/
inductive Proceeds (frame : CycleFrame) (store : Store)
    (talk : Talk (Except CycleStop CycleResult)) (t : Service) : Prop where
  | waits (command : Command) (resume : Answer → Talk (Except CycleStop CycleResult))
      (reaches : talk.Reaches [] (.ask command resume))
      (board : t.board = s.board.assign id (.cycling frame (.ask command resume)))
  | fails (base : Service) (stop : CycleStop) (ends : talk.EndsWith [] (.error stop))
      (board : base.board = s.board.giveUp frame.store store) (tasks : base.tasks = s.tasks)
      (next : t = base.afterCycle now id frame.purpose (.error (.ofStop stop)))
  | reports (base : Service) (result : CycleResult) (ends : talk.EndsWith [] (.ok result))
      (board : base.board = s.board.commit frame.store store result) (tasks : base.tasks = s.tasks)
      (next : t = base.afterCycle now id frame.purpose (.ok (.reported result.report)))

variable {s} {id} {frame : CycleFrame} {store : Store}

theorem proceeds (now : Moment) (talk : Talk (Except CycleStop CycleResult))
    (present : s.stores[frame.store]? = some store) (inside : id < s.tasks.length) :
    Proceeds s now id frame store talk (s.proceed now id frame talk) := by
  induction talk generalizing s with
  | say entry next ih =>
      have told : (s.say (some frame.number) entry).stores[frame.store]? = some store := present
      have later := ih told inside
      rw [proceed]
      cases later with
      | waits command resume reaches board => exact .waits command resume (.say reaches) board
      | fails base stop ends board tasks next => exact .fails base stop (.say ends) board tasks next
      | reports base result ends board tasks next =>
          exact .reports base result (.say ends) board tasks next
  | ask command resume _ =>
      refine .waits command resume (.start _) ?_
      rw [proceed, board_setState _ _ (.inl (lt_length_sayAll inside _ _)), board_sayAll]
      rfl
  | done outcome =>
      cases outcome with
      | error stop =>
          exact .fails (s.releaseGuard frame.store) stop (.done _) (board_releaseGuard present) rfl
            rfl
      | ok result =>
          exact .reports ((s.commitResult frame result).releaseGuard frame.store) result (.done _)
            (board_releaseGuard_commitResult present result) (tasks_commitResult s frame result) rfl

/-- A cycle that begins takes the guard; it goes on unless there is no executor. -/
theorem beginCycle_cases (now : Moment) (id : TaskId) (inUse : s.store? = some store)
    (purpose : CyclePurpose) (limit : Timeout) :
    ∃ begun : Service, begun.board = s.board.begin (s.stores.length - 1) store ∧
      begun.tasks = s.tasks ∧
      ((∃ cause, s.beginCycle now id purpose limit store =
        (begun.releaseGuard (s.stores.length - 1)).afterCycle now id purpose
          (.error (.executor cause))) ∨
      ∃ executor, s.beginCycle now id purpose limit store =
        begun.proceed now id
          ⟨s.cycles + 1, purpose, s.stores.length - 1, executor, limit, now⟩
          (Cycle.talk store.current limit)) := by
  have present : s.stores[s.stores.length - 1]? = some store := by
    rw [← List.getLast?_eq_getElem?]
    exact inUse
  unfold beginCycle
  dsimp only
  generalize started : ({ s with cycles := s.cycles + 1 }.takeGuard (s.stores.length - 1)).say
    (some (s.cycles + 1)) (.info "Reconciliation cycle started") = begun
  have board : begun.board = s.board.begin (s.stores.length - 1) store := by
    rw [← started, board_say, board_takeGuard present]
  have tasks : begun.tasks = s.tasks := by
    rw [← started]
    rfl
  have readyBoard := begun.board_ensureExecutor (some (s.cycles + 1))
  have readyTasks := begun.tasks_ensureExecutor (some (s.cycles + 1))
  generalize begun.ensureExecutor (some (s.cycles + 1)) = made at readyBoard readyTasks ⊢
  obtain ⟨outcome, ready⟩ := made
  refine ⟨ready, readyBoard.trans board, readyTasks.trans tasks, ?_⟩
  cases outcome with
  | error cause => exact .inl ⟨cause, rfl⟩
  | ok executor => exact .inr ⟨_, rfl⟩

end Service
end Tunables
