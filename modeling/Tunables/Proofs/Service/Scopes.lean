import Mathlib.Data.Set.Function
import Tunables.Proofs.Service.Turns
import Tunables.Service.Scopes

/-!
# Correlation ids in the log of a service

In its turn a task enters a scope only with a new cycle, leaves it with the end of the
cycle, and stays in it while it waits.  So the id that the logger finds in the context
of the task is at all times that of the cycle the task is in.
-/

namespace Tunables

def Activity.cycle? : Activity → Option Nat
  | .cycling frame _ => some frame.number
  | _ => none

/-- How many cycles have begun, and which one a task is in. -/
structure Standing where
  begun : Nat
  current : Option Nat

/-- What a task tells in its turn, the lines that this adds to the log, and where it
leaves the task.  A line belongs to the cycle that the task is in.  A task comes into a
cycle only with the line that announces it, and the cycle gets the next number. -/
inductive Scoped : Standing → List LogAction → List StampedEntry → Standing → Prop where
  | nil (standing : Standing) : Scoped standing [] [] standing
  | print {before after : Standing} {actions : List LogAction} {lines : List StampedEntry}
      (entry : LogEntry) : Scoped before actions lines after →
      Scoped before (.print entry :: actions) (⟨before.current, entry⟩ :: lines) after
  | enter {begun : Nat} {after : Standing} {actions : List LogAction}
      {lines : List StampedEntry} : Scoped ⟨begun + 1, some (begun + 1)⟩ actions lines after →
      Scoped ⟨begun, none⟩
        (.enter (begun + 1) :: .print Service.announcement :: actions)
        (⟨some (begun + 1), Service.announcement⟩ :: lines) after
  | leave {begun number : Nat} {after : Standing} {actions : List LogAction}
      {lines : List StampedEntry} : Scoped ⟨begun, none⟩ actions lines after →
      Scoped ⟨begun, some number⟩ (.leave :: actions) lines after
  | fork {begun : Nat} {after : Standing} {actions : List LogAction}
      {lines : List StampedEntry} (child : TaskId) : Scoped ⟨begun, none⟩ actions lines after →
      Scoped ⟨begun, none⟩ (.fork child :: actions) lines after

/-- Entries that belong to one cycle, or to none. -/
def stamped (cycle : Option Nat) (entries : List LogEntry) : List StampedEntry :=
  entries.map (⟨cycle, ·⟩)

namespace Scoped

variable {before middle after : Standing} {actions further : List LogAction}
  {lines later : List StampedEntry}

theorem append (first : Scoped before actions lines middle)
    (second : Scoped middle further later after) :
    Scoped before (actions ++ further) (lines ++ later) after := by
  induction first with
  | nil standing => exact second
  | print entry _ ih => exact .print entry (ih second)
  | enter _ ih => exact .enter (ih second)
  | leave _ ih => exact .leave (ih second)
  | fork child _ ih => exact .fork child (ih second)

theorem prints (standing : Standing) (entries : List LogEntry) :
    Scoped standing (entries.map .print) (stamped standing.current entries) standing := by
  induction entries with
  | nil => exact .nil standing
  | cons entry rest ih => exact .print entry ih

theorem forks (begun : Nat) (children : List TaskId) :
    Scoped ⟨begun, none⟩ (children.map .fork) [] ⟨begun, none⟩ := by
  induction children with
  | nil => exact .nil _
  | cons child rest ih => exact .fork child ih

/-- Each cycle that a turn has to do with is the one that the task was in, or a new one. -/
theorem numbers (nested : Scoped before actions lines after) :
    before.begun ≤ after.begun ∧
      (∀ number, after.current = some number →
        before.current = some number ∨ before.begun < number ∧ number ≤ after.begun) ∧
      ∀ line ∈ lines, ∀ number, line.cycle = some number →
        before.current = some number ∨ before.begun < number ∧ number ≤ after.begun := by
  induction nested with
  | nil standing => exact ⟨Nat.le_refl _, fun _ => .inl, nofun⟩
  | print entry _ ih =>
      obtain ⟨le, current, said⟩ := ih
      exact ⟨le, current, List.forall_mem_cons.mpr ⟨fun _ => .inl, said⟩⟩
  | @enter begun after _ _ _ ih =>
      obtain ⟨le, current, said⟩ := ih
      have widen (number : Nat) (known : some (begun + 1) = some number ∨
          begun + 1 < number ∧ number ≤ after.begun) : begun < number ∧ number ≤ after.begun := by
        rcases known with same | further
        · cases same
          exact ⟨Nat.lt_succ_self begun, le⟩
        · exact ⟨Nat.lt_of_succ_lt further.1, further.2⟩
      refine ⟨Nat.le_of_succ_le le, fun number is => .inr (widen number (current number is)), ?_⟩
      refine List.forall_mem_cons.mpr ⟨fun number is => .inr (widen number (.inl is)), ?_⟩
      exact fun line member number is => .inr (widen number (said line member number is))
  | leave _ ih =>
      obtain ⟨le, current, said⟩ := ih
      refine ⟨le, fun number is => .inr ((current number is).resolve_left nofun), ?_⟩
      exact fun line member number is => .inr ((said line member number is).resolve_left nofun)
  | fork child _ ih => exact ih

end Scoped

namespace Service

def standing (s : Service) (id : TaskId) : Standing :=
  ⟨s.cycles, (s.activity id).cycle?⟩

/-! ## Parts without scopes -/

/-- A part of a turn logs entries that belong to one cycle, or to none. -/
def Tells (cycle : Option Nat) (s t : Service) : Prop :=
  ∃ entries, t.log = (stamped cycle entries).reverse ++ s.log

section Tells

variable {cycle : Option Nat} {s r t : Service}

theorem tells_of_log_eq (same : t.log = s.log) : Tells cycle s t :=
  ⟨[], same⟩

theorem tells_say (s : Service) (cycle : Option Nat) (entry : LogEntry) :
    Tells cycle s (s.say cycle entry) :=
  ⟨[entry], rfl⟩

theorem Tells.trans (first : Tells cycle s r) (second : Tells cycle r t) : Tells cycle s t := by
  obtain ⟨entries, begun⟩ := first
  obtain ⟨others, ended⟩ := second
  refine ⟨entries ++ others, ?_⟩
  simp [ended, begun, stamped]

theorem log_sayAll (s : Service) (cycle : Option Nat) (entries : List LogEntry) :
    (s.sayAll cycle entries).log = (stamped cycle entries).reverse ++ s.log := by
  rw [sayAll_eq]
  rfl

theorem tells_sayAll (s : Service) (cycle : Option Nat) (entries : List LogEntry) :
    Tells cycle s (s.sayAll cycle entries) :=
  ⟨entries, s.log_sayAll cycle entries⟩

theorem tells_ensureExecutor (s : Service) (cycle : Option Nat) :
    Tells cycle s (s.ensureExecutor cycle).2 := by
  unfold ensureExecutor
  cases s.executors.getLast? with
  | some used => exact tells_of_log_eq rfl
  | none =>
      dsimp only
      split
      · exact (tells_sayAll s cycle _).trans (tells_of_log_eq rfl)
      · exact tells_sayAll s cycle _

theorem tells_commitResult (s : Service) (frame : CycleFrame) (result : CycleResult) :
    Tells (some frame.number) s (s.commitResult frame result) := by
  unfold commitResult
  split
  · exact tells_of_log_eq rfl
  · exact ⟨[_, _], rfl⟩

theorem log_ensureRefresher (s : Service) (now : Moment) : (s.ensureRefresher now).log = s.log := by
  unfold ensureRefresher
  split
  · rfl
  · rfl

theorem tells_completeStart (s : Service) (now : Moment) (id : TaskId) :
    Tells none s (s.completeStart now id) :=
  (tells_of_log_eq (s.log_ensureRefresher now)).trans ⟨[_], rfl⟩

theorem tells_completeStop (s : Service) (id : TaskId) : Tells none s (s.completeStop id) :=
  ⟨[_], rfl⟩

theorem tells_afterCycle (s : Service) (now : Moment) (id : TaskId) (purpose : CyclePurpose)
    (result : Except ServiceError CallOutcome) :
    Tells none s (s.afterCycle now id purpose result) := by
  unfold afterCycle
  split
  · exact tells_of_log_eq rfl
  · exact tells_of_log_eq rfl
  · exact tells_completeStart s now id
  · exact (tells_say s none _).trans (tells_completeStart _ now id)
  · exact tells_of_log_eq rfl
  · exact tells_of_log_eq rfl
  · exact tells_of_log_eq rfl
  · exact tells_say s none _
  · exact tells_say s none _

theorem plainly_eq {entries : List LogEntry}
    (log : t.log = (stamped cycle entries).reverse ++ s.log) :
    plainly s t =
      (List.range' s.tasks.length (t.tasks.length - s.tasks.length)).map .fork ++
        entries.map .print := by
  have added : t.log.take (t.log.length - s.log.length) = (stamped cycle entries).reverse := by
    rw [log, List.length_append, Nat.add_sub_cancel]
    exact List.take_left
  rw [plainly, added, List.reverse_reverse, stamped, List.map_map]
  rfl

end Tells

/-! ## Turns -/

/-- What a task tells from one state to the next is what is logged, and no other task
comes into a cycle or out of one. -/
structure Accounts (s : Service) (id : TaskId) (current : Option Nat) (actions : List LogAction)
    (t : Service) : Prop where
  nested : ∃ lines, t.log = lines.reverse ++ s.log ∧
    Scoped ⟨s.cycles, current⟩ actions lines (t.standing id)
  others : ∀ other, other ≠ id → (t.activity other).cycle? = (s.activity other).cycle?
  forked : ∀ child, .fork child ∈ actions → s.tasks.length ≤ child

section Accounts

variable {s r t : Service} {now : Moment} {id : TaskId} {current cycle : Option Nat}
  {actions : List LogAction} {b : Board} {activity : Activity}

theorem activity_eq_of_tasks (tasks : r.tasks = s.tasks) : r.activity = s.activity := by
  funext other
  rw [activity, activity, tasks]

/-- Outside of cycles a task may do as it likes, if it comes into none. -/
theorem accounts_plainly (tells : Tells none s t) (cycles : t.cycles = s.cycles)
    (own : (t.activity id).cycle? = none)
    (others : ∀ other, other ≠ id → (t.activity other).cycle? = (s.activity other).cycle?) :
    Accounts s id none (plainly s t) t := by
  obtain ⟨entries, log⟩ := tells
  have stays : t.standing id = ⟨s.cycles, none⟩ := by
    rw [standing, cycles, own]
  rw [plainly_eq log]
  refine ⟨⟨_, log, ?_⟩, others, ?_⟩
  · rw [stays]
    exact (Scoped.forks s.cycles _).append (.prints ⟨s.cycles, none⟩ entries)
  · intro child member
    rcases List.mem_append.mp member with forked | printed
    · obtain ⟨_, inRange, same⟩ := List.mem_map.mp forked
      cases same
      exact (List.mem_range'_1.mp inRange).1
    · obtain ⟨_, _, impossible⟩ := List.mem_map.mp printed
      cases impossible

theorem accounts_of_board (tells : Tells none s t) (board : t.board = b.assign id activity)
    (outside : activity.cycle? = none) (same : b.activity = s.activity)
    (cycles : b.cycles = s.cycles) : Accounts s id none (plainly s t) t := by
  obtain ⟨others, own⟩ := activity_of_board board same
  refine accounts_plainly tells ((congrArg Board.cycles board).trans cycles) (own ▸ outside) ?_
  intro other away
  rw [others other away]

/-- A task that tells nothing, and is in no cycle afterwards unless it does what it did. -/
theorem accounts_quietly (log : t.log = s.log) (board : t.board = s.board.assign id activity)
    (stays : activity.cycle? = (s.activity id).cycle?) :
    Accounts s id (s.activity id).cycle? [] t := by
  obtain ⟨others, own⟩ := activity_of_board (s := s) board rfl
  refine ⟨⟨[], log, ?_⟩, ?_, nofun⟩
  · rw [standing, show t.cycles = s.cycles from congrArg Board.cycles board, own, stays]
    exact .nil _
  · intro other away
    rw [others other away]

theorem accounts_silently (log : t.log = s.log) (cycles : t.cycles = s.cycles)
    (same : t.activity = s.activity) : Accounts s id (s.activity id).cycle? [] t := by
  refine ⟨⟨[], log, ?_⟩, ?_, nofun⟩
  · rw [standing, cycles, same]
    exact .nil _
  · intro other _
    rw [same]

/-- The account begins with another state in which nothing was logged yet. -/
theorem Accounts.of_eq (later : Accounts r id current actions t) (log : r.log = s.log)
    (cycles : r.cycles = s.cycles) (same : r.activity = s.activity)
    (tasks : s.tasks.length ≤ r.tasks.length) : Accounts s id current actions t := by
  obtain ⟨⟨lines, told, nested⟩, others, forked⟩ := later
  refine ⟨⟨lines, log ▸ told, cycles ▸ nested⟩, ?_, ?_⟩
  · intro other away
    rw [others other away, same]
  · exact fun child member => tasks.trans (forked child member)

theorem Accounts.print (entry : LogEntry)
    (later : Accounts (s.say current entry) id current actions t) :
    Accounts s id current (.print entry :: actions) t := by
  obtain ⟨⟨lines, log, nested⟩, others, forked⟩ := later
  refine ⟨⟨⟨current, entry⟩ :: lines, ?_, .print entry nested⟩, others, ?_⟩
  · rw [log, List.reverse_cons, List.append_assoc]
    rfl
  · intro child member
    exact forked child ((List.mem_cons.mp member).resolve_left nofun)

theorem Accounts.prints (entries : List LogEntry)
    (later : Accounts (s.sayAll current entries) id current actions t) :
    Accounts s id current (entries.map .print ++ actions) t := by
  induction entries generalizing s with
  | nil => exact later
  | cons entry rest ih => exact (ih later).print entry

/-- A part of the turn that is told plainly comes first. -/
theorem Accounts.plainly (later : Accounts r id current actions t) (tells : Tells current s r)
    (tasks : r.tasks = s.tasks) (cycles : r.cycles = s.cycles) :
    Accounts s id current (s.plainly r ++ actions) t := by
  obtain ⟨entries, told⟩ := tells
  obtain ⟨⟨lines, log, nested⟩, others, forked⟩ := later
  have activity : r.activity = s.activity := activity_eq_of_tasks tasks
  rw [plainly_eq told, tasks, Nat.sub_self]
  refine ⟨⟨stamped current entries ++ lines, ?_, ?_⟩, ?_, ?_⟩
  · rw [log, told, List.reverse_append, List.append_assoc]
  · rw [cycles] at nested
    exact (Scoped.prints ⟨s.cycles, current⟩ entries).append nested
  · intro other away
    rw [others other away, activity]
  · intro child member
    rcases List.mem_append.mp member with printed | forks
    · simp at printed
    · exact tasks ▸ forked child forks

theorem Accounts.leave (later : Accounts r id none actions t) (log : r.log = s.log)
    (tasks : r.tasks = s.tasks) (cycles : r.cycles = s.cycles) (number : Nat) :
    Accounts s id (some number) (.leave :: actions) t := by
  obtain ⟨⟨lines, told, nested⟩, others, forked⟩ :=
    later.of_eq log cycles (activity_eq_of_tasks tasks) (tasks ▸ Nat.le_refl _)
  refine ⟨⟨lines, told, .leave nested⟩, others, ?_⟩
  intro child member
  exact forked child ((List.mem_cons.mp member).resolve_left nofun)

/-- The scope of a new cycle is entered first, and the cycle is announced. -/
theorem Accounts.enter
    (log : r.log = ⟨some (s.cycles + 1), announcement⟩ :: s.log)
    (tasks : r.tasks = s.tasks) (cycles : r.cycles = s.cycles + 1)
    (later : Accounts r id (some (s.cycles + 1)) actions t) :
    Accounts s id none (.enter (s.cycles + 1) :: .print announcement :: actions) t := by
  obtain ⟨⟨lines, told, nested⟩, others, forked⟩ := later
  have activity : r.activity = s.activity := activity_eq_of_tasks tasks
  rw [cycles] at nested
  refine ⟨⟨_, ?_, .enter nested⟩, ?_, ?_⟩
  · rw [told, log, List.reverse_cons, List.append_assoc]
    rfl
  · intro other away
    rw [others other away, activity]
  · intro child member
    simp only [List.mem_cons, reduceCtorEq, false_or] at member
    exact tasks ▸ forked child member

theorem accounts_afterCycle (s : Service) (now : Moment) (id : TaskId) (purpose : CyclePurpose)
    (result : Except ServiceError CallOutcome) :
    Accounts s id none (s.tellAfterCycle now id purpose result)
      (s.afterCycle now id purpose result) :=
  accounts_of_board (tells_afterCycle s now id purpose result)
    (board_afterCycle s now id purpose result) rfl rfl rfl

theorem cycles_commitResult (s : Service) (frame : CycleFrame) (result : CycleResult) :
    (s.commitResult frame result).cycles = s.cycles := by
  unfold commitResult
  split
  · rfl
  · rfl

/-- A cycle that goes on stays in its scope up to its end. -/
theorem accounts_proceed (now : Moment) (frame : CycleFrame)
    (talk : Talk (Except CycleStop CycleResult)) (inside : id < s.tasks.length) :
    Accounts s id (some frame.number) (s.tellProceed now id frame talk)
      (s.proceed now id frame talk) := by
  induction talk generalizing s with
  | say entry next ih =>
      have later := @ih (s.say (some frame.number) entry) inside
      exact later.print entry
  | ask command resume _ =>
      let told := s.sayAll (some frame.number) (s.startEntries frame.executor command)
      have still : id < told.tasks.length := lt_length_sayAll inside _ _
      have board : (told.setState id (.inCycle frame command now resume)).board =
          told.board.assign id (.cycling frame (.ask command resume)) :=
        board_setState told id (.inl still)
      obtain ⟨others, own⟩ := activity_of_board (s := told) board rfl
      have waits : Accounts told id (some frame.number) []
          (told.setState id (.inCycle frame command now resume)) := by
        refine ⟨⟨[], rfl, ?_⟩, ?_, nofun⟩
        · rw [standing, own]
          exact .nil _
        · intro other away
          rw [others other away]
      have asked := waits.prints
      rw [List.append_nil] at asked
      exact asked
  | done outcome =>
      cases outcome with
      | error stop =>
          have last := accounts_afterCycle (s.releaseGuard frame.store) now id frame.purpose
            (.error (.ofStop stop))
          exact last.leave (s := s) rfl rfl rfl frame.number
      | ok result =>
          let committed := s.commitResult frame result
          have cycles : committed.cycles = s.cycles := cycles_commitResult s frame result
          have last := accounts_afterCycle (committed.releaseGuard frame.store) now id
            frame.purpose (.ok (.reported result.report))
          have left := last.leave (s := committed) rfl rfl rfl frame.number
          exact left.plainly (tells_commitResult s frame result)
            (tasks_commitResult s frame result) cycles

/-- A cycle that begins enters its scope, and is announced in it. -/
theorem accounts_beginCycle (now : Moment) (inside : id < s.tasks.length) (purpose : CyclePurpose)
    (limit : Timeout) (store : Store) :
    Accounts s id none (s.tellBeginCycle now id purpose limit store)
      (s.beginCycle now id purpose limit store) := by
  unfold beginCycle tellBeginCycle
  dsimp only
  rw [show LogEntry.info "Reconciliation cycle started" = announcement from rfl]
  generalize begins : ({ s with cycles := s.cycles + 1 }.takeGuard (s.stores.length - 1)).say
    (some (s.cycles + 1)) announcement = begun
  have log : begun.log = ⟨some (s.cycles + 1), announcement⟩ :: s.log := by
    rw [← begins]
    rfl
  have tasks : begun.tasks = s.tasks := by
    rw [← begins]
    rfl
  have cycles : begun.cycles = s.cycles + 1 := by
    rw [← begins]
    rfl
  have told := begun.tells_ensureExecutor (some (s.cycles + 1))
  have sameTasks := begun.tasks_ensureExecutor (some (s.cycles + 1))
  have sameCycles := congrArg Board.cycles (begun.board_ensureExecutor (some (s.cycles + 1)))
  generalize begun.ensureExecutor (some (s.cycles + 1)) = made at told sameTasks sameCycles ⊢
  obtain ⟨outcome, ready⟩ := made
  apply Accounts.enter log tasks cycles
  cases outcome with
  | error cause =>
      have last := accounts_afterCycle (ready.releaseGuard (s.stores.length - 1)) now id purpose
        (.error (.executor cause))
      have left := last.leave (s := ready) rfl rfl rfl (s.cycles + 1)
      exact left.plainly told sameTasks sameCycles
  | ok executor =>
      have still : id < ready.tasks.length := by
        rw [sameTasks, tasks]
        exact inside
      have onward := accounts_proceed now ⟨s.cycles + 1, purpose, s.stores.length - 1,
        ready.executors.length - 1, limit, now⟩ (Cycle.talk store.current limit) still
      exact onward.plainly told sameTasks sameCycles

/-! ## Calls and tasks that go on -/

theorem accounts_reconcile (now : Moment) (inside : id < s.tasks.length) (purpose : CyclePurpose)
    (timeout : Timeout) :
    Accounts s id none (s.tellReconcile now id purpose timeout)
      (s.reconcile now id purpose timeout) := by
  unfold tellReconcile reconcile
  cases s.store? with
  | none => exact accounts_afterCycle s now id purpose _
  | some store =>
      by_cases held : store.refreshing = true
      · simp only [Option.filter, held, Bool.not_true, Bool.false_eq_true, if_false, if_true]
        refine accounts_of_board ((tells_say s none _).trans (tells_afterCycle _ now id purpose _))
          (board_afterCycle _ now id purpose _) rfl rfl rfl
      · simp only [Option.filter, held, Bool.not_false, if_true, if_false, Bool.false_eq_true]
        exact accounts_beginCycle now inside purpose _ store

theorem accounts_publish (now : Moment) (inside : id < s.tasks.length) (catalog : Catalog) :
    Accounts s id none (s.tellPublish now id catalog) (s.publish now id catalog) := by
  let published := { s with stores := s.stores ++ [Store.ofCatalog catalog .baseline] }
  unfold tellPublish
  split
  · next skipped =>
      rw [publish, if_pos skipped]
      exact accounts_of_board ((tells_say s none _).trans (tells_completeStart _ now id))
        (board_completeStart _ now id) rfl rfl rfl
  · next asked =>
      rw [publish, if_neg asked]
      have later := accounts_reconcile (s := published) now inside .initial none
      exact later.of_eq rfl rfl rfl (Nat.le_refl _)

theorem accounts_publishLoaded (now : Moment) (inside : id < s.tasks.length)
    (loaded : Logged (Except LoadFailure Catalog)) :
    Accounts s id none (s.tellPublishLoaded now id loaded) (s.publishLoaded now id loaded) := by
  have tells := tells_sayAll s none loaded.entries
  have tasks := tasks_sayAll s none loaded.entries
  have board := board_sayAll s none loaded.entries
  unfold tellPublishLoaded publishLoaded
  cases loaded.value with
  | error cause =>
      exact accounts_of_board (tells.trans (tells_of_log_eq rfl)) (board_endTask _ id _) rfl
        (congrArg Board.activity board) (congrArg Board.cycles board)
  | ok catalog =>
      have later := accounts_publish (s := s.sayAll none loaded.entries) now (tasks ▸ inside) catalog
      exact later.plainly tells tasks (congrArg Board.cycles board)

theorem accounts_start (now : Moment) (inside : id < s.tasks.length) :
    Accounts s id none (s.tellStart now id) (s.start now id) := by
  unfold tellStart start
  cases s.store? with
  | some store =>
      exact accounts_of_board ((tells_say s none _).trans (tells_completeStart _ now id))
        (board_completeStart _ now id) rfl rfl rfl
  | none =>
      dsimp only
      cases s.baseline with
      | catalog catalog => exact accounts_publish now inside catalog
      | document document => exact accounts_publishLoaded now inside _
      | file file =>
          exact accounts_of_board ((tells_say s none _).trans (tells_of_log_eq rfl))
            (board_setState _ id (.inl inside)) rfl rfl rfl

theorem accounts_stop (s : Service) (id : TaskId) :
    Accounts s id none (plainly s (s.stop id)) (s.stop id) := by
  unfold stop
  split
  · exact accounts_of_board (tells_completeStop s id) (board_completeStop s id) rfl rfl rfl
  · next loop _ =>
      split
      · have board : ((s.doom loop).setState id (.joining loop)).board = s.board.assign id .idle := by
          rw [board_join, board_doom]
        exact accounts_of_board (tells_of_log_eq rfl) board rfl rfl rfl
      · exact accounts_of_board (tells_completeStop s id) (board_completeStop s id) rfl rfl rfl

theorem accounts_fileRead (now : Moment) (inside : id < s.tasks.length)
    (outside : (s.activity id).cycle? = none) :
    Accounts s id none (s.tellFileRead now id) (s.readBaseline now id) := by
  unfold tellFileRead readBaseline
  cases s.baseline with
  | file file => exact accounts_publishLoaded now inside _
  | catalog | document =>
      rw [← outside]
      exact accounts_silently rfl rfl rfl

/-- A cancelled task goes on with its cycle, or it ends without a word. -/
theorem accounts_deliverCancellation (now : Moment) {state : TaskState}
    (activity : s.activity id = state.activity) (inside : id < s.tasks.length) :
    Accounts s id (s.activity id).cycle? (s.tellCancelled now id state)
      (s.deliverCancellation now id state) := by
  cases state with
  | inCycle frame command asked resume =>
      rw [activity]
      exact accounts_proceed now frame _ inside
  | ended outcome => exact accounts_silently rfl rfl rfl
  | ready | readingBaseline | resting | joining =>
      refine accounts_quietly rfl (board_endTask s id _) ?_
      rw [activity]
      rfl

theorem accounts_resumeTask {resume : TaskState → Option Service}
    {resumed : TaskState → List LogAction}
    (fits : ∀ state, s.activity id = state.activity → id < s.tasks.length →
      Accounts s id (s.activity id).cycle? (resumed state) ((resume state).getD s)) :
    Accounts s id (s.activity id).cycle? (s.tellResumed now id resumed)
      (s.resumeTask now id resume) := by
  unfold tellResumed resumeTask
  cases present : s.tasks[id]? with
  | none => exact accounts_silently rfl rfl rfl
  | some task =>
      have inside : id < s.tasks.length := (List.getElem?_eq_some_iff.mp present).1
      have activity := s.activity_of_tasks id present
      dsimp only
      split
      · exact accounts_deliverCancellation now activity inside
      · exact fits task.state activity inside

theorem Accounts.ofCall (later : Accounts s.addCall s.tasks.length none actions t) :
    Accounts s s.tasks.length (s.activity s.tasks.length).cycle? actions t := by
  rw [s.activity_length]
  exact later.of_eq rfl rfl (congrArg Board.activity s.board_addCall) s.length_addCall.le

end Accounts

/-- In every event one task has its turn, and it tells what the event adds to the log. -/
theorem accounts_step (s : Service) (now : Moment) (event : Event) :
    Accounts s (s.turn now event).1 (s.activity (s.turn now event).1).cycle? (s.turn now event).2
      (s.step now event) := by
  cases event with
  | start => exact (accounts_start now s.length_addCall).ofCall
  | stop => exact (accounts_stop s.addCall s.tasks.length).ofCall
  | reconcile timeout => exact (accounts_reconcile now s.length_addCall .request timeout).ofCall
  | fileRead id =>
      simp only [turn, step]
      apply accounts_resumeTask
      intro state activity inside
      cases state with
      | readingBaseline =>
          rw [activity]
          exact accounts_fileRead now inside (congrArg Activity.cycle? activity)
      | ready | inCycle | resting | joining | ended => exact accounts_silently rfl rfl rfl
  | answered id answer entries =>
      simp only [turn, step]
      apply accounts_resumeTask
      intro state activity inside
      cases state with
      | inCycle frame command asked resume =>
          rw [activity]
          let called := s.recordCall frame.executor command
          have there : id < called.tasks.length := inside
          have still := lt_length_sayAll there (some frame.number) entries
          have onward := (accounts_proceed now frame (resume answer) still).prints
          exact onward.of_eq (s := s) rfl rfl rfl (Nat.le_refl _)
      | ready | readingBaseline | resting | joining | ended => exact accounts_silently rfl rfl rfl
  | expired id =>
      simp only [turn, step]
      apply accounts_resumeTask
      intro state activity inside
      cases state with
      | inCycle frame command asked resume =>
          rw [activity]
          exact accounts_proceed now frame _ inside
      | ready | readingBaseline | resting | joining | ended => exact accounts_silently rfl rfl rfl
  | woken id =>
      simp only [turn, step]
      apply accounts_resumeTask
      intro state activity inside
      cases state with
      | resting since =>
          rw [activity]
          exact accounts_reconcile now inside .refresh none
      | ready | readingBaseline | inCycle | joining | ended => exact accounts_silently rfl rfl rfl
  | joined id =>
      simp only [turn, step]
      apply accounts_resumeTask
      intro state activity inside
      cases state with
      | joining loop =>
          dsimp only
          split
          · exact accounts_silently rfl rfl rfl
          · rw [activity]
            exact accounts_of_board (tells_completeStop s id) (board_completeStop s id) rfl rfl rfl
      | ready | readingBaseline | inCycle | resting | ended => exact accounts_silently rfl rfl rfl
  | cancelled id =>
      simp only [turn, step]
      apply accounts_resumeTask
      intro state activity inside
      exact accounts_silently rfl rfl rfl
  | cancel id => exact accounts_silently rfl rfl (congrArg Board.activity (board_doom s id))
  | subscribe | unsubscribe | drain | replaceExecutor => exact accounts_silently rfl rfl rfl

end Service
end Tunables
