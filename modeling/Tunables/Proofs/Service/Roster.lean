import Tunables.Proofs.Service.Moves

/-!
# The roster of a service

The roster lists the tasks and remembers the refresh loop.  A task that goes on
changes its own place in the list, and at most adds a refresh loop at the end when
none is remembered; only a stop forgets the loop.
-/

namespace Tunables

/-- Whether a state is one of a refresh loop that has not ended: it rests, or it is
in a cycle. -/
def TaskState.isLoop : TaskState → Bool
  | .resting _ => true
  | .inCycle frame _ _ _ => decide (frame.purpose = .refresh)
  | _ => false

def TaskState.isJoining : TaskState → Bool
  | .joining _ => true
  | _ => false

/-- The tasks of a service, and the refresh loop that it remembers. -/
structure Roster where
  tasks : List Task
  refresher : Option TaskId

namespace Roster

def set (r : Roster) (id : TaskId) (state : TaskState) : Roster :=
  { r with tasks := r.tasks.set id ⟨state, false⟩ }

def add (r : Roster) (state : TaskState) : Roster :=
  { r with tasks := r.tasks ++ [⟨state, false⟩] }

def doom (r : Roster) (id : TaskId) : Roster :=
  { r with tasks := r.tasks.modify id Task.doom }

def forget (r : Roster) : Roster :=
  { r with refresher := none }

/-- A refresh loop is added and remembered. -/
def addLoop (r : Roster) (since : Moment) : Roster :=
  ⟨r.tasks ++ [⟨.resting since, false⟩], some r.tasks.length⟩

/-- What comes of a task that goes on; `refreshes` says whether it is a refresh
loop. -/
inductive Works (r : Roster) (id : TaskId) (refreshes : Bool) : Roster → Prop where
  | goesOn (state : TaskState) (loop : state.isLoop = true → refreshes = true)
      (free : state.isJoining = false) : Works r id refreshes (r.set id state)
  | starts (since : Moment) (outcome : CallOutcome) (none : r.refresher = none) :
      Works r id refreshes ((r.addLoop since).set id (.ended outcome))

def isAlive (r : Roster) (id : TaskId) : Bool :=
  (r.tasks[id]?).any Task.isAlive

/-- What an event comes to on the roster. -/
inductive Steps (r : Roster) (event : Service.Event) : Roster → Prop where
  | quiet : Steps r event r
  | dooms (id : TaskId) (cancel : event = .cancel id) : Steps r event (r.doom id)
  | calls {t : Roster} (works : (r.add .ready).Works r.tasks.length false t) : Steps r event t
  | works {t : Roster} (id : TaskId) (task : Task) (target : event.target? = some id)
      (present : r.tasks[id]? = some task) (alive : task.isAlive = true)
      (works : r.Works id task.state.isLoop t) : Steps r event t
  | stops (stop : event = .stop)
      (idle : ∀ loop, r.refresher = some loop → (r.add .ready).isAlive loop = false) :
      Steps r event ((r.add .ready).forget.set r.tasks.length (.ended .stopped))
  | joins (loop : TaskId) (stop : event = .stop) (remembered : r.refresher = some loop) :
      Steps r event (((r.add .ready).doom loop).set r.tasks.length (.joining loop))
  | joined (id loop : TaskId) (task : Task) (target : event.target? = some id)
      (present : r.tasks[id]? = some task) (waits : task.state = .joining loop)
      (gone : r.isAlive loop = false) : Steps r event (r.forget.set id (.ended .stopped))

end Roster

namespace Service

def roster (s : Service) : Roster :=
  ⟨s.tasks, s.refresher⟩

variable (s : Service) {now : Moment} {id : TaskId} {refreshes : Bool}

/-! ## What does not touch the roster -/

@[simp] theorem roster_sayAll (cycle : Option Nat) (entries : List LogEntry) :
    (s.sayAll cycle entries).roster = s.roster := by
  rw [sayAll_eq]
  rfl

@[simp] theorem roster_commitResult (frame : CycleFrame) (result : CycleResult) :
    (s.commitResult frame result).roster = s.roster := by
  unfold commitResult
  split
  · rfl
  · rfl

@[simp] theorem roster_replaceExecutor (executor : Executor) :
    (s.replaceExecutor executor).roster = s.roster :=
  rfl

@[simp] theorem roster_ensureExecutor (cycle : Option Nat) :
    (s.ensureExecutor cycle).2.roster = s.roster := by
  unfold ensureExecutor
  cases s.executors.getLast? with
  | some used => rfl
  | none =>
      dsimp only
      split
      · rw [roster_replaceExecutor, roster_sayAll]
      · rw [roster_sayAll]

/-! ## A task that goes on -/

variable {s} {r : Roster}

theorem works_endTask (same : s.roster = r) (outcome : CallOutcome) :
    r.Works id refreshes (s.endTask id outcome).roster := by
  rw [← same]
  exact .goesOn (.ended outcome) nofun rfl

theorem works_completeStart (same : s.roster = r) :
    r.Works id refreshes (s.completeStart now id).roster := by
  rw [← same]
  unfold completeStart ensureRefresher
  split
  · next asked =>
      rw [Bool.and_eq_true_iff] at asked
      exact .starts now .started (Option.isNone_iff_eq_none.mp asked.2)
  · exact .goesOn (.ended .started) nofun rfl

theorem works_afterCycle (same : s.roster = r) (purpose : CyclePurpose)
    (result : Except ServiceError CallOutcome) :
    r.Works id (decide (purpose = .refresh)) (s.afterCycle now id purpose result).roster := by
  unfold afterCycle
  split
  · exact works_endTask same _
  · exact works_endTask same _
  · exact works_completeStart same
  · exact works_completeStart same
  · exact works_endTask same _
  · exact same ▸ .goesOn _ (fun _ => rfl) rfl
  · exact works_endTask same _
  · exact same ▸ .goesOn _ (fun _ => rfl) rfl
  · exact same ▸ .goesOn _ (fun _ => rfl) rfl

theorem works_proceed (same : s.roster = r) (frame : CycleFrame)
    (talk : Talk (Except CycleStop CycleResult)) :
    r.Works id (decide (frame.purpose = .refresh)) (s.proceed now id frame talk).roster := by
  induction talk generalizing s with
  | say entry next ih => exact ih same
  | ask command resume =>
      let told := s.sayAll (some frame.number) (s.startEntries frame.executor command)
      have toldSame : told.roster = r := (roster_sayAll s _ _).trans same
      exact toldSame ▸ .goesOn _ (fun loop => loop) rfl
  | done outcome =>
      cases outcome with
      | error stop =>
          apply works_afterCycle
          exact same
      | ok result =>
          apply works_afterCycle
          exact (roster_commitResult s frame result).trans same

theorem works_beginCycle (same : s.roster = r) (purpose : CyclePurpose) (limit : Timeout)
    (store : Store) :
    r.Works id (decide (purpose = .refresh)) (s.beginCycle now id purpose limit store).roster := by
  unfold beginCycle
  dsimp only
  generalize started : ({ s with cycles := s.cycles + 1 }.takeGuard (s.stores.length - 1)).say
    (some (s.cycles + 1)) (.info "Reconciliation cycle started") = begun
  have begunRoster : begun.roster = r := by
    rw [← started]
    exact same
  have readyRoster := (begun.roster_ensureExecutor (some (s.cycles + 1))).trans begunRoster
  generalize begun.ensureExecutor (some (s.cycles + 1)) = made at readyRoster ⊢
  obtain ⟨outcome, ready⟩ := made
  cases outcome with
  | error cause =>
      apply works_afterCycle
      exact readyRoster
  | ok executor => exact works_proceed readyRoster ⟨_, purpose, _, _, _, _⟩ _

theorem works_reconcile (same : s.roster = r) (purpose : CyclePurpose) (timeout : Timeout) :
    r.Works id (decide (purpose = .refresh)) (s.reconcile now id purpose timeout).roster := by
  unfold reconcile
  cases s.store? with
  | none => exact works_afterCycle same purpose _
  | some store =>
      dsimp only
      split
      · apply works_afterCycle
        exact same
      · exact works_beginCycle same purpose _ store

theorem works_publish (same : s.roster = r) (catalog : Catalog) :
    r.Works id false (s.publish now id catalog).roster := by
  unfold publish
  dsimp only
  split
  · apply works_completeStart
    exact same
  · change r.Works id (decide (CyclePurpose.initial = .refresh)) _
    apply works_reconcile
    exact same

theorem works_publishLoaded (same : s.roster = r)
    (loaded : Logged (Except LoadFailure Catalog)) :
    r.Works id false (s.publishLoaded now id loaded).roster := by
  unfold publishLoaded
  have told := (s.roster_sayAll none loaded.entries).trans same
  dsimp only
  cases loaded.value with
  | ok catalog => exact works_publish told catalog
  | error cause => exact works_endTask told _

theorem works_start (same : s.roster = r) : r.Works id false (s.start now id).roster := by
  unfold start
  cases s.store? with
  | some store =>
      apply works_completeStart
      exact same
  | none =>
      dsimp only
      cases s.baseline with
      | catalog catalog => exact works_publish same catalog
      | document document => exact works_publishLoaded same _
      | file file => exact same ▸ .goesOn .readingBaseline nofun rfl

/-! ## Events -/

variable {event : Event}

theorem steps_deliverCancellation {task : Task} (target : event.target? = some id)
    (present : s.tasks[id]? = some task) :
    s.roster.Steps event (s.deliverCancellation now id task.state).roster := by
  obtain ⟨state, doomed⟩ := task
  cases state with
  | inCycle frame command asked resume =>
      exact .works id _ target present rfl (works_proceed rfl frame _)
  | ended outcome => exact .quiet
  | ready | readingBaseline | resting | joining =>
      exact .works id _ target present rfl (works_endTask rfl _)

/-- A task that is resumed is cancelled, goes on, or stays as it is. -/
theorem steps_resumeTask {resume : TaskState → Option Service}
    (target : event.target? = some id)
    (goesOn : ∀ task next, s.tasks[id]? = some task → resume task.state = some next →
      s.roster.Steps event next.roster) :
    s.roster.Steps event (s.resumeTask now id resume).roster := by
  unfold resumeTask
  cases present : s.tasks[id]? with
  | none => exact .quiet
  | some task =>
      dsimp only
      split
      · exact steps_deliverCancellation target present
      · cases next : resume task.state with
        | none => exact .quiet
        | some t => exact goesOn task t present next

theorem steps_readBaseline {doomed : Bool} (target : event.target? = some id)
    (present : s.tasks[id]? = some ⟨.readingBaseline, doomed⟩) :
    s.roster.Steps event (s.readBaseline now id).roster := by
  unfold readBaseline
  cases s.baseline with
  | file file => exact .works id _ target present rfl (works_publishLoaded rfl _)
  | catalog | document => exact .quiet

theorem steps_stop : s.roster.Steps .stop (s.addCall.stop s.tasks.length).roster := by
  unfold stop
  cases remembered : s.addCall.refresher with
  | none =>
      refine .stops rfl fun loop same => ?_
      rw [show s.roster.refresher = none from remembered] at same
      cases same
  | some loop =>
      dsimp only
      split
      · exact .joins loop rfl remembered
      · next gone =>
          refine .stops rfl fun other same => ?_
          rw [show s.roster.refresher = some loop from remembered] at same
          cases same
          exact Bool.eq_false_iff.mpr gone

/-- An event is one of a few steps on the roster. -/
theorem steps_step (s : Service) (now : Moment) (event : Event) :
    s.roster.Steps event (s.step now event).roster := by
  cases event with
  | start => exact .calls (works_start rfl)
  | stop => exact steps_stop
  | reconcile timeout =>
      refine .calls ?_
      change Roster.Works _ _ (decide (CyclePurpose.request = .refresh)) _
      apply works_reconcile
      rfl
  | fileRead id =>
      refine steps_resumeTask rfl fun task next present resumed => ?_
      obtain ⟨state, doomed⟩ := task
      cases state with
      | readingBaseline =>
          cases resumed
          exact steps_readBaseline rfl present
      | _ => cases resumed
  | answered id answer entries =>
      refine steps_resumeTask rfl fun task next present resumed => ?_
      obtain ⟨state, doomed⟩ := task
      cases state with
      | inCycle frame command asked resume =>
          cases resumed
          refine .works id _ rfl present rfl ?_
          apply works_proceed
          exact roster_sayAll _ _ _
      | _ => cases resumed
  | expired id =>
      refine steps_resumeTask rfl fun task next present resumed => ?_
      obtain ⟨state, doomed⟩ := task
      cases state with
      | inCycle frame command asked resume =>
          cases resumed
          exact .works id _ rfl present rfl (works_proceed rfl frame _)
      | _ => cases resumed
  | woken id =>
      refine steps_resumeTask rfl fun task next present resumed => ?_
      obtain ⟨state, doomed⟩ := task
      cases state with
      | resting since =>
          cases resumed
          exact .works id _ rfl present rfl (works_reconcile rfl .refresh none)
      | _ => cases resumed
  | joined id =>
      refine steps_resumeTask rfl fun task next present resumed => ?_
      obtain ⟨state, doomed⟩ := task
      cases state with
      | joining loop =>
          dsimp only at resumed
          split at resumed
          · cases resumed
          · next gone =>
              cases resumed
              exact .joined id loop _ rfl present rfl (Bool.eq_false_iff.mpr gone)
      | _ => cases resumed
  | cancel id => exact .dooms id rfl
  | cancelled id => exact steps_resumeTask rfl fun task next present resumed => nomatch resumed
  | subscribe | unsubscribe | drain | replaceExecutor => exact .quiet

end Service
end Tunables
