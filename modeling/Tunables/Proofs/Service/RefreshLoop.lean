import Tunables.Proofs.Ending
import Tunables.Proofs.Service.Published
import Tunables.Proofs.Service.Stopping
import Tunables.Proofs.Service.Turns

/-!
# The life of a refresh loop

Whatever a cycle comes to, the refresh loop rests afterwards and goes on, until the
service is stopped.  A stop returns when the loop has ended, and an ended loop takes no
part in anything any longer.
-/

namespace Tunables

namespace Roster

variable {r t : Roster} {id other : TaskId} {state : TaskState} {task : Task}
  {refreshes : Bool} {event : Service.Event}

/-! ## Tasks in a new state -/

theorem length_add : (r.add state).tasks.length = r.tasks.length + 1 :=
  List.length_append

theorem length_set : (r.set id state).tasks.length = r.tasks.length :=
  List.length_set

theorem length_doom : (r.doom id).tasks.length = r.tasks.length :=
  List.length_modify ..

theorem Works.length_le (works : r.Works id refreshes t) : r.tasks.length ≤ t.tasks.length := by
  cases works with
  | goesOn state loop free => rw [length_set]
  | starts since outcome none =>
      rw [length_set, addLoop, List.length_append]
      exact Nat.le_add_right _ _

theorem Steps.length_le (steps : r.Steps event t) : r.tasks.length ≤ t.tasks.length := by
  have more : r.tasks.length ≤ (r.add .ready).tasks.length := by
    rw [length_add]
    exact Nat.le_succ _
  cases steps with
  | quiet => exact Nat.le_refl _
  | dooms id cancel => rw [length_doom]
  | calls works => exact more.trans works.length_le
  | works id task target present alive works => exact works.length_le
  | stops stop idle =>
      rw [length_set]
      exact more
  | joins loop stop remembered =>
      rw [length_set, length_doom]
      exact more
  | joined id loop task target present waits gone =>
      rw [length_set]
      exact Nat.le_refl _

theorem getElem?_set_cases (found : (r.set other state).tasks[id]? = some task) :
    task.doomed = false ∨ id ≠ other ∧ r.tasks[id]? = some task := by
  by_cases same : id = other
  · subst same
    left
    have inside : id < r.tasks.length := by
      rw [← length_set]
      exact (List.getElem?_eq_some_iff.mp found).1
    cases (List.getElem?_set_self inside).symm.trans found
    rfl
  · rw [getElem?_set_of_ne same] at found
    exact .inr ⟨same, found⟩

theorem getElem?_append_cases (found : (r.tasks ++ [⟨state, false⟩])[id]? = some task) :
    task.doomed = false ∨ r.tasks[id]? = some task := by
  by_cases inside : id < r.tasks.length
  · rw [List.getElem?_append_left inside] at found
    exact .inr found
  · rw [List.getElem?_append_right (Nat.not_lt.mp inside), List.getElem?_singleton] at found
    split at found
    · cases found
      exact .inl rfl
    · cases found

theorem Works.undoomed (works : r.Works other refreshes t) (found : t.tasks[id]? = some task) :
    task.doomed = false ∨ r.tasks[id]? = some task := by
  cases works with
  | goesOn state loop free => exact (getElem?_set_cases found).imp_right And.right
  | starts since outcome none =>
      rcases getElem?_set_cases found with undoomed | ⟨-, there⟩
      · exact .inl undoomed
      · exact getElem?_append_cases there

/-- A task that comes into another state is not cancelled yet. -/
theorem Steps.undoomed (steps : r.Steps event t) (found : t.tasks[id]? = some task) :
    task.doomed = false ∨ r.state? id = some task.state := by
  cases steps with
  | quiet => exact .inr (state?_of_tasks found)
  | dooms other cancel =>
      have same := state?_of_tasks found
      rw [state?_doom] at same
      exact .inr same
  | calls works =>
      rcases works.undoomed found with undoomed | there
      · exact .inl undoomed
      · exact (getElem?_append_cases there).imp_right state?_of_tasks
  | works other resumed target present alive works =>
      exact (works.undoomed found).imp_right state?_of_tasks
  | stops stop idle =>
      rcases getElem?_set_cases found with undoomed | ⟨-, there⟩
      · exact .inl undoomed
      · exact (getElem?_append_cases there).imp_right state?_of_tasks
  | joins loop stop remembered =>
      rcases getElem?_set_cases found with undoomed | ⟨away, there⟩
      · exact .inl undoomed
      · have same := state?_of_tasks there
        rw [state?_doom] at same
        exact .inr ((state?_append_iff.mp same).resolve_left fun new => away new.1)
  | joined other loop resumed target present waits gone =>
      exact (getElem?_set_cases found).imp_right fun there => state?_of_tasks there.2

end Roster

namespace Service

/-! ## A loop that runs on -/

/-- A task is a refresh loop, and nobody has cancelled it. -/
def RunsOn (s : Service) (id : TaskId) : Prop :=
  ∃ state, s.tasks[id]? = some ⟨state, false⟩ ∧ state.isLoop = true

variable {s : Service} {now : Moment} {id loop : TaskId} {event : Event} {frame : CycleFrame}
  {events : List (Moment × Event)}

theorem RunsOn.isRefreshLoop (runs : s.RunsOn id) : s.isRefreshLoop id = true := by
  obtain ⟨state, present, isLoop⟩ := runs
  have there : s.roster.tasks[id]? = some ⟨state, false⟩ := present
  exact isRefreshLoop_iff.mpr ⟨state, Roster.state?_of_tasks there, isLoop⟩

theorem runsOn_setState (inside : id < s.tasks.length) {state : TaskState}
    (isLoop : state.isLoop = true) : (s.setState id state).RunsOn id :=
  ⟨state, List.getElem?_set_self inside, isLoop⟩

/-- After its cycle a refresh loop rests, unless it was interrupted. -/
theorem runsOn_afterCycle (inside : id < s.tasks.length) (now : Moment)
    {result : Except ServiceError CallOutcome}
    (uninterrupted : ∀ detail, result ≠ .error (.interrupted detail)) :
    (s.afterCycle now id .refresh result).RunsOn id := by
  cases result with
  | ok outcome => exact runsOn_setState inside rfl
  | error error =>
      cases error with
      | interrupted detail => exact absurd rfl (uninterrupted detail)
      | notStarted | baseline | executor | cycle | misordered =>
          refine runsOn_setState ?_ rfl
          exact inside

theorem runsOn_proceed (inside : id < s.tasks.length) (now : Moment)
    (refreshes : frame.purpose = .refresh) (talk : Talk (Except CycleStop CycleResult))
    (uninterrupted : ∀ detail, ¬ talk.EndsWith [] (.error (.interrupted detail))) :
    (s.proceed now id frame talk).RunsOn id := by
  induction talk generalizing s with
  | say entry next ih =>
      have told : id < (s.say (some frame.number) entry).tasks.length := inside
      exact ih told fun detail ends => uninterrupted detail (.say ends)
  | ask command resume _ =>
      exact runsOn_setState (lt_length_sayAll inside _ _) (decide_eq_true refreshes)
  | done outcome =>
      cases outcome with
      | error stop =>
          rw [proceed, refreshes]
          refine runsOn_afterCycle ?_ now ?_
          · exact inside
          · intro detail same
            cases stop with
            | interrupted other => exact uninterrupted other (.done _)
            | failed | misordered => cases same
      | ok result =>
          rw [proceed, refreshes]
          refine runsOn_afterCycle ?_ now ?_
          · change id < (s.commitResult frame result).tasks.length
            rw [tasks_commitResult]
            exact inside
          · intro detail same
            cases same

/-- A cycle is interrupted by its last answer only. -/
theorem not_interrupted_of_reaches {previous : Catalog} {limit : Timeout}
    {exchanges : List Exchange} {talk : Talk (Except CycleStop CycleResult)}
    (reaches : (Cycle.talk previous limit).Reaches exchanges talk)
    (last : ∀ before command detail, exchanges ≠ before ++ [⟨command, .error (.interrupted detail)⟩])
    (detail : Text) : ¬ talk.EndsWith [] (.error (.interrupted detail)) := by
  intro ends
  have whole := Talk.endsWith_iff_reaches.mpr
    (reaches.append (Talk.endsWith_iff_reaches.mp ends))
  rw [List.append_nil] at whole
  cases Cycle.endsProperly_of_endsWith whole with
  | interrupted same => exact last _ _ _ same

theorem runsOn_beginCycle (inside : id < s.tasks.length) (now : Moment) (limit : Timeout)
    {store : Store} (inUse : s.store? = some store) :
    (s.beginCycle now id .refresh limit store).RunsOn id := by
  obtain ⟨begun, -, tasks, outcome⟩ := s.beginCycle_cases now id inUse .refresh limit
  have inBegun : id < begun.tasks.length := by
    rw [tasks]
    exact inside
  rcases outcome with ⟨cause, next⟩ | ⟨executor, next⟩
  · rw [next]
    refine runsOn_afterCycle ?_ now nofun
    exact inBegun
  · rw [next]
    refine runsOn_proceed inBegun now rfl _ ?_
    refine not_interrupted_of_reaches (.start _) ?_
    intro before command detail same
    exact List.append_ne_nil_of_right_ne_nil before (List.cons_ne_nil _ _) same.symm

theorem runsOn_reconcile (inside : id < s.tasks.length) (now : Moment) (timeout : Timeout) :
    (s.reconcile now id .refresh timeout).RunsOn id := by
  unfold reconcile
  cases inUse : s.store? with
  | none => exact runsOn_afterCycle inside now nofun
  | some store =>
      dsimp only
      split
      · refine runsOn_afterCycle ?_ now nofun
        exact inside
      · exact runsOn_beginCycle inside now _ inUse

/-- Whether an event leaves a loop alone: it neither stops the service nor cancels the
loop, and it does not answer the loop with an interruption. -/
def Event.spares (loop : TaskId) : Event → Bool
  | .stop => false
  | .cancel id => id != loop
  | .answered id (.error (.interrupted _)) _ => id != loop
  | _ => true

/-- A cycle that goes on after an answer which is no interruption keeps the loop. -/
theorem Reachable.runsOn_answer (reachable : s.Reachable) {command : Command} {asked : Moment}
    {resume : Answer → Talk (Except CycleStop CycleResult)} {r : Service}
    (present : s.tasks[id]? = some ⟨.inCycle frame command asked resume, false⟩)
    (refreshes : frame.purpose = .refresh) (same : r.tasks = s.tasks) (now : Moment)
    {answer : Answer} (uninterrupted : ∀ detail, answer ≠ .error (.interrupted detail)) :
    (r.proceed now id frame (resume answer)).RunsOn id := by
  have inside : id < s.tasks.length := (List.getElem?_eq_some_iff.mp present).1
  obtain ⟨store, exchanges, -, -, reaches⟩ :=
    reachable.guarded.working id frame _ (s.activity_of_tasks id present)
  refine runsOn_proceed (same ▸ inside) now refreshes _ ?_
  refine not_interrupted_of_reaches (reaches.answer answer) ?_
  intro before other detail equal
  have last := congrArg List.getLast? equal
  rw [List.getLast?_concat, List.getLast?_concat] at last
  cases last
  exact uninterrupted detail rfl

/-- An event that leaves a loop alone lets it run on. -/
theorem RunsOn.step (runs : s.RunsOn loop) (reachable : s.Reachable) (now : Moment)
    (spared : event.spares loop = true) : (s.step now event).RunsOn loop := by
  obtain ⟨state, present, isLoop⟩ := runs
  have inside : loop < s.tasks.length := (List.getElem?_eq_some_iff.mp present).1
  by_cases target : event.target? = some loop
  · cases event with
    | answered id answer entries =>
        cases target
        rw [step, resumeTask, present]
        cases state with
        | inCycle frame command asked resume =>
            have same : ((s.recordCall frame.executor command).sayAll (some frame.number)
                entries).tasks = s.tasks := tasks_sayAll _ _ _
            refine reachable.runsOn_answer present (of_decide_eq_true isLoop) same now ?_
            intro detail same
            subst same
            simp [Event.spares] at spared
        | resting since => exact ⟨_, present, isLoop⟩
        | ready | readingBaseline | joining | ended => cases isLoop
    | expired id =>
        cases target
        rw [step, resumeTask, present]
        cases state with
        | inCycle frame command asked resume =>
            refine reachable.runsOn_answer present (of_decide_eq_true isLoop) rfl now ?_
            intro detail same
            cases same
        | resting since => exact ⟨_, present, isLoop⟩
        | ready | readingBaseline | joining | ended => cases isLoop
    | woken id =>
        cases target
        rw [step, resumeTask, present]
        cases state with
        | resting since => exact runsOn_reconcile inside now none
        | inCycle frame command asked resume => exact ⟨_, present, isLoop⟩
        | ready | readingBaseline | joining | ended => cases isLoop
    | fileRead id | joined id | cancelled id =>
        cases target
        rw [step, resumeTask, present]
        cases state with
        | resting | inCycle => exact ⟨_, present, isLoop⟩
        | ready | readingBaseline | joining | ended => cases isLoop
    | start | stop | reconcile | cancel | subscribe | unsubscribe | drain | replaceExecutor =>
        cases target
  · have there : s.roster.tasks[loop]? = some ⟨state, false⟩ := present
    rcases (steps_step s now event).getElem? there (absurd · target) with same | ⟨ended, -⟩
    · exact ⟨state, same, isLoop⟩
    · rcases ended with rfl | rfl
      · cases spared
      · simp [Event.spares] at spared

theorem RunsOn.after (runs : s.RunsOn loop) (reachable : s.Reachable)
    (spared : ∀ event ∈ events, event.2.spares loop = true) : (s.after events).RunsOn loop := by
  induction events generalizing s with
  | nil => exact runs
  | cons first later ih =>
      obtain ⟨now, event⟩ := first
      exact ih (runs.step reachable now (spared _ List.mem_cons_self)) (.step now event reachable)
        fun other member => spared other (List.mem_cons_of_mem _ member)

/-- A task that becomes a refresh loop was not cancelled yet. -/
theorem runsOn_of_new (before : s.isRefreshLoop id = false)
    (after : (s.step now event).isRefreshLoop id = true) : (s.step now event).RunsOn id := by
  obtain ⟨state, found, isLoop⟩ := isRefreshLoop_iff.mp after
  obtain ⟨task, present, rfl⟩ := Option.map_eq_some_iff.mp found
  obtain ⟨state, doomed⟩ := task
  rcases (steps_step s now event).undoomed present with rfl | was
  · exact ⟨state, present, isLoop⟩
  · cases before.symm.trans (isRefreshLoop_iff.mpr ⟨state, was, isLoop⟩)

/-! ## One cycle after the other -/

/-- Between two cycles of a task it is in no cycle. -/
theorem Reachable.cycles_apart (reachable : s.Reachable) {number other : Nat}
    (underWay : s.board.IsUnderWay id number)
    (afterwards : (s.after events).board.IsUnderWay id other) :
    other = number ∨ ∃ first second, events = first ++ second ∧
      ¬ ((s.after first).activity id).IsCycling := by
  induction events generalizing s with
  | nil =>
      obtain ⟨frame, rest, cycling, rfl⟩ := underWay
      obtain ⟨same, later, again, rfl⟩ := afterwards
      cases cycling.symm.trans again
      exact .inl rfl
  | cons first later ih =>
      obtain ⟨now, event⟩ := first
      by_cases still : ((s.step now event).activity id).IsCycling
      · obtain ⟨frame, rest, cycling, rfl⟩ := underWay
        obtain ⟨next, onward, again⟩ := still
        have same := reachable.frame_eq now event cycling again
        rcases ih (.step now event reachable) ⟨next, onward, again, congrArg _ same⟩ afterwards with
          equal | ⟨begun, rest, rfl, free⟩
        · exact .inl equal
        · exact .inr ⟨(now, event) :: begun, rest, rfl, free⟩
      · exact .inr ⟨[(now, event)], later, rfl, still⟩

theorem Reachable.refreshing_iff (reachable : s.Reachable) {place : Nat} {store : Store}
    (present : s.stores[place]? = some store) :
    store.refreshing = true ↔
      ∃ id frame rest, s.activity id = .cycling frame rest ∧ frame.store = place := by
  constructor
  · exact reachable.guarded.held place store present
  · intro cycles
    obtain ⟨id, frame, rest, cycling, rfl⟩ := cycles
    obtain ⟨held, exchanges, there, refreshing, -⟩ :=
      reachable.guarded.working id frame rest cycling
    cases there.symm.trans present
    exact refreshing

/-! ## A stop that has returned -/

/-- A stop waits for a refresh loop, or the loop has ended. -/
def Awaits (s : Service) (stop loop : TaskId) : Prop :=
  (s.tasks[stop]? = some ⟨.joining loop, false⟩ ∧ loop < s.tasks.length) ∨
    s.roster.HasEnded loop

theorem step_of_hasEnded (ended : s.roster.HasEnded id) (target : event.target? = some id)
    (now : Moment) : s.step now event = s := by
  obtain ⟨⟨state, doomed⟩, present, gone⟩ := ended
  have there : s.tasks[id]? = some ⟨state, doomed⟩ := present
  cases state with
  | ended outcome =>
      cases event with
      | fileRead | answered | expired | woken | joined | cancelled =>
          cases target
          rw [step, resumeTask, there]
          cases doomed with
          | true => rfl
          | false => rfl
      | _ => cases target
  | _ => cases gone

theorem activity_of_hasEnded (ended : s.roster.HasEnded id) : s.activity id = .idle := by
  obtain ⟨⟨state, doomed⟩, present, gone⟩ := ended
  rw [s.activity_of_tasks id present]
  cases state with
  | ended outcome => rfl
  | _ => cases gone

/-- A stop goes on only when the loop that it waits for has ended. -/
theorem step_of_joining {stop : TaskId} (joins : s.tasks[stop]? = some ⟨.joining loop, false⟩)
    (alive : s.isAlive loop = true) (target : event.target? = some stop) (now : Moment) :
    s.step now event = s := by
  cases event with
  | joined id =>
      cases target
      rw [step, resumeTask, joins]
      dsimp only
      rw [if_pos alive]
      rfl
  | fileRead | answered | expired | woken | cancelled =>
      cases target
      rw [step, resumeTask, joins]
      rfl
  | _ => cases target

theorem Awaits.step {stop : TaskId} (awaits : s.Awaits stop loop) (now : Moment) (event : Event) :
    (s.step now event).Awaits stop loop := by
  have steps := steps_step s now event
  rcases awaits with ⟨joins, inside⟩ | ended
  · cases alive : s.isAlive loop with
    | false =>
        have ended : s.roster.HasEnded loop := by
          refine ⟨s.tasks[loop], List.getElem?_eq_getElem inside, ?_⟩
          rw [isAlive, List.getElem?_eq_getElem inside] at alive
          exact alive
        exact .inr (ended.step steps)
    | true =>
        by_cases target : event.target? = some stop
        · rw [step_of_joining joins alive target now]
          exact .inl ⟨joins, inside⟩
        · have there : s.roster.tasks[stop]? = some ⟨.joining loop, false⟩ := joins
          have longer := Nat.lt_of_lt_of_le inside steps.length_le
          rcases steps.getElem? there (absurd · target) with same | ⟨-, same⟩
          · exact .inl ⟨same, longer⟩
          · exact .inl ⟨same, longer⟩
  · exact .inr (ended.step steps)

theorem Awaits.after {stop : TaskId} (awaits : s.Awaits stop loop)
    (events : List (Moment × Event)) : (s.after events).Awaits stop loop := by
  induction events generalizing s with
  | nil => exact awaits
  | cons first later ih => exact ih (awaits.step first.1 first.2)

/-- A stop waits for the loop that is remembered. -/
theorem awaits_stop (runs : s.isRefreshLoop loop = true) (remembered : s.refresher = some loop)
    (now : Moment) : (s.step now .stop).Awaits s.tasks.length loop := by
  obtain ⟨state, found, -⟩ := isRefreshLoop_iff.mp runs
  obtain ⟨task, present, -⟩ := Option.map_eq_some_iff.mp found
  have inside : loop < s.tasks.length := (List.getElem?_eq_some_iff.mp present).1
  have length : s.tasks.length < (s.addCall.doom loop).tasks.length := by
    rw [doom, List.length_modify]
    exact s.length_addCall
  rw [step_stop runs remembered]
  refine .inl ⟨List.getElem?_set_self length, ?_⟩
  rw [setState, List.length_set]
  exact inside.trans length

/-- A stop that has returned has ended the loop that it waited for. -/
theorem Awaits.hasEnded {stop : TaskId} (awaits : s.Awaits stop loop)
    (returned : s.isAlive stop = false) : s.roster.HasEnded loop := by
  refine awaits.resolve_left fun joins => ?_
  rw [isAlive, joins.1] at returned
  cases returned

/-- A refresh loop lives until the service is stopped: a task that becomes one is one as
long as no stop is called and nobody interrupts it from outside.  Between two of its cycles
it is in none, and a guard is held just while some task is in a cycle on its store.  Once a
stop has returned, the loop that runs, which is the one that is remembered if starts and
stops do not overlap, has ended for good and changes nothing any longer. -/
theorem refresh_loop_lives_until_stop (settings : Settings) (tree : FileTree)
    (baseline : BaselineOrigin) (executor : Option Executor) (events : List (Moment × Event)) :
    let created := create settings tree baseline executor
    let s := created.after events
    (∀ now event loop, s.isRefreshLoop loop = false →
      (s.step now event).isRefreshLoop loop = true →
      ∀ later, (∀ event ∈ later, event.2.spares loop = true) →
        ((s.step now event).after later).isRefreshLoop loop = true) ∧
    (∀ loop number other later, s.board.IsUnderWay loop number →
      (s.after later).board.IsUnderWay loop other →
      other = number ∨ ∃ first second, later = first ++ second ∧
        ¬ ((s.after first).activity loop).IsCycling) ∧
    (∀ place store, s.stores[place]? = some store → (store.refreshing = true ↔
      ∃ id frame rest, s.activity id = .cycling frame rest ∧ frame.store = place)) ∧
    ∀ loop, s.isRefreshLoop loop = true →
      created.StartsApart events ∨ s.refresher = some loop →
      ∀ now later, ((s.step now .stop).after later).isAlive s.tasks.length = false →
        ∀ afterwards,
          let t := ((s.step now .stop).after later).after afterwards
          t.isAlive loop = false ∧ t.activity loop = .idle ∧
            ∀ moment event, event.target? = some loop → t.step moment event = t := by
  intro created s
  have begun : created.Reachable := .create settings tree baseline executor
  have reachable : s.Reachable := begun.after events
  refine ⟨?_, ?_, ?_, ?_⟩
  · intro now event loop before new later spared
    have runs := runsOn_of_new before new
    exact (runs.after (.step now event reachable) spared).isRefreshLoop
  · intro loop number other later underWay afterwards
    exact reachable.cycles_apart underWay afterwards
  · intro place store present
    exact reachable.refreshing_iff present
  · intro loop runs origin now later returned afterwards t
    have remembered : s.refresher = some loop := by
      rcases origin with apart | remembered
      · have kept : s.roster.IsKept := isKept_after (Roster.IsKept.of_no_tasks rfl) apart
        obtain ⟨state, found, isLoop⟩ := isRefreshLoop_iff.mp runs
        exact kept.runs loop state found isLoop
      · exact remembered
    have awaits := (awaits_stop runs remembered now).after later
    have ended : t.roster.HasEnded loop := hasEnded_after (awaits.hasEnded returned) afterwards
    exact ⟨ended.isAlive, activity_of_hasEnded ended,
      fun moment event target => step_of_hasEnded ended target moment⟩

/-- The loop of a service that refreshes every minute outlives a cycle that takes too
long, and a stop ends it. -/
theorem refresh_loop_lives_until_stop_minutely :
    let begun := minutely.after [(0, .start)]
    let answer := Event.answered 0 (.ok [91, 93]) []
    let started := minutely.after [(0, .start), (1, answer)]
    let stopped := (started.step 2 .stop).after [(3, .cancelled 1), (4, .joined 2)]
    begun.isRefreshLoop 1 = false ∧ (begun.step 1 answer).isRefreshLoop 1 = true ∧
      ((begun.step 1 answer).after [(61, .woken 1), (62, .expired 1)]).isRefreshLoop 1 = true ∧
      started.refresher = some 1 ∧ stopped.isAlive started.tasks.length = false ∧
      stopped.isAlive 1 = false := by
  intro begun answer started stopped
  have before : begun.isRefreshLoop 1 = false := by decide +kernel
  have runs : started.isRefreshLoop 1 = true := by decide +kernel
  have remembered : started.refresher = some 1 := by decide +kernel
  have returned : stopped.isAlive started.tasks.length = false := by decide +kernel
  obtain ⟨lives, -, -, -⟩ := refresh_loop_lives_until_stop _ _ _ _ [(0, .start)]
  obtain ⟨-, -, -, ends⟩ :=
    refresh_loop_lives_until_stop _ _ _ _ [(0, .start), (1, answer)]
  refine ⟨before, runs, lives 1 answer 1 before runs _ (by decide), remembered, returned, ?_⟩
  exact (ends 1 runs (.inr remembered) 2 [(3, .cancelled 1), (4, .joined 2)] returned []).1

end Service
end Tunables
