import Tunables.Proofs.CutOff
import Tunables.Proofs.Service.Guard
import Tunables.Proofs.Service.Refresher

/-!
# Stopping a service

A stop cancels the refresh loop that is remembered.  If no other one runs, none is left
once the cancelled loop was resumed.
-/

namespace Tunables

namespace Task

variable {task : Task}

@[simp] theorem isAlive_doom : task.doom.isAlive = task.isAlive := by
  rw [isAlive, outcome?, state_doom]
  rfl

theorem doomed_doom_of_doomed (doomed : task.doomed = true) : task.doom.doomed = true := by
  unfold doom
  split
  · exact doomed
  · exact doomed
  · rfl

theorem doomed_doom_of_isLoop (isLoop : task.state.isLoop = true) : task.doom.doomed = true := by
  obtain ⟨state, doomed⟩ := task
  cases state with
  | resting | inCycle => rfl
  | ready | readingBaseline | joining | ended => cases isLoop

end Task

namespace Roster

variable {r t : Roster} {id other : TaskId} {state : TaskState} {task : Task}
  {refreshes : Bool} {event : Service.Event}

/-! ## What becomes of one task -/

theorem getElem?_set_of_ne (away : other ≠ id) : (r.set id state).tasks[other]? = r.tasks[other]? :=
  List.getElem?_set_ne (fun equal => away equal.symm)

theorem getElem?_append_of_present {added : Task} (present : r.tasks[id]? = some task) :
    (r.tasks ++ [added])[id]? = some task := by
  rw [List.getElem?_append_left (List.getElem?_eq_some_iff.mp present).1]
  exact present

theorem getElem?_doom_self (present : r.tasks[id]? = some task) :
    (r.doom id).tasks[id]? = some task.doom := by
  unfold doom
  dsimp only
  rw [List.getElem?_modify_eq, present]
  rfl

theorem getElem?_doom (present : r.tasks[id]? = some task) :
    (r.doom other).tasks[id]? = some task ∨
      id = other ∧ (r.doom other).tasks[id]? = some task.doom := by
  by_cases here : id = other
  · subst here
    exact .inr ⟨rfl, getElem?_doom_self present⟩
  · exact .inl ((List.getElem?_modify_ne Task.doom r.tasks (Ne.symm here)).trans present)

theorem Works.getElem? (works : r.Works other refreshes t) (present : r.tasks[id]? = some task)
    (away : id ≠ other) : t.tasks[id]? = some task := by
  cases works with
  | goesOn state loop free => rw [getElem?_set_of_ne away, present]
  | starts since outcome none =>
      rw [getElem?_set_of_ne away]
      exact getElem?_append_of_present present

/-- A task that a step does not resume, or that has ended, stays as it is unless it is
cancelled. -/
theorem Steps.getElem? (steps : r.Steps event t) (present : r.tasks[id]? = some task)
    (away : event.target? = some id → task.isAlive = false) :
    t.tasks[id]? = some task ∨
      (event = .stop ∨ event = .cancel id) ∧ t.tasks[id]? = some task.doom := by
  have inside : id < r.tasks.length := (List.getElem?_eq_some_iff.mp present).1
  have apart : id ≠ r.tasks.length := Nat.ne_of_lt inside
  cases steps with
  | quiet => exact .inl present
  | dooms other cancel =>
      refine (getElem?_doom present).imp_right fun doomed => ?_
      obtain ⟨rfl, gone⟩ := doomed
      exact ⟨.inr cancel, gone⟩
  | calls works => exact .inl (works.getElem? (getElem?_append_of_present present) apart)
  | works other resumed target there alive works =>
      refine .inl (works.getElem? present ?_)
      intro same
      subst same
      cases there.symm.trans present
      cases alive.symm.trans (away target)
  | stops stop idle =>
      rw [getElem?_set_of_ne apart]
      exact .inl (getElem?_append_of_present present)
  | joins loop stop remembered =>
      rw [getElem?_set_of_ne apart]
      exact (getElem?_doom (getElem?_append_of_present present)).imp_right
        fun doomed => ⟨.inl stop, doomed.2⟩
  | joined other loop resumed target there waits gone =>
      have different : id ≠ other := by
        intro same
        subst same
        cases there.symm.trans present
        have gone := away target
        rw [Task.isAlive, Task.outcome?, waits] at gone
        cases gone
      rw [getElem?_set_of_ne different]
      exact .inl present

/-- A task has ended. -/
def HasEnded (r : Roster) (id : TaskId) : Prop :=
  ∃ task, r.tasks[id]? = some task ∧ task.isAlive = false

/-- A refresh loop is about to be cancelled, or it has ended. -/
def IsStopped (r : Roster) (id : TaskId) : Prop :=
  ∃ task, r.tasks[id]? = some task ∧
    (task.isAlive = true → task.doomed = true ∧ task.state.isLoop = true)

theorem HasEnded.isAlive (ended : r.HasEnded id) : r.isAlive id = false := by
  obtain ⟨task, present, gone⟩ := ended
  rw [Roster.isAlive, present]
  exact gone

theorem HasEnded.step (ended : r.HasEnded id) (steps : r.Steps event t) : t.HasEnded id := by
  obtain ⟨task, present, gone⟩ := ended
  rcases steps.getElem? present (fun _ => gone) with same | ⟨-, doomed⟩
  · exact ⟨task, same, gone⟩
  · exact ⟨task.doom, doomed, by rw [Task.isAlive_doom, gone]⟩

/-- A stopped loop is as it was, as long as it is not resumed. -/
theorem IsStopped.step (stopped : r.IsStopped id) (steps : r.Steps event t)
    (away : event.target? ≠ some id) : t.IsStopped id := by
  obtain ⟨task, present, doomed⟩ := stopped
  rcases steps.getElem? present (fun target => absurd target away) with same | ⟨-, again⟩
  · exact ⟨task, same, doomed⟩
  · refine ⟨task.doom, again, ?_⟩
    rw [Task.isAlive_doom, Task.state_doom]
    intro alive
    exact ⟨Task.doomed_doom_of_doomed (doomed alive).1, (doomed alive).2⟩

end Roster

namespace Service

variable {s : Service} {now : Moment} {id loop : TaskId} {event : Event}
  {events : List (Moment × Event)}

/-! ## A loop that is cancelled -/

theorem step_of_target (s : Service) (now : Moment) (target : event.target? = some id) :
    ∃ resume, s.step now event = s.resumeTask now id resume := by
  cases event with
  | fileRead | answered | expired | woken | joined | cancelled =>
      cases target
      rw [step]
      exact ⟨_, rfl⟩
  | _ => cases target

theorem hasEnded_endTask (inside : id < s.tasks.length) (outcome : CallOutcome) :
    (s.endTask id outcome).roster.HasEnded id :=
  ⟨⟨.ended outcome, false⟩, List.getElem?_set_self inside, rfl⟩

/-- A cancellation ends a refresh loop, whether it rests or waits for an answer. -/
theorem Reachable.hasEnded_deliverCancellation (reachable : s.Reachable) {task : Task}
    (present : s.tasks[id]? = some task) (isLoop : task.state.isLoop = true) :
    (s.deliverCancellation now id task.state).roster.HasEnded id := by
  have inside : id < s.tasks.length := (List.getElem?_eq_some_iff.mp present).1
  obtain ⟨state, doomed⟩ := task
  cases state with
  | resting since => exact hasEnded_endTask inside _
  | inCycle frame command asked resume =>
      have refreshes : frame.purpose = .refresh := of_decide_eq_true isLoop
      have cycling := s.activity_of_tasks id present
      obtain ⟨store, exchanges, inUse, -, reaches⟩ :=
        reachable.guarded.working id frame (.ask command resume) cycling
      -- However far the cycle has got, its talk takes a cancellation as its end.
      have fatal : Fault.cancellation.isKnown = false := rfl
      have gaveUp := (Cycle.givesUp_talk fatal store.current frame.limit).endsWith_of_reaches reaches
      unfold deliverCancellation
      dsimp only
      cases proceeds now (resume (.error .cancellation)) inUse inside with
      | waits next later onward => exact absurd onward gaveUp.not_reaches_ask
      | reports base result ends => cases gaveUp.unique ends
      | fails base stop ends board tasks next =>
          cases gaveUp.unique ends
          rw [next, refreshes]
          exact hasEnded_endTask (tasks ▸ inside) _
  | ready | readingBaseline | joining | ended => cases isLoop

/-- A stopped loop that is resumed has ended. -/
theorem Reachable.hasEnded_step (reachable : s.Reachable) (stopped : s.roster.IsStopped id)
    (now : Moment) (target : event.target? = some id) : (s.step now event).roster.HasEnded id := by
  obtain ⟨task, present, doomed⟩ := stopped
  cases alive : task.isAlive with
  | false => exact Roster.HasEnded.step ⟨task, present, alive⟩ (steps_step s now event)
  | true =>
      obtain ⟨isDoomed, isLoop⟩ := doomed alive
      obtain ⟨resume, resumed⟩ := step_of_target s now target
      have there : s.tasks[id]? = some task := present
      rw [resumed, resumeTask, there]
      dsimp only
      rw [if_pos isDoomed]
      exact reachable.hasEnded_deliverCancellation there isLoop

theorem hasEnded_after (ended : s.roster.HasEnded id) (events : List (Moment × Event)) :
    (s.after events).roster.HasEnded id := by
  induction events generalizing s with
  | nil => exact ended
  | cons first later ih => exact ih (ended.step (steps_step s first.1 first.2))

/-- A stopped loop has ended once it was resumed. -/
theorem Reachable.hasEnded_after (reachable : s.Reachable) (stopped : s.roster.IsStopped id)
    (resumed : ∃ event ∈ events, event.2.target? = some id) :
    (s.after events).roster.HasEnded id := by
  induction events generalizing s with
  | nil =>
      obtain ⟨event, member, -⟩ := resumed
      cases member
  | cons first later ih =>
      obtain ⟨now, event⟩ := first
      rw [after_cons]
      by_cases target : event.target? = some id
      · exact Service.hasEnded_after (reachable.hasEnded_step stopped now target) later
      · apply ih (.step now event reachable) (stopped.step (steps_step s now event) target)
        obtain ⟨other, member, same⟩ := resumed
        rcases List.mem_cons.mp member with rfl | further
        · exact absurd same target
        · exact ⟨other, further, same⟩

/-! ## The refresh loop of a service -/

/-- Whether a task is a refresh loop that runs. -/
def isRefreshLoop (s : Service) (id : TaskId) : Bool :=
  (s.roster.state? id).any TaskState.isLoop

theorem isRefreshLoop_iff : s.isRefreshLoop id = true ↔
    ∃ state, s.roster.state? id = some state ∧ state.isLoop = true := by
  rw [isRefreshLoop, Option.any_eq_true]

/-- Whether a stop waits for a refresh loop to end. -/
def isStopping (s : Service) : Bool :=
  s.roster.isStopping

/-- No refresh loop is started while a stop waits. -/
def StartsApart (s : Service) : List (Moment × Event) → Prop
  | [] => True
  | (now, event) :: later =>
      (s.refresher = none → (s.step now event).refresher ≠ none → s.isStopping = false) ∧
        (s.step now event).StartsApart later

instance decidableStartsApart (s : Service) :
    (events : List (Moment × Event)) → Decidable (s.StartsApart events)
  | [] => .isTrue trivial
  | (now, event) :: later =>
      have := decidableStartsApart (s.step now event) later
      inferInstanceAs (Decidable (_ ∧ _))

/-- No stop is called while another one waits. -/
def StopsApart (s : Service) : List (Moment × Event) → Prop
  | [] => True
  | (now, event) :: later =>
      (event = .stop → s.isStopping = false) ∧ (s.step now event).StopsApart later

/-- If stops are called one after the other, no loop is started while one waits. -/
theorem StopsApart.startsApart (apart : s.StopsApart events) (one : s.roster.HasOneStop) :
    s.StartsApart events := by
  induction events generalizing s with
  | nil => trivial
  | cons first later ih =>
      obtain ⟨stop, after⟩ := apart
      refine ⟨fun none _ => one.isStopping_eq_false none, ih after ?_⟩
      exact one.step (steps_step s first.1 first.2) stop

theorem StopsApart.startsApart_create (settings : Settings) (tree : FileTree)
    (baseline : BaselineOrigin) (executor : Option Executor)
    (apart : (create settings tree baseline executor).StopsApart events) :
    (create settings tree baseline executor).StartsApart events :=
  apart.startsApart (.of_free fun _ _ => nofun)

theorem isKept_after (kept : s.roster.IsKept) (apart : s.StartsApart events) :
    (s.after events).roster.IsKept := by
  induction events generalizing s with
  | nil => exact kept
  | cons first later ih =>
      obtain ⟨start, after⟩ := apart
      exact ih (kept.step (steps_step s first.1 first.2) start) after

/-- A stop cancels the loop that is remembered, and waits for it. -/
theorem step_stop (runs : s.isRefreshLoop loop = true) (remembered : s.refresher = some loop)
    (now : Moment) :
    s.step now .stop = (s.addCall.doom loop).setState s.tasks.length (.joining loop) := by
  obtain ⟨state, found, isLoop⟩ := isRefreshLoop_iff.mp runs
  obtain ⟨task, present, rfl⟩ := Option.map_eq_some_iff.mp found
  have there : (s.roster.add .ready).tasks[loop]? = some task :=
    Roster.getElem?_append_of_present present
  have alive : s.addCall.isAlive loop = true :=
    Roster.isAlive_of_isLoop (Roster.state?_of_tasks there) isLoop
  have again : s.addCall.refresher = some loop := remembered
  rw [step, stop, again]
  dsimp only
  rw [if_pos alive]

theorem isStopped_stop (runs : s.isRefreshLoop loop = true) (remembered : s.refresher = some loop)
    (now : Moment) : (s.step now .stop).roster.IsStopped loop := by
  obtain ⟨state, found, isLoop⟩ := isRefreshLoop_iff.mp runs
  obtain ⟨task, present, rfl⟩ := Option.map_eq_some_iff.mp found
  have there : (s.roster.add .ready).tasks[loop]? = some task :=
    Roster.getElem?_append_of_present present
  have apart : loop ≠ s.tasks.length :=
    Nat.ne_of_lt (List.getElem?_eq_some_iff.mp present).1
  rw [step_stop runs remembered]
  refine ⟨task.doom, ?_, fun _ => ⟨Task.doomed_doom_of_isLoop isLoop, ?_⟩⟩
  · exact (Roster.getElem?_set_of_ne apart).trans (Roster.getElem?_doom_self there)
  · rw [Task.state_doom]
    exact isLoop

/-- As long as no refresh loop is started while a stop waits, a loop that runs is the
one that is remembered, there is at most one, and a stop ends it: once the loop was
resumed after that, it runs no longer. -/
theorem refresh_loop_is_remembered (settings : Settings) (tree : FileTree)
    (baseline : BaselineOrigin) (executor : Option Executor) (events : List (Moment × Event))
    (apart : (create settings tree baseline executor).StartsApart events) :
    let s := (create settings tree baseline executor).after events
    (∀ loop, s.isRefreshLoop loop = true → s.refresher = some loop) ∧
    (∀ first second, s.isRefreshLoop first = true → s.isRefreshLoop second = true →
      first = second) ∧
    ∀ loop, s.isRefreshLoop loop = true → ∀ now later,
      (∃ event ∈ later, event.2.target? = some loop) →
        ((s.step now .stop).after later).isAlive loop = false := by
  intro s
  have reachable : s.Reachable := (Reachable.create settings tree baseline executor).after events
  have kept : s.roster.IsKept := isKept_after (Roster.IsKept.of_no_tasks rfl) apart
  have remembered : ∀ loop, s.isRefreshLoop loop = true → s.refresher = some loop := by
    intro loop runs
    obtain ⟨state, found, isLoop⟩ := isRefreshLoop_iff.mp runs
    exact kept.runs loop state found isLoop
  refine ⟨remembered, ?_, ?_⟩
  · intro first second firstRuns secondRuns
    exact Option.some.inj ((remembered first firstRuns).symm.trans (remembered second secondRuns))
  · intro loop runs now later resumed
    have stopped := isStopped_stop runs (remembered loop runs) now
    have ended := Reachable.hasEnded_after (.step now .stop reachable) stopped resumed
    exact ended.isAlive

/-- A service that refreshes its catalog every minute. -/
def minutely : Service :=
  create { Settings.standard with refreshInterval := Settings.seconds 60 } .empty
    (.catalog .empty) (some (.script .empty))

/-- A service that was started is stopped, started and stopped once more. -/
theorem refresh_loop_is_remembered_restart :
    let events : List (Moment × Event) :=
      [(0, .start), (1, .answered 0 (.ok [91, 93]) []), (2, .stop), (3, .cancelled 1),
        (4, .joined 2), (5, .start)]
    minutely.StartsApart events ∧ (minutely.after events).isRefreshLoop 4 = true ∧
      (minutely.after events).refresher = some 4 ∧
      (((minutely.after events).step 6 .stop).after [(7, .cancelled 4)]).isAlive 4 = false := by
  intro events
  have apart : minutely.StartsApart events := by decide +kernel
  have runs : (minutely.after events).isRefreshLoop 4 = true := by decide +kernel
  obtain ⟨remembered, -, ends⟩ := refresh_loop_is_remembered _ _ _ _ events apart
  exact ⟨apart, runs, remembered 4 runs,
    ends 4 runs 6 [(7, .cancelled 4)] ⟨_, List.mem_singleton_self _, rfl⟩⟩

/-- Of two stops that wait for the same loop, the second one forgets the loop that was
started after the first one.  That loop then runs beside another one, and a stop does not
end it. -/
theorem refresh_loop_forgotten :
    let s := minutely.after
      [(0, .start), (1, .answered 0 (.ok [91, 93]) []), (2, .stop), (2, .stop), (2, .cancelled 1),
        (2, .joined 2), (2, .start), (2, .joined 3), (2, .start)]
    s.isRefreshLoop 5 = true ∧ s.isRefreshLoop 7 = true ∧ s.refresher = some 7 ∧
      ((s.step 3 .stop).after [(3, .cancelled 7), (3, .joined 8)]).isRefreshLoop 5 = true := by
  decide +kernel

end Service
end Tunables
