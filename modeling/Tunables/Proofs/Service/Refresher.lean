import Tunables.Proofs.Service.Roster

/-!
# The refresh loop that is remembered

The loop that runs is the one that the roster remembers, as long as none is started
while a stop waits.  None is if stops are called one after the other.
-/

namespace Tunables
namespace Roster

/-- The state of a task. -/
def state? (r : Roster) (id : TaskId) : Option TaskState :=
  (r.tasks[id]?).map (·.state)

/-- Whether a stop waits for the refresh loop to end. -/
def isStopping (r : Roster) : Bool :=
  r.tasks.any (·.state.isJoining)

variable {r t : Roster} {id other loop : TaskId} {state : TaskState} {task : Task}
  {refreshes : Bool} {event : Service.Event}

theorem state?_of_tasks (present : r.tasks[id]? = some task) : r.state? id = some task.state := by
  rw [state?, present, Option.map_some]

theorem state?_set_iff {now : TaskState} :
    (r.set id state).state? other = some now ↔
      (other = id ∧ id < r.tasks.length ∧ state = now) ∨
        (other ≠ id ∧ r.state? other = some now) := by
  unfold state? set
  dsimp only
  by_cases same : other = id
  · subst same
    by_cases inside : other < r.tasks.length
    · simp [inside]
    · simp [inside]
  · have different : ¬ id = other := fun equal => same equal.symm
    simp [same, different]

theorem state?_append_iff {now : TaskState} {refresher : Option TaskId} :
    (Roster.mk (r.tasks ++ [⟨state, false⟩]) refresher).state? other = some now ↔
      (other = r.tasks.length ∧ state = now) ∨ r.state? other = some now := by
  unfold state?
  dsimp only
  rcases Nat.lt_trichotomy other r.tasks.length with earlier | last | later
  · have different : ¬ other = r.tasks.length := Nat.ne_of_lt earlier
    simp [List.getElem?_append_left earlier, different]
  · simp [last]
  · have absent : (r.tasks ++ [⟨state, false⟩])[other]? = none := by
      rw [List.getElem?_eq_none_iff, List.length_append, List.length_singleton]
      exact later
    have different : ¬ other = r.tasks.length := Nat.ne_of_gt later
    simp [absent, List.getElem?_eq_none (Nat.le_of_lt later), different]

@[simp] theorem state?_doom : (r.doom id).state? other = r.state? other := by
  unfold state? doom
  dsimp only
  rw [List.getElem?_modify]
  cases r.tasks[other]? with
  | none => rfl
  | some task =>
      by_cases here : id = other
      · simp [here, Task.state_doom]
      · simp [here]

theorem not_isJoining_of_isStopping (free : r.isStopping = false)
    (found : r.state? id = some state) : state.isJoining = false := by
  obtain ⟨task, present, rfl⟩ := Option.map_eq_some_iff.mp found
  exact Bool.eq_false_iff.mpr (List.any_eq_false.mp free task (List.mem_of_getElem? present))

@[simp] theorem isStopping_add : (r.add .ready).isStopping = r.isStopping := by
  simp [isStopping, add, TaskState.isJoining]

theorem isAlive_of_isLoop (found : r.state? id = some state) (isLoop : state.isLoop = true) :
    r.isAlive id = true := by
  obtain ⟨task, present, rfl⟩ := Option.map_eq_some_iff.mp found
  obtain ⟨now, doomed⟩ := task
  rw [isAlive, present]
  cases now with
  | ended outcome => cases isLoop
  | _ => rfl

/-! ## The loop that is remembered -/

/-- A refresh loop that runs is remembered, and a loop that a stop waits for is the
remembered one, unless none is. -/
structure IsKept (r : Roster) : Prop where
  runs : ∀ id state, r.state? id = some state → state.isLoop = true → r.refresher = some id
  awaited : ∀ id loop, r.state? id = some (.joining loop) →
    ∀ remembered, r.refresher = some remembered → remembered = loop

namespace IsKept

theorem of_no_tasks (none : r.tasks = []) : r.IsKept := by
  have empty : ∀ id, r.state? id = .none := by
    intro id
    rw [state?, none]
    rfl
  constructor
  · intro id state found
    cases (empty id).symm.trans found
  · intro id loop found
    cases (empty id).symm.trans found

/-- No loop runs when the remembered one has ended. -/
theorem not_isLoop (kept : r.IsKept)
    (idle : ∀ loop, r.refresher = some loop → r.isAlive loop = false)
    (found : r.state? id = some state) : state.isLoop = false := by
  apply Bool.eq_false_iff.mpr
  intro isLoop
  cases (idle id (kept.runs id state found isLoop)).symm.trans (isAlive_of_isLoop found isLoop)

/-- One task is in a new state.  If that is a loop's, the task is remembered, and if it
is a stop's, the stop waits for the loop that is. -/
theorem assign (kept : r.IsKept) (refresher : t.refresher = r.refresher)
    (states : ∀ other now, t.state? other = some now →
      (other = id ∧ state = now) ∨ r.state? other = some now)
    (loop : state.isLoop = true → r.refresher = some id)
    (awaits : ∀ loop, state = .joining loop → r.refresher = some loop) : t.IsKept := by
  constructor
  · intro other now found isLoop
    rw [refresher]
    rcases states other now found with ⟨rfl, rfl⟩ | before
    · exact loop isLoop
    · exact kept.runs other now before isLoop
  · intro other awaited found remembered same
    rw [refresher] at same
    rcases states other _ found with ⟨-, joins⟩ | before
    · exact Option.some.inj (same.symm.trans (awaits awaited joins))
    · exact kept.awaited other awaited before remembered same

theorem set (kept : r.IsKept) (loop : state.isLoop = true → r.refresher = some id)
    (awaits : ∀ loop, state = .joining loop → r.refresher = some loop) :
    (r.set id state).IsKept := by
  refine kept.assign rfl ?_ loop awaits
  intro other now found
  exact (state?_set_iff.mp found).imp (fun here => ⟨here.1, here.2.2⟩) And.right

theorem add (kept : r.IsKept) : (r.add .ready).IsKept :=
  kept.assign rfl (fun _ _ => state?_append_iff.mp) nofun nofun

theorem doom (kept : r.IsKept) (id : TaskId) : (r.doom id).IsKept := by
  constructor
  · simp only [state?_doom]
    exact kept.runs
  · simp only [state?_doom]
    exact kept.awaited

theorem forget (idle : ∀ id state, r.state? id = some state → state.isLoop = false) :
    r.forget.IsKept := by
  constructor
  · intro id state found isLoop
    cases (idle id state found).symm.trans isLoop
  · intro id loop found remembered same
    cases same

/-- A loop may be added when none is remembered and no stop waits. -/
theorem addLoop (kept : r.IsKept) (none : r.refresher = none) (free : r.isStopping = false)
    (since : Moment) : (r.addLoop since).IsKept := by
  constructor
  · intro other now found isLoop
    rcases state?_append_iff.mp found with ⟨rfl, -⟩ | before
    · rfl
    · cases none.symm.trans (kept.runs other now before isLoop)
  · intro other awaited found
    rcases state?_append_iff.mp found with ⟨-, impossible⟩ | before
    · cases impossible
    · cases not_isJoining_of_isStopping free before

theorem works (kept : r.IsKept) (works : r.Works id refreshes t)
    (own : refreshes = true → r.refresher = some id)
    (apart : r.refresher = none → t.refresher ≠ none → r.isStopping = false) : t.IsKept := by
  cases works with
  | goesOn state loop free =>
      refine kept.set (fun isLoop => own (loop isLoop)) ?_
      intro awaited joins
      subst joins
      cases free
  | starts since outcome none =>
      exact (kept.addLoop none (apart none nofun) since).set nofun nofun

/-- A step keeps the loop, unless it starts one while a stop waits. -/
theorem step (kept : r.IsKept) (steps : r.Steps event t)
    (apart : r.refresher = none → t.refresher ≠ none → r.isStopping = false) : t.IsKept := by
  cases steps with
  | quiet => exact kept
  | dooms id cancel => exact kept.doom id
  | calls works =>
      refine kept.add.works works nofun ?_
      rw [isStopping_add]
      exact apart
  | works id task target present alive works =>
      refine kept.works works ?_ apart
      intro isLoop
      exact kept.runs id task.state (state?_of_tasks present) isLoop
  | stops stop idle =>
      exact (forget fun _ _ => kept.add.not_isLoop idle).set nofun nofun
  | joins loop stop remembered =>
      refine (kept.add.doom loop).set nofun ?_
      intro awaited joins
      cases joins
      exact remembered
  | joined id loop task target present waits gone =>
      -- If a loop is remembered, it is the one that this stop waited for.
      refine (forget fun _ _ => kept.not_isLoop ?_).set nofun nofun
      intro remembered same
      have waiting : r.state? id = some (.joining loop) := by
        rw [state?_of_tasks present, waits]
      rw [kept.awaited id loop waiting remembered same]
      exact gone

end IsKept

/-! ## Stops one after the other -/

/-- At most one stop waits, and it waits for the loop that is remembered. -/
structure HasOneStop (r : Roster) : Prop where
  awaited : ∀ id loop, r.state? id = some (.joining loop) → r.refresher = some loop
  alone : ∀ first second loop other, r.state? first = some (.joining loop) →
    r.state? second = some (.joining other) → first = second

namespace HasOneStop

theorem of_free (free : ∀ id loop, r.state? id ≠ some (.joining loop)) : r.HasOneStop := by
  constructor
  · intro id loop found
    exact absurd found (free id loop)
  · intro first second loop other found
    exact absurd found (free first loop)

theorem isStopping_eq_false (one : r.HasOneStop) (none : r.refresher = none) :
    r.isStopping = false := by
  apply List.any_eq_false.mpr
  intro task member waits
  obtain ⟨id, present⟩ := List.mem_iff_getElem?.mp member
  obtain ⟨state, doomed⟩ := task
  cases state with
  | joining loop => cases none.symm.trans (one.awaited id loop (state?_of_tasks present))
  | _ => cases waits

/-- Stops that waited before are all that matter. -/
theorem of_awaits (one : r.HasOneStop) (refresher : t.refresher = r.refresher)
    (awaits : ∀ id loop, t.state? id = some (.joining loop) → r.state? id = some (.joining loop)) :
    t.HasOneStop := by
  constructor
  · intro id loop found
    rw [refresher]
    exact one.awaited id loop (awaits id loop found)
  · intro first second loop other firstWaits secondWaits
    exact one.alone first second loop other (awaits first loop firstWaits)
      (awaits second other secondWaits)

theorem set (one : r.HasOneStop) (free : state.isJoining = false) :
    (r.set id state).HasOneStop := by
  refine one.of_awaits rfl ?_
  intro other loop found
  rcases state?_set_iff.mp found with ⟨-, -, rfl⟩ | ⟨-, before⟩
  · cases free
  · exact before

theorem add (one : r.HasOneStop) : (r.add .ready).HasOneStop :=
  one.of_awaits rfl fun _ _ found => (state?_append_iff.mp found).resolve_left nofun

theorem works (one : r.HasOneStop) (works : r.Works id refreshes t) : t.HasOneStop := by
  cases works with
  | goesOn state loop free => exact one.set free
  | starts since outcome none =>
      -- A stop that waits would have a loop to wait for, but none is remembered.
      have free : (r.addLoop since).HasOneStop := by
        apply of_free
        intro other loop found
        rcases state?_append_iff.mp found with ⟨-, impossible⟩ | before
        · cases impossible
        · cases none.symm.trans (one.awaited other loop before)
      exact free.set rfl

/-- A step keeps this up, unless it is a stop while another one waits. -/
theorem step (one : r.HasOneStop) (steps : r.Steps event t)
    (apart : event = .stop → r.isStopping = false) : t.HasOneStop := by
  have unawaited : event = .stop → ∀ id loop, (r.add .ready).state? id ≠ some (.joining loop) := by
    intro stop id loop found
    cases not_isJoining_of_isStopping (isStopping_add.trans (apart stop)) found
  cases steps with
  | quiet => exact one
  | dooms id cancel =>
      refine one.of_awaits rfl ?_
      simp only [state?_doom]
      exact fun _ _ found => found
  | calls works => exact one.add.works works
  | works id task target present alive works => exact one.works works
  | stops stop idle =>
      have free : (r.add .ready).forget.HasOneStop := of_free (unawaited stop)
      exact free.set rfl
  | joins loop stop remembered =>
      have only : ∀ id other,
          (((r.add .ready).doom loop).set r.tasks.length (.joining loop)).state? id =
            some (.joining other) → id = r.tasks.length ∧ loop = other := by
        intro id other found
        rcases state?_set_iff.mp found with ⟨rfl, -, same⟩ | ⟨-, before⟩
        · cases same
          exact ⟨rfl, rfl⟩
        · rw [state?_doom] at before
          exact absurd before (unawaited stop id other)
      constructor
      · intro id other found
        obtain ⟨-, rfl⟩ := only id other found
        exact remembered
      · intro first second awaited other firstWaits secondWaits
        exact (only first awaited firstWaits).1.trans (only second other secondWaits).1.symm
  | joined id loop task target present waits gone =>
      have waiting : r.state? id = some (.joining loop) := by
        rw [state?_of_tasks present, waits]
      apply of_free
      intro other awaited found
      rcases state?_set_iff.mp found with ⟨-, -, impossible⟩ | ⟨different, before⟩
      · cases impossible
      · exact different (one.alone other id awaited loop before waiting)

end HasOneStop

end Roster
end Tunables
