import Mathlib.Order.Interval.Set.Basic
import Tunables.Proofs.Service.Scopes
import Tunables.Proofs.Tool

/-!
# Correlation ids

The logger looks up the id of a line in the context of the task that logs it.  A task
in a cycle is in the scope of this cycle and in no other one; a task in no cycle has the
context that it began with.  So a line is shown with the id of its cycle, or with none.
-/

namespace Tunables

/-- A line as it is shown: with the id of its cycle, or else with a dash. -/
def shownLine (ids : Nat → Text) (line : StampedEntry) : ShownEntry :=
  ⟨(line.cycle.map ids).getD Console.noCorrelation, line.entry⟩

/-- The context of a task in a cycle, or in none. -/
def contextIn (ids : Nat → Text) : Option Nat → LogContext
  | none => .outside
  | some number => LogContext.outside.enter (ids number)

/-- What a tool logs while it runs a command belongs to the cycle that asked for it, from
the start of the program to the end of the run. -/
theorem Service.exists_log_eq_of_run {s : Service} {id : TaskId} {frame : CycleFrame}
    {tool : Tool} {calls : List Command} (inside : id < s.tasks.length)
    (inUse : s.executors[frame.executor]? = some ⟨.tool tool, calls⟩) (now later : Moment)
    (command : Command) (resume : Answer → Talk (Except CycleStop CycleResult)) (start : Start)
    (cancellation : Option Moment) :
    let run := tool.run command start cancellation
    ∃ lines, ((s.proceed now id frame (.ask command resume)).step later
        (.answered id (run.answer command) run.laterEntries)).log =
      lines ++ ((stamped (some frame.number) run.entries).reverse ++ s.log) := by
  intro run
  have starts : s.startEntries frame.executor command = [Tool.startEntry command] := by
    rw [startEntries, inUse]
    rfl
  let told := s.sayAll (some frame.number) (s.startEntries frame.executor command)
  let waiting := told.setState id (.inCycle frame command now resume)
  have still : id < told.tasks.length := lt_length_sayAll inside _ _
  have present : waiting.tasks[id]? = some ⟨.inCycle frame command now resume, false⟩ :=
    List.getElem?_set_self still
  let called := waiting.recordCall frame.executor command
  have there : id < called.tasks.length := (List.getElem?_eq_some_iff.mp present).1
  let answered := called.sayAll (some frame.number) run.laterEntries
  have next : waiting.step later (.answered id (run.answer command) run.laterEntries) =
      answered.proceed later id frame (resume (run.answer command)) := by
    rw [step, resumeTask, present]
    rfl
  have answeredLog : answered.log =
      (stamped (some frame.number) run.laterEntries).reverse ++ told.log :=
    log_sayAll _ _ _
  obtain ⟨lines, log, -⟩ := (accounts_proceed later frame (resume (run.answer command))
    (lt_length_sayAll there (some frame.number) run.laterEntries)).nested
  refine ⟨lines.reverse, ?_⟩
  change (waiting.step later _).log = _
  rw [next, log, answeredLog, log_sayAll, starts, Tool.entries_run]
  simp [stamped, run]

section Logger

variable {console : Console} {ids : Nat → Text} {task : TaskId} {logger : Logger}
  {before after : Standing} {actions : List LogAction} {lines : List StampedEntry}

theorem contexts_setContext (logger : Logger) (task other : TaskId) (context : LogContext) :
    (logger.setContext task context).contexts other =
      if other = task then context else logger.contexts other :=
  rfl

theorem Logger.shown_print (drawn : ∀ draw, (ids draw).toList.length = 8) {cycle : Option Nat}
    (here : logger.contexts task = contextIn ids cycle) (entry : LogEntry) :
    (logger.print console task entry).shown = shownLine ids ⟨cycle, entry⟩ :: logger.shown := by
  have text : { console with correlation := (contextIn ids cycle).correlation }.correlationText =
      (cycle.map ids).getD Console.noCorrelation := by
    cases cycle with
    | none => rfl
    | some number =>
        have nonempty : (ids number).isEmpty = false := by
          rw [Bool.eq_false_iff]
          intro empty
          have length := drawn number
          rw [List.isEmpty_iff.mp empty] at length
          cases length
        simp [contextIn, LogContext.enter, Console.correlationText, nonempty]
  unfold print
  rw [here]
  dsimp only
  rw [text]
  rfl

/-- What becomes of a logger in a turn: the task is in the context of the cycle that it is
in then, its lines were shown, and other contexts are as they were, except that new tasks
are in no scope. -/
structure Logger.LeadsTo (ids : Nat → Text) (task : TaskId) (actions : List LogAction)
    (lines : List StampedEntry) (cycle : Option Nat) (logger next : Logger) : Prop where
  own : next.contexts task = contextIn ids cycle
  shown : next.shown = (lines.map (shownLine ids)).reverse ++ logger.shown
  others : ∀ other, other ≠ task → next.contexts other = logger.contexts other ∨
    .fork other ∈ actions ∧ next.contexts other = .outside

/-- An action that touches only the context of the task comes first. -/
theorem Logger.LeadsTo.cons {middle next : Logger} {cycle : Option Nat}
    (later : middle.LeadsTo ids task actions lines cycle next) (action : LogAction)
    (told : List StampedEntry)
    (shown : middle.shown = (told.map (shownLine ids)).reverse ++ logger.shown)
    (others : ∀ other, other ≠ task → middle.contexts other = logger.contexts other) :
    logger.LeadsTo ids task (action :: actions) (told ++ lines) cycle next where
  own := later.own
  shown := by
    rw [later.shown, shown, List.map_append, List.reverse_append, List.append_assoc]
  others other away := by
    rcases later.others other away with same | ⟨forked, outside⟩
    · exact .inl (same.trans (others other away))
    · exact .inr ⟨List.mem_cons_of_mem action forked, outside⟩

theorem Scoped.leadsTo (nested : Scoped before actions lines after)
    (drawn : ∀ draw, (ids draw).toList.length = 8)
    (here : logger.contexts task = contextIn ids before.current) :
    logger.LeadsTo ids task actions lines after.current
      (logger.performAll console ids task actions) := by
  induction nested generalizing logger with
  | nil standing => exact ⟨here, rfl, fun other _ => .inl rfl⟩
  | @print before _ _ _ entry _ ih =>
      have later := @ih (logger.print console task entry) here
      exact later.cons (.print _) [⟨before.current, entry⟩] (Logger.shown_print drawn here entry)
        fun _ _ => rfl
  | @enter begun _ _ _ _ ih =>
      let entered := logger.setContext task ((logger.contexts task).enter (ids (begun + 1)))
      have inside : entered.contexts task = contextIn ids (some (begun + 1)) := by
        rw [contexts_setContext, if_pos rfl, here]
        rfl
      have later := @ih (entered.print console task Service.announcement) inside
      have announced := later.cons (.print Service.announcement)
        [⟨some (begun + 1), Service.announcement⟩] (Logger.shown_print drawn inside _)
        fun _ _ => rfl
      exact announced.cons (.enter _) [] rfl fun _ away => if_neg away
  | @leave begun number _ _ _ _ ih =>
      let left := logger.setContext task (logger.contexts task).leave
      have outside : left.contexts task = contextIn ids none := by
        rw [contexts_setContext, if_pos rfl, here]
        rfl
      have later := @ih left outside
      exact later.cons .leave [] rfl fun _ away => if_neg away
  | @fork _ _ _ _ child _ ih =>
      -- The new task copies a context in which no scope is in force.
      let forked := logger.setContext child (logger.contexts task).copy
      have copied : (logger.contexts task).copy = .outside := by
        rw [here]
        rfl
      have still : forked.contexts task = contextIn ids none := by
        rw [contexts_setContext, copied, here]
        exact ite_self _
      have later := @ih forked still
      refine ⟨later.own, later.shown, ?_⟩
      intro other away
      rcases later.others other away with same | ⟨member, outside⟩
      · by_cases new : other = child
        · subst new
          exact .inr ⟨List.mem_cons_self, same.trans ((if_pos rfl).trans copied)⟩
        · exact .inl (same.trans (if_neg new))
      · exact .inr ⟨List.mem_cons_of_mem _ member, outside⟩

end Logger

namespace LoggingService

variable {console : Console} {ids : Nat → Text} {t : LoggingService}

/-- Every line was shown with the id of its cycle, a task is in the scope of the cycle
that it is in, and cycles have numbers of their own. -/
structure IsCorrelated (ids : Nat → Text) (t : LoggingService) : Prop where
  shown : t.logger.shown = t.service.log.map (shownLine ids)
  contexts : ∀ id, t.logger.contexts id = contextIn ids (t.service.activity id).cycle?
  numbered : ∀ line ∈ t.service.log, ∀ number, line.cycle = some number →
    0 < number ∧ number ≤ t.service.cycles
  underWay : ∀ id number, (t.service.activity id).cycle? = some number →
    0 < number ∧ number ≤ t.service.cycles
  apart : ∀ id other number, (t.service.activity id).cycle? = some number →
    (t.service.activity other).cycle? = some number → id = other

theorem isCorrelated_create (settings : Settings) (tree : FileTree) (baseline : BaselineOrigin)
    (executor : Option Executor) :
    (create settings tree baseline executor).IsCorrelated ids where
  shown := rfl
  contexts _ := rfl
  numbered := nofun
  underWay := nofun
  apart := nofun

/-- A turn keeps lines and contexts in agreement with the cycles. -/
theorem IsCorrelated.turn (correlated : t.IsCorrelated ids)
    (drawn : ∀ draw, (ids draw).toList.length = 8) {task : TaskId} {actions : List LogAction}
    {next : Service}
    (accounts : t.service.Accounts task (t.service.activity task).cycle? actions next) :
    IsCorrelated ids ⟨next, t.logger.performAll console ids task actions⟩ := by
  obtain ⟨⟨lines, log, nested⟩, others, forked⟩ := accounts
  obtain ⟨grows, current, said⟩ := nested.numbers
  have leads : t.logger.LeadsTo ids task actions lines (next.standing task).current
      (t.logger.performAll console ids task actions) :=
    nested.leadsTo drawn (correlated.contexts task)
  -- A cycle of the task is the one it was in, or it has a number that no other has had.
  have known (number : Nat) (is : (t.service.activity task).cycle? = some number ∨
      t.service.cycles < number ∧ number ≤ next.cycles) : 0 < number ∧ number ≤ next.cycles := by
    rcases is with before | new
    · obtain ⟨positive, le⟩ := correlated.underWay task number before
      exact ⟨positive, le.trans grows⟩
    · exact ⟨Nat.zero_lt_of_lt new.1, new.2⟩
  have alone (other : TaskId) (number : Nat) (away : other ≠ task)
      (own : (next.activity task).cycle? = some number)
      (theirs : (next.activity other).cycle? = some number) : False := by
    rw [others other away] at theirs
    rcases current number own with before | new
    · exact away (correlated.apart other task number theirs before)
    · exact absurd (correlated.underWay other number theirs).2 new.1.not_ge
  constructor
  · dsimp only
    rw [leads.shown, log, correlated.shown, List.map_append, List.map_reverse]
  · intro id
    by_cases own : id = task
    · subst own
      exact leads.own
    · dsimp only
      rw [others id own]
      rcases leads.others id own with same | ⟨member, outside⟩
      · rw [same, correlated.contexts id]
      · have new := t.service.activity_eq_idle_of_length_le id (forked id member)
        rw [outside, new]
        rfl
  · intro line member number is
    dsimp only at member ⊢
    rw [log] at member
    rcases List.mem_append.mp member with now | earlier
    · exact known number (said line (List.mem_reverse.mp now) number is)
    · obtain ⟨positive, le⟩ := correlated.numbered line earlier number is
      exact ⟨positive, le.trans grows⟩
  · intro id number is
    by_cases own : id = task
    · subst own
      exact known number (current number is)
    · dsimp only at is
      rw [others id own] at is
      obtain ⟨positive, le⟩ := correlated.underWay id number is
      exact ⟨positive, le.trans grows⟩
  · intro id other number first second
    by_cases own : id = task
    · subst own
      by_contra away
      exact alone other number (Ne.symm away) first second
    · by_cases theirs : other = task
      · subst theirs
        exact (alone id number own second first).elim
      · dsimp only at first second
        rw [others id own] at first
        rw [others other theirs] at second
        exact correlated.apart id other number first second

theorem IsCorrelated.after (correlated : t.IsCorrelated ids)
    (drawn : ∀ draw, (ids draw).toList.length = 8) (events : List (Moment × Service.Event)) :
    (t.after console ids events).IsCorrelated ids := by
  induction events generalizing t with
  | nil => exact correlated
  | cons first later ih =>
      exact ih (correlated.turn drawn (t.service.accounts_step first.1 first.2))

theorem service_after (t : LoggingService) (console : Console) (ids : Nat → Text)
    (events : List (Moment × Service.Event)) :
    (t.after console ids events).service = t.service.after events := by
  induction events generalizing t with
  | nil => rfl
  | cons first later ih => exact ih (t.step console ids first.1 first.2)

/-- In a service none of whose callers is in a scope each line is shown with the id of the
cycle that logs it, or with none, and different cycles have different ids.  Between the
line that announces it and its end a task is in the scope of its cycle, and before and
afterwards it is in none, in whatever way the cycle ends and whatever other tasks do.  The
ids are drawn from those with eight characters, and no two cycles draw the same one. -/
theorem lines_carry_their_cycle (console : Console) (ids : Nat → Text) (settings : Settings)
    (tree : FileTree) (baseline : BaselineOrigin) (executor : Option Executor)
    (events : List (Moment × Service.Event)) (drawn : ∀ draw, (ids draw).toList.length = 8)
    (fresh : Set.InjOn ids
      (Set.Icc 1 ((Service.create settings tree baseline executor).after events).cycles)) :
    let t := (create settings tree baseline executor).after console ids events
    t.service = (Service.create settings tree baseline executor).after events ∧
      t.IsCorrelated ids ∧
      (∀ first ∈ t.service.log, ∀ second ∈ t.service.log,
        (shownLine ids first).correlation = (shownLine ids second).correlation ↔
          first.cycle = second.cycle) ∧
      ∀ now event, t.service.Accounts (t.service.turn now event).1
        (t.service.activity (t.service.turn now event).1).cycle? (t.service.turn now event).2
        (t.service.step now event) := by
  intro t
  have service : t.service = (Service.create settings tree baseline executor).after events :=
    service_after _ console ids events
  have correlated : t.IsCorrelated ids :=
    (isCorrelated_create settings tree baseline executor).after drawn events
  refine ⟨service, correlated, ?_, fun now event => t.service.accounts_step now event⟩
  intro first member second otherMember
  refine ⟨?_, fun same => by rw [shownLine, shownLine, same]⟩
  intro same
  rw [← service] at fresh
  have dash (draw : Nat) : ids draw ≠ Console.noCorrelation := by
    intro equal
    have length := drawn draw
    rw [equal] at length
    exact absurd length (by decide)
  cases one : first.cycle with
  | none =>
      cases two : second.cycle with
      | none => rfl
      | some number =>
          simp only [shownLine, one, two, Option.map_some, Option.map_none, Option.getD_some,
            Option.getD_none] at same
          exact absurd same.symm (dash number)
  | some number =>
      cases two : second.cycle with
      | none =>
          simp only [shownLine, one, two, Option.map_some, Option.map_none, Option.getD_some,
            Option.getD_none] at same
          exact absurd same (dash number)
      | some other =>
          simp only [shownLine, one, two, Option.map_some, Option.getD_some] at same
          exact congrArg some (fresh (correlated.numbered first member number one)
            (correlated.numbered second otherMember other two) same)

/-- A service that serves its first catalog only is asked for a cycle twice: its tool lists
no parameters to the first, and the second waits for the names. -/
theorem lines_carry_their_cycle_baseline :
    let settings := { Settings.standard with skipClusterUpdate := true }
    let catalog : Catalog := ⟨[.named "b"], by decide⟩
    let ids (draw : Nat) : Text := if draw = 1 then "c0ffee01" else "c0ffee02"
    let run := Tool.standard.run .listing (.running ⟨[91, 93], [], 0, none⟩) none
    let events := [(0, .start), (1, .reconcile none),
      (2, .answered 1 (run.answer .listing) run.laterEntries), (3, .reconcile none)]
    let t := (create settings .empty (.catalog catalog) (some (.tool .standard))).after
      ⟨0, ⟨"UTC", fun _ => 0⟩, 1, none⟩ ids events
    (∀ draw, (ids draw).toList.length = 8) ∧ Set.InjOn ids (Set.Icc 1 t.service.cycles) ∧
      t.service.cycles = 2 ∧ t.IsCorrelated ids ∧
      (t.service.log.map fun line => (shownLine ids line).correlation) =
        (["c0ffee02", "c0ffee02", "c0ffee01", "c0ffee01", "c0ffee01", "c0ffee01", "c0ffee01",
          "c0ffee01", "-", "-"] : List Text) ∧
      t.logger.contexts 1 = .outside ∧ t.logger.contexts 2 = ⟨some "c0ffee02", [none]⟩ := by
  intro settings catalog ids run events t
  have drawn : ∀ draw, (ids draw).toList.length = 8 := by
    intro draw
    unfold ids
    split <;> rfl
  have twice : t.service.cycles = 2 := by decide +kernel
  have fresh : Set.InjOn ids (Set.Icc 1 t.service.cycles) := by
    have numbers : Set.Icc 1 2 = ({1, 2} : Set Nat) := by
      ext draw
      rw [Set.mem_Icc, Set.mem_insert_iff, Set.mem_singleton_iff]
      omega
    rw [twice, numbers, Set.injOn_pair]
    exact fun same => absurd same (by decide)
  have ended : (t.service.activity 1).cycle? = none := by decide +kernel
  have waiting : (t.service.activity 2).cycle? = some 2 := by decide +kernel
  have same : t.service = (Service.create settings .empty (.catalog catalog)
      (some (.tool .standard))).after events := service_after _ _ ids events
  obtain ⟨-, correlated, -, -⟩ := lines_carry_their_cycle ⟨0, ⟨"UTC", fun _ => 0⟩, 1, none⟩ ids
    settings .empty (.catalog catalog) (some (.tool .standard)) events drawn
    (by rw [← same]; exact fresh)
  refine ⟨drawn, fresh, twice, correlated, by decide +kernel, ?_, ?_⟩
  · rw [correlated.contexts 1, ended]
    rfl
  · rw [correlated.contexts 2, waiting]
    rfl

end LoggingService
end Tunables
