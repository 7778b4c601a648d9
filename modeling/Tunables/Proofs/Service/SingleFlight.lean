import Mathlib.Data.List.Induction
import Tunables.Proofs.Cycle
import Tunables.Proofs.Service.Published

/-!
# One cycle at a time

While a store stays in use, a call for a cycle that finds another cycle under way
is dropped.  Any other call has the board to itself until it is over, and then it
has committed its result once or has changed nothing.
-/

namespace Tunables
namespace Service

/-- A call for a cycle: the event that makes it, the task that waits for it, what
it is made for, and the service that it enters. -/
inductive Calls (s : Service) : Event → TaskId → CyclePurpose → Service → Prop where
  | request (timeout : Timeout) :
      Calls s (.reconcile timeout) s.tasks.length .request s.addCall
  | refresh (id : TaskId) (since : Moment)
      (resting : s.tasks[id]? = some ⟨.resting since, false⟩) :
      Calls s (.woken id) id .refresh s

/-- The exchanges that the cycles of a task have while events happen. -/
def exchanges (s : Service) (id : TaskId) : List (Moment × Event) → List Exchange
  | [] => []
  | (now, event) :: later => (s.exchange? id event).toList ++ (s.step now event).exchanges id later

/-- What events by themselves make of the subscribers. -/
def subscribersAfter (events : List (Moment × Event)) (subscribers : List Subscriber) :
    List Subscriber :=
  events.foldl (fun subscribers event => event.2.subscribers subscribers) subscribers

/-- A call for a cycle that found the guard free: the task that waits for it, what
it is made for, the number and the limit of its cycle, and what it found: the store
in use, those that were in use earlier, and the last report. -/
structure Attempt where
  id : TaskId
  purpose : CyclePurpose
  number : Nat
  limit : Timeout
  earlier : List Store
  store : Store
  lastReport : Option Report
  isFree : store.refreshing = false

namespace Attempt

/-- The work that an attempt is about. -/
def talk (attempt : Attempt) : Talk (Except CycleStop CycleResult) :=
  Cycle.talk attempt.store.current attempt.limit

/-- The store while its guard is held. -/
def held (attempt : Attempt) : Store :=
  { attempt.store with refreshing := true }

/-- The store with the result of the attempt. -/
def committed (attempt : Attempt) (result : CycleResult) : Store :=
  ⟨.of result.catalog (attempt.store.version + 1) .cluster, false⟩

/-- What subscribers are told about the result of an attempt. -/
def update (attempt : Attempt) (result : CycleResult) : Update :=
  .of (.of result.catalog (attempt.store.version + 1) .cluster) result.report

/-- The attempt waits in its cycle after some exchanges.  It holds the guard, and
nothing else has changed. -/
structure Waits (attempt : Attempt) (exchanges : List Exchange)
    (subscribers : List Subscriber) (t : Service) : Prop where
  cycle : ∃ frame rest, t.activity attempt.id = .cycling frame rest ∧
    frame.number = attempt.number ∧ frame.purpose = attempt.purpose ∧
    attempt.talk.Reaches exchanges rest
  stores : t.stores = attempt.earlier ++ [attempt.held]
  lastReport : t.lastReport = attempt.lastReport
  subscribers : t.subscribers = subscribers

/-- What has become of an attempt after some exchanges.  Either it waits, or it was
told a report and the result of its cycle was committed once, or it was told an
error and nothing has changed.  When it does not wait any longer the guard is
free. -/
inductive Handled (attempt : Attempt) (now : Moment) (exchanges : List Exchange)
    (subscribers : List Subscriber) (t : Service) : Prop where
  | waits (waiting : attempt.Waits exchanges subscribers t)
  | reports (base : Service) (result : CycleResult)
      (ends : attempt.talk.EndsWith exchanges (.ok result))
      (stores : t.stores = attempt.earlier ++ [attempt.committed result])
      (lastReport : t.lastReport = some result.report)
      (told : t.subscribers = Board.told (attempt.update result) subscribers)
      (inside : attempt.id < base.tasks.length)
      (next : t =
        base.afterCycle now attempt.id attempt.purpose (.ok (.reported result.report)))
  | raises (base : Service) (error : ServiceError)
      (cause : (∃ stop, attempt.talk.EndsWith exchanges (.error stop) ∧ error = .ofStop stop) ∨
        exchanges = [] ∧ ∃ refusal, error = .executor refusal)
      (stores : t.stores = attempt.earlier ++ [attempt.store])
      (lastReport : t.lastReport = attempt.lastReport)
      (untold : t.subscribers = subscribers)
      (inside : attempt.id < base.tasks.length)
      (next : t = base.afterCycle now attempt.id attempt.purpose (.error error))

end Attempt

variable {s t entered : Service} {now : Moment} {event : Event} {id : TaskId}
  {purpose : CyclePurpose} {frame : CycleFrame} {talk : Talk (Except CycleStop CycleResult)}
  {attempt : Attempt} {past : List Exchange} {subscribers : List Subscriber}

/-! ## Calls -/

theorem Calls.step_eq (calls : s.Calls event id purpose entered) (now : Moment) :
    ∃ timeout, s.step now event = entered.reconcile now id purpose timeout := by
  cases calls with
  | request timeout => exact ⟨timeout, rfl⟩
  | refresh id since resting =>
      refine ⟨none, ?_⟩
      rw [step, resumeTask, resting]
      rfl

theorem Calls.board_eq (calls : s.Calls event id purpose entered) : entered.board = s.board := by
  cases calls with
  | request timeout => exact board_addCall s
  | refresh id since resting => rfl

theorem Calls.executors_eq (calls : s.Calls event id purpose entered) :
    entered.executors = s.executors := by
  cases calls with
  | request timeout => rfl
  | refresh id since resting => rfl

theorem Calls.idle (calls : s.Calls event id purpose entered) : s.activity id = .idle := by
  cases calls with
  | request timeout => exact s.activity_length
  | refresh id since resting => exact s.activity_of_tasks id resting

theorem Calls.inside (calls : s.Calls event id purpose entered) : id < entered.tasks.length := by
  cases calls with
  | request timeout => exact s.length_addCall
  | refresh id since resting => exact (List.getElem?_eq_some_iff.mp resting).1

theorem executors_afterCycle (s : Service) (now : Moment) (id : TaskId)
    (result : Except ServiceError CallOutcome) (called : purpose ≠ .initial) :
    (s.afterCycle now id purpose result).executors = s.executors := by
  unfold afterCycle
  split
  · rfl
  · rfl
  · exact absurd rfl called
  · exact absurd rfl called
  · exact absurd rfl called
  · rfl
  · rfl
  · rfl
  · rfl

theorem Calls.not_initial (calls : s.Calls event id purpose entered) : purpose ≠ .initial := by
  cases calls with
  | request timeout =>
      intro same
      cases same
  | refresh id since resting =>
      intro same
      cases same

theorem isBusy_iff : s.isBusy = true ↔ ∃ store, s.store? = some store ∧ store.refreshing = true := by
  rw [isBusy, Option.any_eq_true]

/-- A call that finds another cycle under way is told so, and nothing else
happens. -/
theorem Calls.dropped (calls : s.Calls event id purpose entered) (busy : s.isBusy = true)
    (now : Moment) :
    s.step now event =
        (entered.say none (.info "Reconciliation already in progress, request dropped")).afterCycle
          now id purpose (.ok .dropped) ∧
      (s.step now event).board = s.board ∧ (s.step now event).executors = s.executors := by
  obtain ⟨store, inUse, held⟩ := isBusy_iff.mp busy
  obtain ⟨timeout, next⟩ := calls.step_eq now
  have there : entered.store? = some store := by
    have stores : entered.stores = s.stores := congrArg Board.stores calls.board_eq
    rw [← inUse, store?, stores, store?]
  have dropped : entered.reconcile now id purpose timeout =
      (entered.say none (.info "Reconciliation already in progress, request dropped")).afterCycle
        now id purpose (.ok .dropped) := by
    rw [reconcile, there]
    dsimp only
    rw [if_pos held]
  refine ⟨next.trans dropped, ?_, ?_⟩
  · rw [next, dropped, board_afterCycle, board_say, calls.board_eq]
    exact Board.assign_of_eq calls.idle
  · rw [next, dropped, executors_afterCycle _ _ _ _ calls.not_initial]
    exact calls.executors_eq

/-! ## Cycles -/

/-- While a cycle goes on nothing changes until it is over. -/
theorem handled_proceed (now : Moment) (stores : s.stores = attempt.earlier ++ [attempt.held])
    (lastReport : s.lastReport = attempt.lastReport) (same : s.subscribers = subscribers)
    (inside : attempt.id < s.tasks.length) (place : frame.store = attempt.earlier.length)
    (number : frame.number = attempt.number) (purposeIs : frame.purpose = attempt.purpose)
    (reaches : attempt.talk.Reaches past talk) :
    attempt.Handled now past subscribers (s.proceed now attempt.id frame talk) := by
  have present : s.stores[frame.store]? = some attempt.held := by
    rw [place, stores, List.getElem?_concat_length]
  have onward {rest : Talk (Except CycleStop CycleResult)} (later : talk.Reaches [] rest) :
      attempt.talk.Reaches past rest := by
    have both := reaches.append later
    rwa [List.append_nil] at both
  cases proceeds now talk present inside with
  | waits command resume later board =>
      refine .waits ⟨⟨frame, _, ?_, number, purposeIs, onward later⟩, ?_, ?_, ?_⟩
      · exact (congrFun (congrArg Board.activity board) attempt.id).trans (Function.update_self ..)
      · exact (congrArg Board.stores board).trans stores
      · exact (congrArg Board.lastReport board).trans lastReport
      · exact (congrArg Board.subscribers board).trans same
  | fails base stop ends board tasks next =>
      have closing : (s.proceed now attempt.id frame talk).board =
          (s.board.giveUp frame.store attempt.held).assign attempt.id .idle := by
        rw [next, board_afterCycle, board]
      have ended := Talk.endsWith_iff_reaches.mpr (onward (Talk.endsWith_iff_reaches.mp ends))
      refine .raises base (.ofStop stop) (.inl ⟨stop, ended, rfl⟩) ?_ ?_ ?_ ?_ ?_
      · refine (congrArg Board.stores closing).trans ?_
        change s.stores.set frame.store { attempt.store with refreshing := false } =
          attempt.earlier ++ [attempt.store]
        rw [stores, place, ← attempt.isFree, set_length_concat]
      · exact (congrArg Board.lastReport closing).trans lastReport
      · exact (congrArg Board.subscribers closing).trans same
      · rw [tasks]
        exact inside
      · rw [next, purposeIs]
  | reports base result ends board tasks next =>
      have closing : (s.proceed now attempt.id frame talk).board =
          (s.board.commit frame.store attempt.held result).assign attempt.id .idle := by
        rw [next, board_afterCycle, board]
      have ended := Talk.endsWith_iff_reaches.mpr (onward (Talk.endsWith_iff_reaches.mp ends))
      refine .reports base result ended ?_ ?_ ?_ ?_ ?_
      · refine (congrArg Board.stores closing).trans ?_
        change s.stores.set frame.store (attempt.committed result) =
          attempt.earlier ++ [attempt.committed result]
        rw [stores, place, set_length_concat]
      · exact congrArg Board.lastReport closing
      · refine (congrArg Board.subscribers closing).trans ?_
        rw [← same]
        rfl
      · rw [tasks]
        exact inside
      · rw [next, purposeIs]

/-- A cycle that begins on the store in use is an attempt. -/
theorem handled_beginCycle (attempt : Attempt) (now : Moment)
    (stores : s.stores = attempt.earlier ++ [attempt.store])
    (lastReport : s.lastReport = attempt.lastReport) (number : attempt.number = s.cycles + 1)
    (inside : attempt.id < s.tasks.length) :
    attempt.Handled now [] s.subscribers
        (s.beginCycle now attempt.id attempt.purpose attempt.limit attempt.store) ∧
      attempt.number ≤
        (s.beginCycle now attempt.id attempt.purpose attempt.limit attempt.store).cycles := by
  have place : s.stores.length - 1 = attempt.earlier.length := by
    rw [stores, List.length_append, List.length_singleton, Nat.add_sub_cancel]
  obtain ⟨begun, board, tasks, outcome⟩ :=
    s.beginCycle_cases now attempt.id (store?_of_stores stores) attempt.purpose attempt.limit
  rw [place] at board outcome
  have held : begun.stores = attempt.earlier ++ [attempt.held] := by
    refine (congrArg Board.stores board).trans ?_
    change s.stores.set attempt.earlier.length attempt.held = attempt.earlier ++ [attempt.held]
    rw [stores, set_length_concat]
  have present : begun.stores[attempt.earlier.length]? = some attempt.held := by
    rw [held, List.getElem?_concat_length]
  have begunReport : begun.lastReport = attempt.lastReport :=
    (congrArg Board.lastReport board).trans lastReport
  have subscribers : begun.subscribers = s.subscribers := congrArg Board.subscribers board
  have cycles : attempt.number = begun.cycles :=
    number.trans (congrArg Board.cycles board).symm
  have inBegun : attempt.id < begun.tasks.length := by
    rw [tasks]
    exact inside
  rcases outcome with ⟨cause, closing⟩ | ⟨executor, onward⟩
  · rw [closing]
    have refused := board_afterCycle (begun.releaseGuard attempt.earlier.length) now attempt.id
      attempt.purpose (.error (.executor cause))
    rw [board_releaseGuard present] at refused
    constructor
    · refine .raises (begun.releaseGuard attempt.earlier.length) (.executor cause)
        (.inr ⟨rfl, cause, rfl⟩) ?_ ?_ ?_ inBegun rfl
      · refine (congrArg Board.stores refused).trans ?_
        change begun.stores.set _ { attempt.store with refreshing := false } =
          attempt.earlier ++ [attempt.store]
        rw [held, ← attempt.isFree, set_length_concat]
      · exact (congrArg Board.lastReport refused).trans begunReport
      · exact (congrArg Board.subscribers refused).trans subscribers
    · exact Nat.le_of_eq (cycles.trans (congrArg Board.cycles refused).symm)
  · rw [onward]
    constructor
    · exact handled_proceed now held begunReport subscribers inBegun rfl number.symm rfl (.start _)
    · let frame : CycleFrame := ⟨s.cycles + 1, attempt.purpose, attempt.earlier.length, executor,
        attempt.limit, now⟩
      have there : begun.stores[frame.store]? = some attempt.held := present
      have onwardCycles := (proceed_changes now attempt.talk there inBegun).cycles_le
      exact Nat.le_trans (Nat.le_of_eq cycles) onwardCycles

/-- A call that finds the guard free makes an attempt. -/
theorem Calls.attempts (calls : s.Calls event id purpose entered) {earlier : List Store}
    {store : Store} (stores : s.stores = earlier ++ [store]) (isFree : store.refreshing = false)
    (now : Moment) :
    ∃ limit, let attempt : Attempt :=
        ⟨id, purpose, s.cycles + 1, limit, earlier, store, s.lastReport, isFree⟩
      attempt.Handled now [] s.subscribers (s.step now event) ∧
        attempt.number ≤ (s.step now event).cycles := by
  obtain ⟨timeout, next⟩ := calls.step_eq now
  have sameBoard := calls.board_eq
  have enteredStores : entered.stores = earlier ++ [store] :=
    (congrArg Board.stores sameBoard).trans stores
  have begins : ∃ limit, entered.reconcile now id purpose timeout =
      entered.beginCycle now id purpose limit store := by
    rw [reconcile, store?_of_stores enteredStores]
    dsimp only
    rw [if_neg (Bool.eq_false_iff.mp isFree)]
    exact ⟨_, rfl⟩
  obtain ⟨limit, beginning⟩ := begins
  let attempt : Attempt :=
    ⟨id, purpose, s.cycles + 1, limit, earlier, store, s.lastReport, isFree⟩
  have sameNumber : attempt.number = entered.cycles + 1 :=
    congrArg (· + 1) (congrArg Board.cycles sameBoard).symm
  have sameSubscribers : entered.subscribers = s.subscribers :=
    congrArg Board.subscribers sameBoard
  have handled := handled_beginCycle attempt now enteredStores
    (congrArg Board.lastReport sameBoard) sameNumber calls.inside
  rw [sameSubscribers] at handled
  rw [next, beginning]
  exact ⟨limit, handled⟩

theorem not_isUnderWay_afterCycle (s : Service) (now : Moment) (id : TaskId)
    (purpose : CyclePurpose) (result : Except ServiceError CallOutcome) (number : Nat) :
    ¬ (s.afterCycle now id purpose result).board.IsUnderWay id number := by
  intro underWay
  obtain ⟨frame, rest, cycling, -⟩ := underWay
  rw [board_afterCycle] at cycling
  rcases Board.activity_assign_iff.mp cycling with ⟨-, here⟩ | ⟨different, -⟩
  · cases here
  · exact different rfl

/-- An attempt whose cycle is under way waits. -/
theorem Attempt.Handled.waits_of_isUnderWay (handled : attempt.Handled now past subscribers t)
    (underWay : t.board.IsUnderWay attempt.id attempt.number) :
    attempt.Waits past subscribers t := by
  cases handled with
  | waits waiting => exact waiting
  | reports base result ends stores lastReport told inside next =>
      rw [next] at underWay
      exact absurd underWay (not_isUnderWay_afterCycle _ _ _ _ _ _)
  | raises base error cause stores lastReport untold inside next =>
      rw [next] at underWay
      exact absurd underWay (not_isUnderWay_afterCycle _ _ _ _ _ _)

/-- A task that is in a cycle waits for the answer to a command. -/
theorem rest_of_activity {rest : Talk (Except CycleStop CycleResult)}
    (cycling : s.activity id = .cycling frame rest) :
    ∃ command resume, rest = .ask command resume := by
  unfold activity at cycling
  split at cycling
  · next task present =>
      cases state : task.state with
      | inCycle _ command _ resume =>
          rw [state] at cycling
          cases cycling
          exact ⟨command, resume, rfl⟩
      | _ =>
          rw [state] at cycling
          cases cycling
  · cases cycling

/-- An attempt that had all exchanges of a successful cycle was committed. -/
theorem Attempt.Handled.reports_of_endsWith (handled : attempt.Handled now past subscribers t)
    {result : CycleResult} (complete : attempt.talk.EndsWith past (.ok result)) :
    t.stores = attempt.earlier ++ [attempt.committed result] ∧ t.lastReport = some result.report ∧
      t.subscribers = Board.told (attempt.update result) subscribers := by
  cases handled with
  | waits waiting =>
      obtain ⟨frame, rest, cycling, -, -, reaches⟩ := waiting.cycle
      obtain ⟨command, resume, rfl⟩ := rest_of_activity cycling
      exact absurd reaches complete.not_reaches_ask
  | reports base other ends stores lastReport told inside next =>
      cases ends.unique complete
      exact ⟨stores, lastReport, told⟩
  | raises base error cause stores lastReport untold inside next =>
      rcases cause with ⟨stop, ends, -⟩ | ⟨unasked, -⟩
      · cases ends.unique complete
      · subst unasked
        exact absurd (.start _) complete.not_reaches_ask

/-- An event leaves an attempt that waits as it is, or it answers its command. -/
theorem Attempt.Waits.step (waiting : attempt.Waits past subscribers t)
    (reachable : t.Reachable) (published : t.IsPublished) (now : Moment) (event : Event) :
    attempt.Handled now (past ++ (t.exchange? attempt.id event).toList)
      (event.subscribers subscribers) (t.step now event) := by
  obtain ⟨frame, rest, cycling, number, purposeIs, reaches⟩ := waiting.cycle
  cases step_move t now event with
  | quiet unanswered board =>
      rw [unanswered attempt.id, Option.toList_none, List.append_nil]
      refine .waits ⟨⟨frame, rest, ?_, number, purposeIs, reaches⟩, ?_, ?_, ?_⟩
      · exact (congrFun (congrArg Board.activity board) attempt.id).trans cycling
      · exact (congrArg Board.stores board).trans waiting.stores
      · exact (congrArg Board.lastReport board).trans waiting.lastReport
      · rw [← waiting.subscribers]
        exact congrArg Board.subscribers board
  | reads start unpublished file board =>
      exact absurd unpublished published.published
  | stopsReading other reading board =>
      exact absurd reading (published.settled other)
  | publishes other catalog opening free board =>
      exact absurd opening (published.not_isOpening other)
  | begins r other purpose limit store untold board free inside isInUse guardIsFree next =>
      -- The guard is held, so no other cycle begins.
      rcases board with same | ⟨opening, -⟩
      · have stores : r.stores = attempt.earlier ++ [attempt.held] :=
          (congrArg Board.stores same).trans waiting.stores
        cases (store?_of_stores stores).symm.trans isInUse
        cases guardIsFree
      · exact absurd opening (published.not_isOpening other)
  | goesOn r other otherFrame command resume answer otherWaits answered board inside next =>
      -- The cycle that goes on is the one under way.
      have same : other = attempt.id := (published.isSingleFlight reachable).alone other attempt.id
        ⟨otherFrame, _, otherWaits⟩ ⟨frame, rest, cycling⟩
      subst same
      cases cycling.symm.trans otherWaits
      have quiet : event.subscribers subscribers = subscribers :=
        subscribers_of_exchange? answered subscribers
      rw [answered, quiet, next]
      refine handled_proceed now ?_ ?_ ?_ inside (published.frame_store waiting.stores cycling)
        number purposeIs (reaches.answer answer)
      · exact (congrArg Board.stores board).trans waiting.stores
      · exact (congrArg Board.lastReport board).trans waiting.lastReport
      · exact (congrArg Board.subscribers board).trans waiting.subscribers

/-! ## Runs -/

theorem exchanges_append (s : Service) (id : TaskId) (first second : List (Moment × Event)) :
    s.exchanges id (first ++ second) =
      s.exchanges id first ++ (s.after first).exchanges id second := by
  induction first generalizing s with
  | nil => rfl
  | cons head later ih =>
      obtain ⟨now, event⟩ := head
      rw [List.cons_append, exchanges, exchanges, ih, List.append_assoc, after_cons]

theorem exchanges_singleton (s : Service) (id : TaskId) (now : Moment) (event : Event) :
    s.exchanges id [(now, event)] = (s.exchange? id event).toList := by
  rw [exchanges, exchanges, List.append_nil]

theorem subscribersAfter_append (first second : List (Moment × Event))
    (subscribers : List Subscriber) :
    subscribersAfter (first ++ second) subscribers =
      subscribersAfter second (subscribersAfter first subscribers) :=
  List.foldl_append

theorem Reachable.isUnderWay_of_step (reachable : s.Reachable) {number : Nat}
    (underWay : (s.step now event).board.IsUnderWay id number) (begun : number ≤ s.cycles) :
    s.board.IsUnderWay id number :=
  (reachable.changes now event).isUnderWay underWay begun

theorem Reachable.cycles_le (reachable : s.Reachable) (events : List (Moment × Event)) :
    s.cycles ≤ (s.after events).cycles := by
  induction events generalizing s with
  | nil => exact Nat.le_refl _
  | cons first later ih =>
      exact Nat.le_trans (reachable.changes first.1 first.2).cycles_le
        (ih (.step first.1 first.2 reachable))

/-- As long as its cycle is under way an attempt waits, whatever else happens. -/
theorem Attempt.Handled.waits_after {first : Service}
    (handled : attempt.Handled now [] subscribers first) (reachable : first.Reachable)
    (published : first.IsPublished) (begun : attempt.number ≤ first.cycles)
    (events : List (Moment × Event))
    (underWay : (first.after events).board.IsUnderWay attempt.id attempt.number) :
    attempt.Waits (first.exchanges attempt.id events) (subscribersAfter events subscribers)
      (first.after events) := by
  induction events using List.reverseRecOn with
  | nil => exact handled.waits_of_isUnderWay underWay
  | append_singleton earlier last ih =>
      obtain ⟨later, event⟩ := last
      have thenReachable := reachable.after earlier
      rw [after_append, after_cons, after_nil] at underWay ⊢
      have numbered := Nat.le_trans begun (reachable.cycles_le earlier)
      have waiting := ih (thenReachable.isUnderWay_of_step underWay numbered)
      have next := waiting.step thenReachable (published.after reachable earlier) later event
      rw [exchanges_append, exchanges_singleton, subscribersAfter_append]
      exact next.waits_of_isUnderWay underWay

/-- On a service whose store is published at most one cycle is under way at any
time, and it holds the guard.  A call that finds the guard taken is dropped: it
sends no command and leaves the board as it is.  Any other call makes an attempt:
it waits with nothing changed, or was told a report after one commit of the result
of its cycle, or was told an error with nothing changed; and when it does not wait
any longer it has freed the guard. -/
theorem reconcile_single_flight (reachable : s.Reachable) (published : s.IsPublished) :
    (∀ events, (s.after events).IsSingleFlight) ∧
    ∀ now event id purpose entered, s.Calls event id purpose entered →
      (s.isBusy = true →
        s.step now event =
            (entered.say none
              (.info "Reconciliation already in progress, request dropped")).afterCycle
              now id purpose (.ok .dropped) ∧
          (s.step now event).board = s.board ∧ (s.step now event).executors = s.executors) ∧
      (s.isBusy = false → ∃ attempt : Attempt,
        attempt.id = id ∧ attempt.purpose = purpose ∧ attempt.number = s.cycles + 1 ∧
        s.stores = attempt.earlier ++ [attempt.store] ∧ s.lastReport = attempt.lastReport ∧
        attempt.Handled now [] s.subscribers (s.step now event) ∧
        ∀ events later last,
          ((s.step now event).after events).board.IsUnderWay attempt.id attempt.number →
          attempt.Handled later
            ((s.step now event).exchanges attempt.id (events ++ [(later, last)]))
            (subscribersAfter (events ++ [(later, last)]) s.subscribers)
            ((s.step now event).after (events ++ [(later, last)]))) := by
  constructor
  · intro events
    exact (published.after reachable events).isSingleFlight (reachable.after events)
  · intro now event id purpose entered calls
    refine ⟨fun busy => calls.dropped busy now, ?_⟩
    intro free
    obtain ⟨earlier, store, stores⟩ := published.exists_store
    have isFree : store.refreshing = false := by
      rw [isBusy, store?_of_stores stores] at free
      exact free
    obtain ⟨limit, handled, begun⟩ := calls.attempts stores isFree now
    have firstReachable : (s.step now event).Reachable := .step now event reachable
    have firstPublished := published.step reachable now event
    refine ⟨_, rfl, rfl, rfl, stores, rfl, handled, ?_⟩
    intro events later last underWay
    have waiting := handled.waits_after firstReachable firstPublished begun events underWay
    have next := waiting.step (firstReachable.after events)
      (firstPublished.after firstReachable events) later last
    rw [exchanges_append, exchanges_singleton, subscribersAfter_append, after_append, after_cons,
      after_nil]
    exact next

/-- A service that serves its first catalog only is asked for a cycle, and the
cluster then lists no parameters. -/
theorem reconcile_single_flight_baseline :
    let settings := { Settings.standard with skipClusterUpdate := true }
    let catalog : Catalog := ⟨[.named "b"], by decide⟩
    let s := (create settings .empty (.catalog catalog) (some (.script .empty))).step 0 .start
    s.Reachable ∧ s.IsPublished ∧ s.Calls (.reconcile none) 1 .request s.addCall ∧
      s.isBusy = false ∧ (∀ events, (s.after events).IsSingleFlight) ∧
      ∃ report : Report, report.removed = [("b" : Text)] ∧
        ((s.step 1 (.reconcile none)).step 2 (.answered 1 (.ok [91, 93]) [])).lastReport =
          some report := by
  intro settings catalog s
  have reachable : s.Reachable := .step 0 .start (.create settings .empty _ _)
  have published : s.IsPublished := isPublished_start settings .empty _ _ 0
  have calls : s.Calls (.reconcile none) 1 .request s.addCall := .request none
  have free : s.isBusy = false := rfl
  obtain ⟨alone, called⟩ := reconcile_single_flight reachable published
  obtain ⟨attempt, same, -, numbered, stores, -, -, handled⟩ :=
    (called 1 _ 1 _ _ calls).2 free
  refine ⟨reachable, published, calls, free, alone, ?_⟩
  have underWay : (s.step 1 (.reconcile none)).board.IsUnderWay attempt.id attempt.number := by
    rw [same, numbered]
    exact ⟨_, _, rfl, rfl⟩
  have answered := handled [] 2 (.answered 1 (.ok [91, 93]) []) underWay
  have exchanged : (s.step 1 (.reconcile none)).exchanges attempt.id
      [(2, .answered 1 (.ok [91, 93]) [])] = [⟨.listing, .ok [91, 93]⟩] := by
    rw [same]
    rfl
  rw [List.nil_append, exchanged] at answered
  have found : Store.ofCatalog catalog .baseline = attempt.store :=
    Option.some.inj (store?_of_stores stores)
  have complete : attempt.talk.EndsWith [⟨.listing, .ok [91, 93]⟩]
      (.ok (Cycle.resultOf catalog [] fun _ => .error .deadline)) := by
    rw [Attempt.talk, ← found]
    exact Cycle.endsWith_talk_of_listed_nil Cycle.namesOfReply_brackets _
  exact ⟨_, Cycle.removed_resultOf_nil, (answered.reports_of_endsWith complete).2.1⟩

end Service
end Tunables
