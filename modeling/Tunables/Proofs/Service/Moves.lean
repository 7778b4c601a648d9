import Tunables.Proofs.Service.Board

/-!
# Moves of a service

Seen on the board an event is one of a few moves: it changes nothing but perhaps
the subscribers, a start reads its dataset, a store is published, a cycle begins,
or a cycle goes on with the answer that it waited for.
-/

namespace Tunables
namespace Service

/-! ## Runs -/

/-- What becomes of a service when events happen one after the other. -/
def after (s : Service) (events : List (Moment × Event)) : Service :=
  events.foldl (fun t event => t.step event.1 event.2) s

@[simp] theorem after_nil (s : Service) : s.after [] = s :=
  rfl

@[simp] theorem after_cons (s : Service) (now : Moment) (event : Event)
    (later : List (Moment × Event)) :
    s.after ((now, event) :: later) = (s.step now event).after later :=
  rfl

theorem after_append (s : Service) (first second : List (Moment × Event)) :
    s.after (first ++ second) = (s.after first).after second :=
  List.foldl_append

/-- The services that come about, in whatever order events happen. -/
inductive Reachable : Service → Prop where
  | create (settings : Settings) (tree : FileTree) (baseline : BaselineOrigin)
      (executor : Option Executor) : Reachable (create settings tree baseline executor)
  | step {s : Service} (now : Moment) (event : Event) :
      Reachable s → Reachable (s.step now event)

theorem Reachable.after {s : Service} (reachable : s.Reachable)
    (events : List (Moment × Event)) : (s.after events).Reachable := by
  induction events generalizing s with
  | nil => exact reachable
  | cons first later ih => exact ih (.step first.1 first.2 reachable)

/-! ## What an event brings -/

/-- What an event makes of the subscribers by itself. -/
def Event.subscribers : Event → List Subscriber → List Subscriber
  | .subscribe, subscribers => subscribers ++ [⟨true, []⟩]
  | .unsubscribe subscriber, subscribers =>
      subscribers.modify subscriber ({ · with active := false })
  | .drain subscriber, subscribers => subscribers.modify subscriber ({ · with updates := [] })
  | _, subscribers => subscribers

/-- The task that an event resumes. -/
def Event.target? : Event → Option TaskId
  | .fileRead id | .answered id _ _ | .expired id | .woken id | .joined id | .cancelled id =>
      some id
  | _ => none

/-- What an event says to a cycle that waits for an answer. -/
def Event.answer? (event : Event) (doomed : Bool) : Option Answer :=
  if doomed then some (.error .cancellation)
  else
    match event with
    | .answered _ answer _ => some answer
    | .expired _ => some (.error .deadline)
    | _ => none

/-- The exchange that an event completes in the cycle of a task. -/
def exchange? (s : Service) (id : TaskId) (event : Event) : Option Exchange :=
  if event.target? = some id then
    match s.tasks[id]? with
    | some ⟨.inCycle _ command _ _, doomed⟩ => (event.answer? doomed).map (⟨command, ·⟩)
    | _ => none
  else none

end Service

/-- A task in a cycle. -/
def Activity.IsCycling (activity : Activity) : Prop :=
  ∃ frame rest, activity = .cycling frame rest

theorem Activity.not_isCycling_idle : ¬ Activity.idle.IsCycling := by
  intro cycling
  obtain ⟨frame, rest, same⟩ := cycling
  cases same

theorem Activity.not_isCycling_reading : ¬ Activity.reading.IsCycling := by
  intro cycling
  obtain ⟨frame, rest, same⟩ := cycling
  cases same

namespace Service

/-- A task may publish a store: it starts the service when there is none, or it began
to read the dataset when there was none and goes on now. -/
def IsOpening (s : Service) (event : Event) (id : TaskId) : Prop :=
  (event = .start ∧ s.stores = []) ∨ (event = .fileRead id ∧ s.activity id = .reading)

/-- What an event comes to on the board. -/
inductive Move (s : Service) (now : Moment) (event : Event) (t : Service) : Prop where
  | quiet (unanswered : ∀ id, s.exchange? id event = none)
      (board : t.board = { s.board with subscribers := event.subscribers s.subscribers })
  | reads (start : event = .start) (unpublished : s.stores = [])
      (file : ∃ file, s.baseline = .file file)
      (board : t.board = s.board.assign s.tasks.length .reading)
  | stopsReading (id : TaskId) (reading : s.activity id = .reading)
      (board : t.board = s.board.assign id .idle)
  | publishes (id : TaskId) (catalog : Catalog) (opening : s.IsOpening event id)
      (free : ¬ (s.activity id).IsCycling)
      (board : t.board = (s.board.publish catalog).assign id .idle)
  | begins (r : Service) (id : TaskId) (purpose : CyclePurpose) (limit : Timeout) (store : Store)
      (untold : event.subscribers s.subscribers = s.subscribers)
      (board : r.board = s.board ∨
        s.IsOpening event id ∧ ∃ catalog, r.board = s.board.publish catalog)
      (free : ¬ (s.activity id).IsCycling) (inside : id < r.tasks.length)
      (inUse : r.store? = some store) (guardIsFree : store.refreshing = false)
      (next : t = r.beginCycle now id purpose limit store)
  | goesOn (r : Service) (id : TaskId) (frame : CycleFrame) (command : Command)
      (resume : Answer → Talk (Except CycleStop CycleResult)) (answer : Answer)
      (waiting : s.activity id = .cycling frame (.ask command resume))
      (answered : s.exchange? id event = some ⟨command, answer⟩)
      (board : r.board = s.board) (inside : id < r.tasks.length)
      (next : t = r.proceed now id frame (resume answer))

variable {s : Service} {now : Moment} {event : Event} {id : TaskId}

theorem Move.of_board_eq {t : Service} (unanswered : ∀ id, s.exchange? id event = none)
    (subscribers : event.subscribers s.subscribers = s.subscribers) (board : t.board = s.board) :
    Move s now event t := by
  refine .quiet unanswered ?_
  rw [subscribers]
  exact board

/-- An event that says something to a cycle that waits completes an exchange. -/
theorem exchange?_inCycle {frame : CycleFrame} {command : Command} {asked : Moment}
    {resume : Answer → Talk (Except CycleStop CycleResult)} {doomed : Bool} {answer : Answer}
    (target : event.target? = some id)
    (present : s.tasks[id]? = some ⟨.inCycle frame command asked resume, doomed⟩)
    (spoken : event.answer? doomed = some answer) :
    s.exchange? id event = some ⟨command, answer⟩ := by
  rw [exchange?, if_pos target, present]
  dsimp only
  rw [spoken, Option.map_some]

theorem unanswered_of_target {state : TaskState} {doomed : Bool}
    (target : event.target? = some id) (present : s.tasks[id]? = some ⟨state, doomed⟩)
    (unfit : event.answer? doomed = none ∨ ¬ state.activity.IsCycling) (other : TaskId) :
    s.exchange? other event = none := by
  by_cases same : event.target? = some other
  · cases target.symm.trans same
    rw [exchange?, if_pos target, present]
    cases state with
    | inCycle frame command asked resume =>
        dsimp only
        rw [unfit.resolve_right fun free => free ⟨frame, _, rfl⟩, Option.map_none]
    | _ => rfl
  · rw [exchange?, if_neg same]

theorem unanswered_of_absent (target : event.target? = some id)
    (absent : s.tasks[id]? = none) (other : TaskId) : s.exchange? other event = none := by
  by_cases same : event.target? = some other
  · cases target.symm.trans same
    rw [exchange?, if_pos target, absent]
  · rw [exchange?, if_neg same]

theorem unanswered_of_no_target (free : event.target? = none) (other : TaskId) :
    s.exchange? other event = none := by
  rw [exchange?, free, if_neg (Option.some_ne_none other).symm]

/-- What is brought to a cycle says nothing to subscribers. -/
theorem subscribers_of_exchange? {exchange : Exchange}
    (answered : s.exchange? id event = some exchange) (subscribers : List Subscriber) :
    event.subscribers subscribers = subscribers := by
  cases event with
  | subscribe | unsubscribe | drain =>
      rw [unanswered_of_no_target rfl] at answered
      cases answered
  | _ => rfl

theorem reconcile_cases (s : Service) (now : Moment) (id : TaskId) (purpose : CyclePurpose)
    (timeout : Timeout) :
    (s.reconcile now id purpose timeout).board = s.board.assign id .idle ∨
      ∃ store, s.store? = some store ∧ store.refreshing = false ∧
        s.reconcile now id purpose timeout =
          s.beginCycle now id purpose
            (timeout <|> s.settings.reconcileTimeout.map Seconds.fractional) store := by
  unfold reconcile
  cases inUse : s.store? with
  | none => exact .inl (board_afterCycle _ _ _ _ _)
  | some store =>
      by_cases held : store.refreshing = true
      · left
        dsimp only
        rw [if_pos held, board_afterCycle, board_say]
      · right
        refine ⟨store, rfl, Bool.eq_false_iff.mpr held, ?_⟩
        dsimp only
        rw [if_neg held]

/-! ## Starts -/

/-- A start publishes its catalog, and it may begin a cycle on it. -/
theorem publish_move {r : Service}
    (subscribers : event.subscribers s.subscribers = s.subscribers) (opening : s.IsOpening event id)
    (free : ¬ (s.activity id).IsCycling) (board : r.board = s.board)
    (inside : id < r.tasks.length) (catalog : Catalog) :
    Move s now event (r.publish now id catalog) := by
  let published := { r with stores := r.stores ++ [Store.ofCatalog catalog .baseline] }
  have publishedBoard : published.board = s.board.publish catalog := by
    rw [← board]
    rfl
  unfold publish
  dsimp only
  split
  · refine .publishes id catalog opening free ?_
    rw [board_completeStart, board_say]
    exact congrArg (·.assign id .idle) publishedBoard
  · rcases reconcile_cases published now id .initial none with idle | ⟨store, inUse, held, next⟩
    · refine .publishes id catalog opening free ?_
      rw [idle, publishedBoard]
    · exact .begins published id .initial _ store subscribers
        (.inr ⟨opening, catalog, publishedBoard⟩) free inside inUse held next

/-- A task that ends without having been in a cycle. -/
theorem endTask_move {r : Service} (unanswered : ∀ id, s.exchange? id event = none)
    (subscribers : event.subscribers s.subscribers = s.subscribers)
    (free : ¬ (s.activity id).IsCycling) (board : r.board = s.board) (outcome : CallOutcome) :
    Move s now event (r.endTask id outcome) := by
  have ended : (r.endTask id outcome).board = s.board.assign id .idle := by
    rw [board_endTask, board]
  cases activity : s.activity id with
  | idle =>
      refine .of_board_eq unanswered subscribers ?_
      rw [ended, Board.assign_of_eq activity]
  | reading => exact .stopsReading id activity ended
  | cycling frame rest => exact absurd ⟨frame, rest, activity⟩ free

theorem publishLoaded_move {r : Service} (unanswered : ∀ id, s.exchange? id event = none)
    (subscribers : event.subscribers s.subscribers = s.subscribers) (opening : s.IsOpening event id)
    (free : ¬ (s.activity id).IsCycling) (board : r.board = s.board)
    (inside : id < r.tasks.length) (loaded : Logged (Except LoadFailure Catalog)) :
    Move s now event (r.publishLoaded now id loaded) := by
  have told : (r.sayAll none loaded.entries).board = s.board := by
    rw [board_sayAll, board]
  unfold publishLoaded
  dsimp only
  split
  · exact publish_move subscribers opening free told (lt_length_sayAll inside _ _) _
  · exact endTask_move unanswered subscribers free told _

/-! ## Calls -/

theorem activity_length (s : Service) : s.activity s.tasks.length = .idle :=
  activity_eq_idle_of_length_le s _ (Nat.le_refl _)

theorem not_isCycling_length (s : Service) : ¬ (s.activity s.tasks.length).IsCycling := by
  rw [activity_length]
  exact Activity.not_isCycling_idle

theorem length_addCall (s : Service) : s.tasks.length < s.addCall.tasks.length := by
  simp [addCall, addTask]

/-- A call that is over at once leaves the board as it is. -/
theorem assign_length_idle (s : Service) : s.board.assign s.tasks.length .idle = s.board :=
  Board.assign_of_eq s.activity_length

theorem start_move (s : Service) (now : Moment) : Move s now .start (s.step now .start) := by
  have unanswered : ∀ id, s.exchange? id .start = none := unanswered_of_no_target rfl
  have free := s.not_isCycling_length
  have board : s.addCall.board = s.board := board_addCall s
  change Move s now .start (s.addCall.start now s.tasks.length)
  unfold start
  cases inUse : s.addCall.store? with
  | some store =>
      refine .of_board_eq unanswered rfl ?_
      rw [board_completeStart, board_say, board, assign_length_idle]
  | none =>
      have unpublished : s.stores = [] := List.getLast?_eq_none_iff.mp inUse
      dsimp only
      cases origin : s.addCall.baseline with
      | catalog catalog =>
          exact publish_move rfl (.inl ⟨rfl, unpublished⟩) free board s.length_addCall catalog
      | document document =>
          exact publishLoaded_move unanswered rfl (.inl ⟨rfl, unpublished⟩) free board
            s.length_addCall _
      | file file =>
          let told := s.addCall.say none (file.startEntry s.addCall.tree)
          have inside : s.tasks.length < told.tasks.length := s.length_addCall
          refine .reads rfl unpublished ⟨file, origin⟩ ?_
          dsimp only
          rw [board_setState _ _ (.inl inside), board_say, board]
          rfl

theorem stop_move (s : Service) (now : Moment) : Move s now .stop (s.step now .stop) := by
  refine .of_board_eq (unanswered_of_no_target rfl) rfl ?_
  change (s.addCall.stop s.tasks.length).board = s.board
  unfold stop
  split
  · rw [board_completeStop, board_addCall, assign_length_idle]
  · split
    · rw [board_join, board_doom, board_addCall, assign_length_idle]
    · rw [board_completeStop, board_addCall, assign_length_idle]

theorem reconcile_move {r : Service} {purpose : CyclePurpose} {timeout : Timeout}
    (unanswered : ∀ id, s.exchange? id event = none)
    (subscribers : event.subscribers s.subscribers = s.subscribers)
    (idle : s.activity id = .idle) (board : r.board = s.board) (inside : id < r.tasks.length) :
    Move s now event (r.reconcile now id purpose timeout) := by
  have free : ¬ (s.activity id).IsCycling := by
    rw [idle]
    exact Activity.not_isCycling_idle
  rcases reconcile_cases r now id purpose timeout with idled | ⟨store, inUse, held, next⟩
  · refine .of_board_eq unanswered subscribers ?_
    rw [idled, board, Board.assign_of_eq idle]
  · exact .begins r id purpose _ store subscribers (.inl board) free inside inUse held next

/-! ## Tasks that go on -/

/-- A cancelled task goes on with its cycle, or it ends. -/
theorem deliverCancellation_move {task : Task} (target : event.target? = some id)
    (subscribers : event.subscribers s.subscribers = s.subscribers)
    (present : s.tasks[id]? = some task) (doomed : task.doomed = true) :
    Move s now event (s.deliverCancellation now id task.state) := by
  obtain ⟨state, _⟩ := task
  dsimp only at doomed
  subst doomed
  have inside : id < s.tasks.length := (List.getElem?_eq_some_iff.mp present).1
  have activity := s.activity_of_tasks id present
  cases state with
  | inCycle frame command asked resume =>
      exact .goesOn s id frame command resume (.error .cancellation) activity
        (exchange?_inCycle target present rfl) rfl inside rfl
  | ended outcome =>
      exact .of_board_eq (unanswered_of_target target present (.inr Activity.not_isCycling_idle))
        subscribers rfl
  | readingBaseline =>
      have free : ¬ (s.activity id).IsCycling := by
        rw [activity]
        exact Activity.not_isCycling_reading
      exact endTask_move
        (unanswered_of_target target present (.inr Activity.not_isCycling_reading)) subscribers
        free rfl _
  | ready | resting | joining =>
      have free : ¬ (s.activity id).IsCycling := by
        rw [activity]
        exact Activity.not_isCycling_idle
      exact endTask_move (unanswered_of_target target present (.inr Activity.not_isCycling_idle))
        subscribers free rfl _

/-- An event that resumes a task is a move if it is one on a task that is not
doomed. -/
theorem resumeTask_move (event : Event) {resume : TaskState → Option Service}
    (target : event.target? = some id)
    (subscribers : event.subscribers s.subscribers = s.subscribers)
    (fits : ∀ state, s.tasks[id]? = some ⟨state, false⟩ →
      Move s now event ((resume state).getD s)) :
    Move s now event (s.resumeTask now id resume) := by
  unfold resumeTask
  cases present : s.tasks[id]? with
  | none => exact .of_board_eq (unanswered_of_absent target present) subscribers rfl
  | some task =>
      obtain ⟨state, doomed⟩ := task
      cases doomed with
      | true => exact deliverCancellation_move target subscribers present rfl
      | false => exact fits state present

/-- An event that finds a task in a state that it does not fit is ignored. -/
theorem ignored_move {state : TaskState} (target : event.target? = some id)
    (subscribers : event.subscribers s.subscribers = s.subscribers)
    (present : s.tasks[id]? = some ⟨state, false⟩)
    (unfit : event.answer? false = none ∨ ¬ state.activity.IsCycling) :
    Move s now event s :=
  .of_board_eq (unanswered_of_target target present unfit) subscribers rfl

theorem fileRead_move (s : Service) (now : Moment) (id : TaskId) :
    Move s now (.fileRead id) (s.step now (.fileRead id)) := by
  unfold step
  refine resumeTask_move _ rfl rfl ?_
  intro state present
  have inside : id < s.tasks.length := (List.getElem?_eq_some_iff.mp present).1
  have activity := s.activity_of_tasks id present
  cases state with
  | readingBaseline =>
      have unanswered : ∀ other, s.exchange? other (.fileRead id) = none :=
        unanswered_of_target rfl present (.inl rfl)
      change Move s now (.fileRead id) (s.readBaseline now id)
      unfold readBaseline
      split
      · refine publishLoaded_move unanswered rfl (.inr ⟨rfl, activity⟩) ?_ rfl inside _
        rw [activity]
        exact Activity.not_isCycling_reading
      · exact .of_board_eq unanswered rfl rfl
  | _ => exact ignored_move rfl rfl present (.inl rfl)

theorem answered_move (s : Service) (now : Moment) (id : TaskId) (answer : Answer)
    (entries : List LogEntry) :
    Move s now (.answered id answer entries) (s.step now (.answered id answer entries)) := by
  unfold step
  refine resumeTask_move _ rfl rfl ?_
  intro state present
  have inside : id < s.tasks.length := (List.getElem?_eq_some_iff.mp present).1
  have activity := s.activity_of_tasks id present
  cases state with
  | inCycle frame command asked resume =>
      let called := s.recordCall frame.executor command
      have there : id < called.tasks.length := inside
      exact .goesOn (called.sayAll (some frame.number) entries) id frame command resume answer
        activity (exchange?_inCycle rfl present rfl)
        ((called.board_sayAll _ _).trans (board_recordCall s _ _)) (lt_length_sayAll there _ _) rfl
  | readingBaseline =>
      exact ignored_move rfl rfl present (.inr Activity.not_isCycling_reading)
  | ready | resting | joining | ended =>
      exact ignored_move rfl rfl present (.inr Activity.not_isCycling_idle)

theorem expired_move (s : Service) (now : Moment) (id : TaskId) :
    Move s now (.expired id) (s.step now (.expired id)) := by
  unfold step
  refine resumeTask_move _ rfl rfl ?_
  intro state present
  have inside : id < s.tasks.length := (List.getElem?_eq_some_iff.mp present).1
  have activity := s.activity_of_tasks id present
  cases state with
  | inCycle frame command asked resume =>
      exact .goesOn s id frame command resume (.error .deadline) activity
        (exchange?_inCycle rfl present rfl) rfl inside rfl
  | readingBaseline =>
      exact ignored_move rfl rfl present (.inr Activity.not_isCycling_reading)
  | ready | resting | joining | ended =>
      exact ignored_move rfl rfl present (.inr Activity.not_isCycling_idle)

theorem woken_move (s : Service) (now : Moment) (id : TaskId) :
    Move s now (.woken id) (s.step now (.woken id)) := by
  unfold step
  refine resumeTask_move _ rfl rfl ?_
  intro state present
  have inside : id < s.tasks.length := (List.getElem?_eq_some_iff.mp present).1
  have activity := s.activity_of_tasks id present
  cases state with
  | resting since =>
      have unanswered : ∀ other, s.exchange? other (.woken id) = none :=
        unanswered_of_target rfl present (.inl rfl)
      exact reconcile_move unanswered rfl activity rfl inside
  | _ => exact ignored_move rfl rfl present (.inl rfl)

theorem joined_move (s : Service) (now : Moment) (id : TaskId) :
    Move s now (.joined id) (s.step now (.joined id)) := by
  unfold step
  refine resumeTask_move _ rfl rfl ?_
  intro state present
  have activity := s.activity_of_tasks id present
  cases state with
  | joining loop =>
      dsimp only
      split
      · exact ignored_move rfl rfl present (.inl rfl)
      · exact .of_board_eq (unanswered_of_target rfl present (.inl rfl)) rfl
          ((board_completeStop s id).trans (Board.assign_of_eq activity))
  | _ => exact ignored_move rfl rfl present (.inl rfl)

/-- Every event is a move. -/
theorem step_move (s : Service) (now : Moment) (event : Event) :
    Move s now event (s.step now event) := by
  cases event with
  | start => exact start_move s now
  | stop => exact stop_move s now
  | reconcile timeout =>
      exact reconcile_move (unanswered_of_no_target rfl) rfl s.activity_length (board_addCall s)
        s.length_addCall
  | fileRead id => exact fileRead_move s now id
  | answered id answer entries => exact answered_move s now id answer entries
  | expired id => exact expired_move s now id
  | woken id => exact woken_move s now id
  | joined id => exact joined_move s now id
  | cancel id => exact .quiet (unanswered_of_no_target rfl) (board_doom s id)
  | cancelled id =>
      unfold step
      refine resumeTask_move _ rfl rfl ?_
      intro state present
      exact ignored_move rfl rfl present (.inl rfl)
  | subscribe => exact .quiet (unanswered_of_no_target rfl) rfl
  | unsubscribe subscriber => exact .quiet (unanswered_of_no_target rfl) rfl
  | drain subscriber => exact .quiet (unanswered_of_no_target rfl) rfl
  | replaceExecutor executor => exact .quiet (unanswered_of_no_target rfl) rfl

end Service
end Tunables
