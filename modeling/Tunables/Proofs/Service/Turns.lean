import Tunables.Proofs.Service.Guard

/-!
# Turns

In an event at most one task has its turn, and the others do what they did.  A task
that has its turn in a cycle stays in this cycle or does nothing afterwards.
-/

namespace Tunables
namespace Service

/-- What a task in a cycle leaves as it was when it goes on: the number of stores, what
the other tasks do, and the cycle itself unless it is over. -/
structure GoesOn (s : Service) (id : TaskId) (frame : CycleFrame) (t : Service) : Prop where
  stores : t.stores.length = s.stores.length
  others : ∀ other, other ≠ id → t.activity other = s.activity other
  own : t.activity id = .idle ∨ ∃ rest, t.activity id = .cycling frame rest

variable {s r t : Service} {now : Moment} {event : Event} {id : TaskId} {frame : CycleFrame}
  {store : Store}

theorem activity_of_board {b : Board} {activity : Activity} (board : t.board = b.assign id activity)
    (same : b.activity = s.activity) :
    (∀ other, other ≠ id → t.activity other = s.activity other) ∧ t.activity id = activity := by
  have tasks : t.activity = Function.update b.activity id activity := congrArg Board.activity board
  rw [tasks, same]
  exact ⟨fun other away => Function.update_of_ne away _ _, Function.update_self _ _ _⟩

theorem GoesOn.not_reading (onward : s.GoesOn id frame t) : t.activity id ≠ .reading := by
  intro reading
  rcases onward.own with idle | ⟨rest, cycling⟩
  · cases idle.symm.trans reading
  · cases cycling.symm.trans reading

theorem goesOn_of_board {b : Board} {activity : Activity} (board : t.board = b.assign id activity)
    (stores : b.stores.length = s.stores.length) (same : b.activity = s.activity)
    (own : activity = .idle ∨ ∃ rest, activity = .cycling frame rest) : s.GoesOn id frame t := by
  obtain ⟨others, here⟩ := activity_of_board board same
  refine ⟨(congrArg (fun board => board.stores.length) board).trans stores, others, ?_⟩
  rw [here]
  exact own

/-- After its cycle a task does nothing. -/
theorem goesOn_afterCycle (now : Moment) (purpose : CyclePurpose)
    (result : Except ServiceError CallOutcome) (stores : r.stores.length = s.stores.length)
    (same : r.activity = s.activity) :
    s.GoesOn id frame (r.afterCycle now id purpose result) :=
  goesOn_of_board (board_afterCycle r now id purpose result) stores same (.inl rfl)

theorem goesOn_proceed (now : Moment) (talk : Talk (Except CycleStop CycleResult))
    (present : s.stores[frame.store]? = some store) (inside : id < s.tasks.length) :
    s.GoesOn id frame (s.proceed now id frame talk) := by
  cases proceeds now talk present inside with
  | waits command resume reaches board => exact goesOn_of_board board rfl rfl (.inr ⟨_, rfl⟩)
  | fails base stop ends board tasks next =>
      rw [next]
      exact goesOn_afterCycle now _ _
        ((congrArg (fun board => board.stores.length) board).trans List.length_set)
        (congrArg Board.activity board)
  | reports base result ends board tasks next =>
      rw [next]
      exact goesOn_afterCycle now _ _
        ((congrArg (fun board => board.stores.length) board).trans List.length_set)
        (congrArg Board.activity board)

/-- A task that waits in its cycle goes on with it, whatever it is told. -/
theorem Reachable.goesOn_of_waiting (reachable : s.Reachable)
    {rest : Talk (Except CycleStop CycleResult)} (waiting : s.activity id = .cycling frame rest)
    (board : r.board = s.board) (inside : id < r.tasks.length) (now : Moment)
    (talk : Talk (Except CycleStop CycleResult)) :
    s.GoesOn id frame (r.proceed now id frame talk) := by
  obtain ⟨store, present⟩ := reachable.guarded.exists_store id frame rest waiting
  have there : r.stores[frame.store]? = some store := by
    change r.board.stores[_]? = _
    rw [board]
    exact present
  have onward := goesOn_proceed now talk there inside
  have same : r.activity = s.activity := congrArg Board.activity board
  refine ⟨?_, ?_, onward.own⟩
  · exact onward.stores.trans (congrArg (fun board => board.stores.length) board)
  · intro other away
    rw [onward.others other away, same]

theorem goesOn_beginCycle (now : Moment) (inUse : s.store? = some store) (inside : id < s.tasks.length)
    (purpose : CyclePurpose) (limit : Timeout) :
    ∃ frame, s.GoesOn id frame (s.beginCycle now id purpose limit store) := by
  obtain ⟨begun, board, tasks, outcome⟩ := s.beginCycle_cases now id inUse purpose limit
  have present : s.stores[s.stores.length - 1]? = some store := by
    rw [← List.getLast?_eq_getElem?]
    exact inUse
  have there : begun.stores[s.stores.length - 1]? = some { store with refreshing := true } := by
    change begun.board.stores[_]? = _
    rw [board]
    exact List.getElem?_set_self (List.getElem?_eq_some_iff.mp present).1
  have stores : begun.stores.length = s.stores.length :=
    (congrArg (fun board => board.stores.length) board).trans List.length_set
  have activity : begun.activity = s.activity := congrArg Board.activity board
  rcases outcome with ⟨cause, next⟩ | ⟨executor, next⟩
  · have released := board_releaseGuard there
    rw [next]
    refine ⟨⟨0, purpose, 0, 0, limit, now⟩, goesOn_afterCycle now _ _ ?_ ?_⟩
    · exact (congrArg (fun board => board.stores.length) released).trans
        (List.length_set.trans stores)
    · exact (congrArg Board.activity released).trans activity
  · let frame : CycleFrame := ⟨s.cycles + 1, purpose, s.stores.length - 1, executor, limit, now⟩
    have inBegun : id < begun.tasks.length := by
      rw [tasks]
      exact inside
    have onward : begun.GoesOn id frame _ :=
      goesOn_proceed now (Cycle.talk store.current limit) there inBegun
    rw [next]
    refine ⟨frame, onward.stores.trans stores, ?_, onward.own⟩
    intro other away
    rw [onward.others other away, activity]

/-- What the task that has its turn does afterwards. -/
inductive HasTurn (s : Service) (event : Event) (t : Service) (id : TaskId) : Prop where
  | keeps (same : t.activity id = s.activity id)
  | rests (idle : t.activity id = .idle)
  | reads (start : event = .start) (last : id = s.tasks.length) (unpublished : t.stores = [])
      (file : ∃ file, s.baseline = .file file) (reading : t.activity id = .reading)
  | begins (frame : CycleFrame) (rest : Talk (Except CycleStop CycleResult))
      (free : ¬ (s.activity id).IsCycling) (after : t.activity id = .cycling frame rest)
  | goesOn (frame : CycleFrame) (rest later : Talk (Except CycleStop CycleResult))
      (before : s.activity id = .cycling frame rest) (after : t.activity id = .cycling frame later)

/-- In every event one task has its turn, and the others do what they did. -/
theorem Reachable.hasTurn (reachable : s.Reachable) (now : Moment) (event : Event) :
    ∃ id, (∀ other, other ≠ id → (s.step now event).activity other = s.activity other) ∧
      s.HasTurn event (s.step now event) id := by
  cases step_move s now event with
  | quiet unanswered board =>
      have same : (s.step now event).activity = s.activity := congrArg Board.activity board
      exact ⟨0, fun other _ => congrFun same other, .keeps (congrFun same 0)⟩
  | reads start unpublished file board =>
      obtain ⟨others, reading⟩ := activity_of_board (s := s) board rfl
      exact ⟨_, others,
        .reads start rfl ((congrArg Board.stores board).trans unpublished) file reading⟩
  | stopsReading id reading board =>
      obtain ⟨others, idle⟩ := activity_of_board (s := s) board rfl
      exact ⟨id, others, .rests idle⟩
  | publishes id catalog opening free board =>
      obtain ⟨others, idle⟩ := activity_of_board (s := s) board rfl
      exact ⟨id, others, .rests idle⟩
  | begins r id purpose limit store untold board free inside inUse isFree next =>
      have same : r.activity = s.activity := by
        rcases board with same | ⟨-, catalog, published⟩
        · exact congrArg Board.activity same
        · exact congrArg Board.activity published
      obtain ⟨frame, begun⟩ := goesOn_beginCycle now inUse inside purpose limit
      rw [next]
      refine ⟨id, fun other away => (begun.others other away).trans (congrFun same other), ?_⟩
      rcases begun.own with idle | ⟨rest, cycling⟩
      · exact .rests idle
      · exact .begins frame rest free cycling
  | goesOn r id frame command resume answer waiting answered board inside next =>
      have onward := reachable.goesOn_of_waiting waiting board inside now (resume answer)
      rw [next]
      refine ⟨id, onward.others, ?_⟩
      rcases onward.own with idle | ⟨rest, cycling⟩
      · exact .rests idle
      · exact .goesOn frame _ rest waiting cycling

/-- A task that is in a cycle before an event and after it is in the same one. -/
theorem Reachable.frame_eq (reachable : s.Reachable) (now : Moment) (event : Event)
    {next : CycleFrame} {rest later : Talk (Except CycleStop CycleResult)}
    (before : s.activity id = .cycling frame rest)
    (after : (s.step now event).activity id = .cycling next later) : next = frame := by
  obtain ⟨other, others, turn⟩ := reachable.hasTurn now event
  have unchanged : (s.step now event).activity id = s.activity id → next = frame := by
    intro same
    cases before.symm.trans (same.symm.trans after)
    rfl
  by_cases own : id = other
  · subst own
    cases turn with
    | keeps same => exact unchanged same
    | rests idle => cases idle.symm.trans after
    | reads start last unpublished file reading => cases reading.symm.trans after
    | begins begun begunRest free cycling => exact absurd ⟨frame, rest, before⟩ free
    | goesOn same earlier further was is =>
        cases before.symm.trans was
        cases is.symm.trans after
        rfl
  · exact unchanged (others id own)

end Service
end Tunables
