import Mathlib.Logic.Relation
import Tunables.Proofs.Service.Moves

/-!
# Changes of the board

Every move is made of a few changes of the board, so a property of boards that
each change keeps is kept by whatever happens to a service.
-/

namespace Tunables

/-- The ways in which a board changes. -/
inductive Board.Change (b : Board) : Board → Prop where
  | subscribers (subscribers : List Subscriber) :
      Change b { b with subscribers := subscribers }
  | read (id : TaskId) (unpublished : b.stores = []) (idle : b.activity id = .idle) :
      Change b (b.assign id .reading)
  | rest (id : TaskId) (free : ¬ (b.activity id).IsCycling) : Change b (b.assign id .idle)
  | publish (id : TaskId) (catalog : Catalog)
      (opening : b.stores = [] ∨ b.activity id = .reading) : Change b (b.publish catalog)
  | begin (id : TaskId) (frame : CycleFrame) (store : Store)
      (last : frame.store + 1 = b.stores.length)
      (present : b.stores[frame.store]? = some store) (isFree : store.refreshing = false)
      (free : ¬ (b.activity id).IsCycling) (number : frame.number = b.cycles + 1) :
      Change b ((b.begin frame.store store).assign id
        (.cycling frame (Cycle.talk store.current frame.limit)))
  | advance (id : TaskId) (frame : CycleFrame) (rest later : Talk (Except CycleStop CycleResult))
      (exchanges : List Exchange) (waiting : b.activity id = .cycling frame rest)
      (reaches : rest.Reaches exchanges later) : Change b (b.assign id (.cycling frame later))
  | giveUp (id : TaskId) (frame : CycleFrame) (rest : Talk (Except CycleStop CycleResult))
      (store : Store) (waiting : b.activity id = .cycling frame rest)
      (present : b.stores[frame.store]? = some store) :
      Change b ((b.giveUp frame.store store).assign id .idle)
  | commit (id : TaskId) (frame : CycleFrame) (rest : Talk (Except CycleStop CycleResult))
      (store : Store) (result : CycleResult) (waiting : b.activity id = .cycling frame rest)
      (present : b.stores[frame.store]? = some store)
      (ends : rest.EndsWith [] (.ok result)) :
      Change b ((b.commit frame.store store result).assign id .idle)

/-- Changes one after the other. -/
def Board.Changes : Board → Board → Prop :=
  Relation.ReflTransGen Board.Change

/-- What each change keeps is kept by all of them. -/
theorem Board.Changes.keep {property : Board → Prop} {b c : Board} (changes : b.Changes c)
    (kept : ∀ b c : Board, b.Change c → property b → property c) (before : property b) :
    property c := by
  induction changes with
  | refl => exact before
  | tail _ change ih => exact kept _ _ change ih

namespace Service

variable {s t : Service} {now : Moment} {event : Event} {id : TaskId} {frame : CycleFrame}
  {store : Store}

theorem proceed_changes (now : Moment) (talk : Talk (Except CycleStop CycleResult))
    (present : s.stores[frame.store]? = some store)
    (inside : id < s.tasks.length) :
    (s.board.assign id (.cycling frame talk)).Changes (s.proceed now id frame talk).board := by
  have waiting : (s.board.assign id (.cycling frame talk)).activity id = .cycling frame talk :=
    Board.activity_assign_iff.mpr (.inl ⟨rfl, rfl⟩)
  apply Relation.ReflTransGen.single
  cases proceeds now talk present inside with
  | waits command resume reaches board =>
      have change := Board.Change.advance id frame talk _ [] waiting reaches
      rw [Board.assign_assign] at change
      rw [board]
      exact change
  | fails base stop ends board tasks next =>
      have change := Board.Change.giveUp id frame talk store waiting present
      rw [next, board_afterCycle, board]
      rw [Board.giveUp_assign, Board.assign_assign] at change
      exact change
  | reports base result ends board tasks next =>
      have change := Board.Change.commit id frame talk store result waiting present ends
      rw [next, board_afterCycle, board]
      rw [Board.commit_assign, Board.assign_assign] at change
      exact change

theorem beginCycle_changes {purpose : CyclePurpose} {limit : Timeout}
    (free : ¬ (s.activity id).IsCycling) (inside : id < s.tasks.length)
    (inUse : s.store? = some store) (isFree : store.refreshing = false) :
    s.board.Changes (s.beginCycle now id purpose limit store).board := by
  obtain ⟨begun, board, tasks, outcome⟩ := s.beginCycle_cases now id inUse purpose limit
  let frame (executor : Nat) : CycleFrame :=
    ⟨s.cycles + 1, purpose, s.stores.length - 1, executor, limit, now⟩
  have present (executor : Nat) : s.board.stores[(frame executor).store]? = some store := by
    rw [← inUse, store?, List.getLast?_eq_getElem?]
    rfl
  have last (executor : Nat) : (frame executor).store + 1 = s.board.stores.length :=
    Nat.succ_pred_eq_of_pos (Nat.zero_lt_of_lt (List.getElem?_eq_some_iff.mp (present executor)).1)
  have begins (executor : Nat) : s.board.Changes (begun.board.assign id
      (.cycling (frame executor) (Cycle.talk store.current limit))) := by
    rw [board]
    exact .single
      (.begin id (frame executor) store (last executor) (present executor) isFree free rfl)
  have there (executor : Nat) :
      begun.stores[(frame executor).store]? = some { store with refreshing := true } := by
    change begun.board.stores[_]? = _
    rw [board]
    exact List.getElem?_set_self (List.getElem?_eq_some_iff.mp (present executor)).1
  rcases outcome with ⟨cause, next⟩ | ⟨executor, next⟩
  · have waiting : (begun.board.assign id (.cycling (frame 0)
        (Cycle.talk store.current limit))).activity id = .cycling (frame 0) _ :=
      Board.activity_assign_iff.mpr (.inl ⟨rfl, rfl⟩)
    have change := Board.Change.giveUp id (frame 0) _ _ waiting (there 0)
    rw [Board.giveUp_assign, Board.assign_assign] at change
    rw [next, board_afterCycle, board_releaseGuard (there 0)]
    exact (begins 0).tail change
  · have inBegun : id < begun.tasks.length := by
      rw [tasks]
      exact inside
    rw [next]
    exact (begins executor).trans (proceed_changes now _ (there executor) inBegun)

/-- A move is made of changes, if the stores of waiting cycles are there. -/
theorem Move.changes (move : Move s now event t)
    (stores : ∀ id frame rest, s.activity id = .cycling frame rest →
      ∃ store, s.stores[frame.store]? = some store) :
    s.board.Changes t.board := by
  cases move with
  | quiet unanswered board =>
      rw [board]
      exact .single (.subscribers _)
  | reads start unpublished file board =>
      rw [board]
      exact .single (.read s.tasks.length unpublished s.activity_length)
  | stopsReading id reading board =>
      rw [board]
      refine .single (.rest id ?_)
      change ¬ (s.activity id).IsCycling
      rw [reading]
      exact Activity.not_isCycling_reading
  | publishes id catalog opening free board =>
      rw [board]
      exact (Relation.ReflTransGen.single (.publish id catalog (opening.imp And.right And.right))).tail
        (.rest id free)
  | begins r id purpose limit store untold board free inside inUse isFree next =>
      rw [next]
      rcases board with same | ⟨opening, catalog, published⟩
      · rw [← same]
        refine beginCycle_changes ?_ inside inUse isFree
        change ¬ (r.board.activity id).IsCycling
        rw [same]
        exact free
      · have publishing : s.board.Changes r.board := by
          rw [published]
          exact .single (.publish id catalog (opening.imp And.right And.right))
        refine publishing.trans (beginCycle_changes ?_ inside inUse isFree)
        change ¬ (r.board.activity id).IsCycling
        rw [published]
        exact free
  | goesOn r id frame command resume answer waiting answered board inside next =>
      obtain ⟨store, present⟩ := stores id frame _ waiting
      have there : r.stores[frame.store]? = some store := by
        change r.board.stores[_]? = _
        rw [board]
        exact present
      have onward := proceed_changes now (resume answer) there inside
      rw [board] at onward
      rw [next]
      exact (Relation.ReflTransGen.single
        (.advance id frame _ _ _ waiting (.ask (.start (resume answer))))).trans onward

end Service
end Tunables
