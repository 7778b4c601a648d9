import Tunables.Proofs.Service.Changes

/-!
# The guard of a store

A store is being refreshed exactly while some task is in a cycle on it, and no
two tasks are.  The talk of the cycle is the one about the catalog that the store
publishes, so the catalog a cycle started from is still there when it ends.
-/

namespace Tunables

/-- Guards are held by cycles, one for each store that is being refreshed. -/
structure Board.Guarded (b : Board) : Prop where
  working : ∀ id frame rest, b.activity id = .cycling frame rest →
    ∃ store exchanges, b.stores[frame.store]? = some store ∧ store.refreshing = true ∧
      (Cycle.talk store.current frame.limit).Reaches exchanges rest
  alone : ∀ first second frame other rest otherRest,
    b.activity first = .cycling frame rest → b.activity second = .cycling other otherRest →
      frame.store = other.store → first = second
  held : ∀ place store, b.stores[place]? = some store → store.refreshing = true →
    ∃ id frame rest, b.activity id = .cycling frame rest ∧ frame.store = place

namespace Board.Guarded

variable {b c : Board} {id : TaskId} {frame : CycleFrame}
  {rest later : Talk (Except CycleStop CycleResult)} {store : Store}

theorem exists_store (guarded : b.Guarded) (id : TaskId) (frame : CycleFrame)
    (rest : Talk (Except CycleStop CycleResult)) (cycling : b.activity id = .cycling frame rest) :
    ∃ store, b.stores[frame.store]? = some store := by
  obtain ⟨store, exchanges, present, -, -⟩ := guarded.working id frame rest cycling
  exact ⟨store, present⟩

/-- The guards are a matter of the stores and the tasks. -/
theorem congr (guarded : b.Guarded) (stores : c.stores = b.stores)
    (activity : c.activity = b.activity) : c.Guarded := by
  constructor
  · rw [stores, activity]
    exact guarded.working
  · rw [activity]
    exact guarded.alone
  · rw [stores, activity]
    exact guarded.held

/-- What tasks outside of cycles do does not matter. -/
theorem assign_free (guarded : b.Guarded) {activity : Activity}
    (before : ¬ (b.activity id).IsCycling) (now : ¬ activity.IsCycling) :
    (b.assign id activity).Guarded := by
  have unchanged : ∀ other frame rest,
      (b.assign id activity).activity other = .cycling frame rest ↔
        b.activity other = .cycling frame rest := by
    intro other frame rest
    rw [activity_assign_iff]
    constructor
    · intro cycling
      rcases cycling with ⟨-, same⟩ | ⟨-, same⟩
      · exact absurd ⟨frame, rest, same⟩ now
      · exact same
    · intro cycling
      refine .inr ⟨?_, cycling⟩
      intro same
      subst same
      exact before ⟨frame, rest, cycling⟩
  constructor
  · simp only [unchanged]
    exact guarded.working
  · simp only [unchanged]
    exact guarded.alone
  · simp only [unchanged]
    exact guarded.held

/-- A store is published with a free guard. -/
theorem publish (guarded : b.Guarded) (catalog : Catalog) : (b.publish catalog).Guarded := by
  constructor
  · intro other frame rest cycling
    obtain ⟨store, exchanges, present, held, reaches⟩ := guarded.working other frame rest cycling
    refine ⟨store, exchanges, ?_, held, reaches⟩
    have inside : frame.store < b.stores.length := (List.getElem?_eq_some_iff.mp present).1
    change (b.stores ++ _)[frame.store]? = _
    rw [List.getElem?_append_left inside, present]
  · exact guarded.alone
  · intro place store present held
    change (b.stores ++ [Store.ofCatalog catalog .baseline])[place]? = some store at present
    by_cases inside : place < b.stores.length
    · rw [List.getElem?_append_left inside] at present
      exact guarded.held place store present held
    · rw [List.getElem?_append_right (Nat.not_lt.mp inside), List.getElem?_singleton] at present
      split at present
      · cases present
        cases held
      · cases present

/-- A cycle begins on a store whose guard is free. -/
theorem begin (guarded : b.Guarded) (present : b.stores[frame.store]? = some store)
    (isFree : store.refreshing = false) (free : ¬ (b.activity id).IsCycling) :
    ((b.begin frame.store store).assign id
      (.cycling frame (Cycle.talk store.current frame.limit))).Guarded := by
  have inside : frame.store < b.stores.length := (List.getElem?_eq_some_iff.mp present).1
  -- No other cycle works on this store, because its guard was free.
  have apart : ∀ other otherFrame rest, b.activity other = .cycling otherFrame rest →
      otherFrame.store ≠ frame.store := by
    intro other otherFrame rest cycling same
    obtain ⟨held, _, there, refreshing, _⟩ := guarded.working other otherFrame rest cycling
    rw [same, present] at there
    cases there
    rw [isFree] at refreshing
    cases refreshing
  constructor
  · intro other otherFrame rest cycling
    rcases activity_assign_iff.mp cycling with ⟨-, here⟩ | ⟨-, before⟩
    · cases here
      exact ⟨{ store with refreshing := true }, [], List.getElem?_set_self inside, rfl, .start _⟩
    · obtain ⟨held, exchanges, there, refreshing, reaches⟩ :=
        guarded.working other otherFrame rest before
      have different := apart other otherFrame rest before
      exact ⟨held, exchanges, (List.getElem?_set_ne different.symm).trans there, refreshing,
        reaches⟩
  · intro first second firstFrame secondFrame firstRest secondRest firstCycling secondCycling same
    rcases activity_assign_iff.mp firstCycling with ⟨firstHere, here⟩ | ⟨-, before⟩
    · rcases activity_assign_iff.mp secondCycling with ⟨secondHere, -⟩ | ⟨-, other⟩
      · exact firstHere.trans secondHere.symm
      · cases here
        exact absurd same.symm (apart second secondFrame secondRest other)
    · rcases activity_assign_iff.mp secondCycling with ⟨-, here⟩ | ⟨-, other⟩
      · cases here
        exact absurd same (apart first firstFrame firstRest before)
      · exact guarded.alone first second firstFrame secondFrame firstRest secondRest before other
          same
  · intro place held there refreshing
    by_cases same : frame.store = place
    · exact ⟨id, frame, _, activity_assign_iff.mpr (.inl ⟨rfl, rfl⟩), same⟩
    · have before : b.stores[place]? = some held := (List.getElem?_set_ne same).symm.trans there
      obtain ⟨other, otherFrame, rest, cycling, equal⟩ := guarded.held place held before refreshing
      have different : other ≠ id := by
        intro equal
        subst equal
        exact free ⟨otherFrame, rest, cycling⟩
      exact ⟨other, otherFrame, rest, activity_assign_iff.mpr (.inr ⟨different, cycling⟩), equal⟩

/-- A cycle goes on with its talk. -/
theorem advance (guarded : b.Guarded) (waiting : b.activity id = .cycling frame rest)
    {exchanges : List Exchange} (reaches : rest.Reaches exchanges later) :
    (b.assign id (.cycling frame later)).Guarded := by
  -- Each cycle afterwards was one before, on the same store.
  have earlier : ∀ other otherFrame otherLater,
      (b.assign id (.cycling frame later)).activity other = .cycling otherFrame otherLater →
      ∃ otherRest between, b.activity other = .cycling otherFrame otherRest ∧
        otherRest.Reaches between otherLater := by
    intro other otherFrame otherLater cycling
    rcases activity_assign_iff.mp cycling with ⟨same, here⟩ | ⟨-, before⟩
    · cases here
      subst same
      exact ⟨rest, exchanges, waiting, reaches⟩
    · exact ⟨otherLater, [], before, .start _⟩
  constructor
  · intro other otherFrame otherLater cycling
    obtain ⟨otherRest, between, before, onward⟩ := earlier other otherFrame otherLater cycling
    obtain ⟨store, past, present, held, start⟩ :=
      guarded.working other otherFrame otherRest before
    exact ⟨store, past ++ between, present, held, start.append onward⟩
  · intro first second firstFrame secondFrame _ _ firstCycling secondCycling same
    obtain ⟨_, _, before, -⟩ := earlier first firstFrame _ firstCycling
    obtain ⟨_, _, otherBefore, -⟩ := earlier second secondFrame _ secondCycling
    exact guarded.alone first second firstFrame secondFrame _ _ before otherBefore same
  · intro place store present held
    obtain ⟨other, otherFrame, otherRest, cycling, same⟩ := guarded.held place store present held
    by_cases here : other = id
    · subst here
      cases waiting.symm.trans cycling
      exact ⟨other, frame, later, activity_assign_iff.mpr (.inl ⟨rfl, rfl⟩), same⟩
    · exact ⟨other, otherFrame, otherRest, activity_assign_iff.mpr (.inr ⟨here, cycling⟩), same⟩

/-- A cycle is over and frees the guard of its store. -/
theorem finish (guarded : b.Guarded) (mine : b.activity id = .cycling frame rest)
    (isFree : store.refreshing = false) (stores : c.stores = b.stores.set frame.store store)
    (activity : c.activity = b.activity) : (c.assign id .idle).Guarded := by
  have earlier : ∀ other otherFrame otherRest,
      (c.assign id .idle).activity other = .cycling otherFrame otherRest ↔
        other ≠ id ∧ b.activity other = .cycling otherFrame otherRest := by
    intro other otherFrame otherRest
    rw [activity_assign_iff, activity]
    simp
  constructor
  · intro other otherFrame otherRest cycling
    obtain ⟨different, before⟩ := (earlier other otherFrame otherRest).mp cycling
    obtain ⟨held, exchanges, present, refreshing, reaches⟩ :=
      guarded.working other otherFrame otherRest before
    have apart : frame.store ≠ otherFrame.store := fun same =>
      different (guarded.alone other id otherFrame frame otherRest rest before mine same.symm)
    refine ⟨held, exchanges, ?_, refreshing, reaches⟩
    change c.stores[otherFrame.store]? = some held
    rw [stores, List.getElem?_set_ne apart]
    exact present
  · intro first second firstFrame secondFrame firstRest secondRest firstCycling secondCycling same
    obtain ⟨-, before⟩ := (earlier first firstFrame firstRest).mp firstCycling
    obtain ⟨-, otherBefore⟩ := (earlier second secondFrame secondRest).mp secondCycling
    exact guarded.alone first second firstFrame secondFrame firstRest secondRest before
      otherBefore same
  · intro place held present refreshing
    change c.stores[place]? = some held at present
    by_cases here : frame.store = place
    · rw [stores, here, List.getElem?_set] at present
      split at present
      · split at present
        · cases present
          rw [isFree] at refreshing
          cases refreshing
        · cases present
      · contradiction
    · rw [stores, List.getElem?_set_ne here] at present
      obtain ⟨other, otherFrame, otherRest, cycling, same⟩ :=
        guarded.held place held present refreshing
      have different : other ≠ id := by
        intro equal
        subst equal
        have equal := mine.symm.trans cycling
        cases equal
        exact here same
      exact ⟨other, otherFrame, otherRest,
        (earlier other otherFrame otherRest).mpr ⟨different, cycling⟩, same⟩

/-- Each change of the board keeps the guards. -/
theorem change (guarded : b.Guarded) (change : b.Change c) : c.Guarded := by
  cases change with
  | subscribers subscribers => exact guarded.congr rfl rfl
  | read id unpublished idle =>
      refine guarded.assign_free ?_ Activity.not_isCycling_reading
      rw [idle]
      exact Activity.not_isCycling_idle
  | rest id free => exact guarded.assign_free free Activity.not_isCycling_idle
  | publish id catalog opening => exact guarded.publish catalog
  | begin id frame store last present isFree free number =>
      exact guarded.begin present isFree free
  | advance id frame rest later exchanges waiting reaches =>
      exact guarded.advance waiting reaches
  | giveUp id frame rest store waiting present =>
      exact guarded.finish waiting rfl rfl rfl
  | commit id frame rest store result waiting present ends =>
      exact guarded.finish waiting rfl rfl rfl

theorem changes (guarded : b.Guarded) (changes : b.Changes c) : c.Guarded :=
  changes.keep (fun _ _ change before => before.change change) guarded

end Board.Guarded

namespace Service

/-- However events happen, guards are held by cycles. -/
theorem Reachable.guarded {s : Service} (reachable : s.Reachable) : s.board.Guarded := by
  induction reachable with
  | create settings tree baseline executor =>
      -- There are no tasks and no stores yet.
      have idle : ∀ id, (Service.create settings tree baseline executor).activity id = .idle :=
        fun _ => rfl
      constructor
      · intro id frame rest cycling
        cases (idle id).symm.trans cycling
      · intro first second frame other rest otherRest cycling
        cases (idle first).symm.trans cycling
      · intro place store present
        cases present
  | step now event _ guarded =>
      exact guarded.changes ((step_move _ now event).changes guarded.exists_store)

/-- What happens to a service changes its board step by step. -/
theorem Reachable.changes {s : Service} (reachable : s.Reachable) (now : Moment) (event : Event) :
    s.board.Changes (s.step now event).board :=
  (step_move s now event).changes reachable.guarded.exists_store

end Service
end Tunables
