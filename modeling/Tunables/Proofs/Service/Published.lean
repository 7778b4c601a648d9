import Tunables.Proofs.Service.Guard

/-!
# A published store

Once a store is published and no start is left that would publish another one,
this store stays in use.  Then all cycles work on it, so at most one of them is
under way.
-/

namespace Tunables

/-! ## The store in use -/

/-- There is a store in use, no start is reading a dataset that it would publish
in its place, and no cycle works on a store that was in use before. -/
structure Board.IsPublished (b : Board) : Prop where
  published : b.stores ≠ []
  settled : ∀ id, b.activity id ≠ .reading
  upToDate : ∀ id frame rest, b.activity id = .cycling frame rest →
    frame.store + 1 = b.stores.length

namespace Board.IsPublished

variable {b c : Board}

/-- A task begins to do something else, which is neither reading nor a cycle on a
store that was in use before. -/
theorem assign (published : b.IsPublished) (id : TaskId) {activity : Activity}
    (stores : c.stores.length = b.stores.length) (same : c.activity = b.activity)
    (settled : activity ≠ .reading)
    (upToDate : ∀ frame rest, activity = .cycling frame rest →
      frame.store + 1 = b.stores.length) :
    (c.assign id activity).IsPublished := by
  constructor
  · apply List.ne_nil_of_length_pos
    change 0 < c.stores.length
    rw [stores]
    exact List.length_pos_iff.mpr published.published
  · intro other reading
    rcases activity_assign_iff.mp reading with ⟨-, here⟩ | ⟨-, before⟩
    · exact settled here
    · rw [same] at before
      exact published.settled other before
  · intro other frame rest cycling
    refine Eq.trans ?_ stores.symm
    rcases activity_assign_iff.mp cycling with ⟨-, here⟩ | ⟨-, before⟩
    · exact upToDate frame rest here
    · rw [same] at before
      exact published.upToDate other frame rest before

theorem assign_idle (published : b.IsPublished) (id : TaskId)
    (stores : c.stores.length = b.stores.length) (same : c.activity = b.activity) :
    (c.assign id .idle).IsPublished := by
  apply published.assign id stores same
  · intro reading
    cases reading
  · intro frame rest cycling
    cases cycling

theorem assign_cycling (published : b.IsPublished) (id : TaskId) {frame : CycleFrame}
    {rest : Talk (Except CycleStop CycleResult)} (stores : c.stores.length = b.stores.length)
    (same : c.activity = b.activity) (last : frame.store + 1 = b.stores.length) :
    (c.assign id (.cycling frame rest)).IsPublished := by
  apply published.assign id stores same
  · intro reading
    cases reading
  · intro other otherRest cycling
    cases cycling
    exact last

theorem change (published : b.IsPublished) (change : b.Change c) : c.IsPublished := by
  cases change with
  | subscribers subscribers => exact ⟨published.published, published.settled, published.upToDate⟩
  | read id unpublished idle => exact absurd unpublished published.published
  | rest id free => exact published.assign_idle id rfl rfl
  | publish id catalog opening =>
      rcases opening with unpublished | reading
      · exact absurd unpublished published.published
      · exact absurd reading (published.settled id)
  | begin id frame store last present isFree free number =>
      exact published.assign_cycling id List.length_set rfl last
  | advance id frame rest later exchanges waiting reaches =>
      exact published.assign_cycling id rfl rfl (published.upToDate id frame rest waiting)
  | giveUp id frame rest store waiting present =>
      exact published.assign_idle id List.length_set rfl
  | commit id frame rest store result waiting present ends =>
      exact published.assign_idle id List.length_set rfl

theorem changes (published : b.IsPublished) (changes : b.Changes c) : c.IsPublished :=
  changes.keep (fun _ _ change before => before.change change) published

end Board.IsPublished

/-- The cycles that began are counted. -/
theorem Board.Change.cycles_le {b c : Board} (change : b.Change c) : b.cycles ≤ c.cycles := by
  cases change with
  | begin => exact Nat.le_succ b.cycles
  | _ => exact Nat.le_refl b.cycles

/-- A task is in the cycle of a number. -/
def Board.IsUnderWay (b : Board) (id : TaskId) (number : Nat) : Prop :=
  ∃ frame rest, b.activity id = .cycling frame rest ∧ frame.number = number

/-- A task that begins something other than a cycle changes no other cycle. -/
theorem Board.IsUnderWay.of_assign {b c : Board} {id other : TaskId} {activity : Activity}
    {number : Nat} (underWay : (c.assign other activity).IsUnderWay id number)
    (same : c.activity = b.activity) (free : ¬ activity.IsCycling) : b.IsUnderWay id number := by
  obtain ⟨frame, rest, cycling, numbered⟩ := underWay
  rcases activity_assign_iff.mp cycling with ⟨-, here⟩ | ⟨-, before⟩
  · exact absurd ⟨frame, rest, here⟩ free
  · rw [same] at before
    exact ⟨frame, rest, before, numbered⟩

/-- A cycle that is under way and did not begin just now was under way before. -/
theorem Board.Change.isUnderWay {b c : Board} (change : b.Change c) {id : TaskId} {number : Nat}
    (underWay : c.IsUnderWay id number) (begun : number ≤ b.cycles) : b.IsUnderWay id number := by
  cases change with
  | subscribers subscribers => exact underWay
  | publish other catalog opening => exact underWay
  | read other unpublished idle => exact underWay.of_assign rfl Activity.not_isCycling_reading
  | rest other free => exact underWay.of_assign rfl Activity.not_isCycling_idle
  | begin other newFrame store last present isFree free newNumber =>
      obtain ⟨frame, rest, cycling, numbered⟩ := underWay
      rcases activity_assign_iff.mp cycling with ⟨-, here⟩ | ⟨-, before⟩
      · cases here
        omega
      · exact ⟨frame, rest, before, numbered⟩
  | advance other sameFrame earlier later exchanges waiting reaches =>
      obtain ⟨frame, rest, cycling, numbered⟩ := underWay
      rcases activity_assign_iff.mp cycling with ⟨same, here⟩ | ⟨-, before⟩
      · cases here
        subst same
        exact ⟨sameFrame, earlier, waiting, numbered⟩
      · exact ⟨frame, rest, before, numbered⟩
  | giveUp other otherFrame otherRest store waiting present =>
      exact underWay.of_assign rfl Activity.not_isCycling_idle
  | commit other otherFrame otherRest store result waiting present ends =>
      exact underWay.of_assign rfl Activity.not_isCycling_idle

theorem Board.Changes.cycles_le {b c : Board} (changes : b.Changes c) : b.cycles ≤ c.cycles :=
  changes.keep (fun _ _ change earlier => Nat.le_trans earlier change.cycles_le) (Nat.le_refl b.cycles)

theorem Board.Changes.isUnderWay {b c : Board} (changes : b.Changes c) {id : TaskId}
    {number : Nat} (underWay : c.IsUnderWay id number) (begun : number ≤ b.cycles) :
    b.IsUnderWay id number := by
  induction changes with
  | refl => exact underWay
  | tail earlier change ih =>
      exact ih (change.isUnderWay underWay (Nat.le_trans begun (Board.Changes.cycles_le earlier)))

namespace Service

variable {s t : Service} {now : Moment} {event : Event} {id : TaskId}

/-- There is a store in use, and it stays in use. -/
def IsPublished (s : Service) : Prop :=
  s.board.IsPublished

theorem IsPublished.step (published : s.IsPublished) (reachable : s.Reachable) (now : Moment)
    (event : Event) : (s.step now event).IsPublished :=
  Board.IsPublished.changes published (reachable.changes now event)

theorem IsPublished.after (published : s.IsPublished) (reachable : s.Reachable)
    (events : List (Moment × Event)) : (s.after events).IsPublished := by
  induction events generalizing s with
  | nil => exact published
  | cons first later ih =>
      exact ih (published.step reachable first.1 first.2) (.step first.1 first.2 reachable)

/-- A store that is published stays in use if no task is reading a dataset or in
a cycle. -/
theorem isPublished_publish (catalog : Catalog) (idle : ∀ id, s.activity id = .idle)
    (inside : id < s.tasks.length) : (s.publish now id catalog).IsPublished := by
  let published := { s with stores := s.stores ++ [Store.ofCatalog catalog .baseline] }
  have before : published.board.IsPublished := by
    constructor
    · exact List.append_ne_nil_of_right_ne_nil _ (List.cons_ne_nil _ _)
    · intro other reading
      cases (idle other).symm.trans reading
    · intro other frame rest cycling
      cases (idle other).symm.trans cycling
  have free : ¬ (s.activity id).IsCycling := by
    rw [idle]
    exact Activity.not_isCycling_idle
  have resting : (published.board.assign id .idle).IsPublished := before.change (.rest id free)
  unfold publish IsPublished
  dsimp only
  split
  · rw [board_completeStart, board_say]
    exact resting
  · rcases reconcile_cases published now id .initial none with idle | ⟨store, inUse, isFree, next⟩
    · rw [idle]
      exact resting
    · rw [next]
      have freeThen : ¬ (published.activity id).IsCycling := free
      exact before.changes (beginCycle_changes freeThen inside inUse isFree)

/-- A service that is given a catalog has its store from its first start on. -/
theorem isPublished_start (settings : Settings) (tree : FileTree) (catalog : Catalog)
    (executor : Option Executor) (now : Moment) :
    ((create settings tree (.catalog catalog) executor).step now .start).IsPublished := by
  let created := create settings tree (.catalog catalog) executor
  have idle : ∀ id, created.addCall.activity id = .idle := by
    intro id
    have board := congrArg Board.activity created.board_addCall
    exact congrFun board id
  exact isPublished_publish catalog idle created.length_addCall

theorem IsPublished.exists_store (published : s.IsPublished) :
    ∃ earlier store, s.stores = earlier ++ [store] :=
  ⟨s.stores.dropLast, _, (List.dropLast_concat_getLast published.published).symm⟩

theorem set_length_concat {α : Type} (earlier : List α) (before now : α) :
    (earlier ++ [before]).set earlier.length now = earlier ++ [now] := by
  rw [List.set_append_right _ _ (Nat.le_refl _), Nat.sub_self, List.set_cons_zero]

theorem store?_of_stores {earlier : List Store} {store : Store}
    (stores : s.stores = earlier ++ [store]) : s.store? = some store := by
  rw [store?, stores, List.getLast?_concat]

theorem IsPublished.not_isOpening (published : s.IsPublished) (id : TaskId) :
    ¬ s.IsOpening event id := by
  intro opening
  rcases opening with ⟨-, unpublished⟩ | ⟨-, reading⟩
  · exact published.published unpublished
  · exact published.settled id reading

/-- Whether a cycle on the store in use is under way. -/
def isBusy (s : Service) : Bool :=
  s.store?.any (·.refreshing)

/-- At most one task is in a cycle, and the guard of the store in use is held
exactly while one is. -/
structure IsSingleFlight (s : Service) : Prop where
  alone : ∀ first second, (s.activity first).IsCycling → (s.activity second).IsCycling →
    first = second
  isBusy_iff : s.isBusy = true ↔ ∃ id, (s.activity id).IsCycling

theorem IsPublished.frame_store (published : s.IsPublished) {earlier : List Store} {store : Store}
    (stores : s.stores = earlier ++ [store]) {frame : CycleFrame}
    {rest : Talk (Except CycleStop CycleResult)}
    (cycling : s.activity id = .cycling frame rest) : frame.store = earlier.length := by
  have last : frame.store + 1 = s.stores.length := published.upToDate id frame rest cycling
  rw [stores, List.length_append, List.length_singleton] at last
  exact Nat.succ.inj last

theorem IsPublished.isSingleFlight (published : s.IsPublished) (reachable : s.Reachable) :
    s.IsSingleFlight := by
  obtain ⟨earlier, store, stores⟩ := published.exists_store
  constructor
  · intro first second firstCycling secondCycling
    obtain ⟨frame, rest, cycling⟩ := firstCycling
    obtain ⟨other, otherRest, otherCycling⟩ := secondCycling
    refine reachable.guarded.alone first second frame other rest otherRest cycling otherCycling ?_
    rw [published.frame_store stores cycling, published.frame_store stores otherCycling]
  · have busy : s.isBusy = store.refreshing := by
      rw [isBusy, store?_of_stores stores]
      rfl
    rw [busy]
    constructor
    · intro held
      have present : s.board.stores[earlier.length]? = some store := by
        change s.stores[earlier.length]? = some store
        rw [stores, List.getElem?_concat_length]
      obtain ⟨id, frame, rest, cycling, -⟩ := reachable.guarded.held _ store present held
      exact ⟨id, frame, rest, cycling⟩
    · intro cycles
      obtain ⟨id, frame, rest, cycling⟩ := cycles
      obtain ⟨held, exchanges, present, refreshing, -⟩ :=
        reachable.guarded.working id frame rest cycling
      change s.stores[frame.store]? = some held at present
      rw [published.frame_store stores cycling, stores, List.getElem?_concat_length] at present
      cases present
      exact refreshing

end Service
end Tunables
