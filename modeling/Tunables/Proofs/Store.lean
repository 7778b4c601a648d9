import Tunables.Store

/-!
# Every moment of a store

Work on a store passes through moments: between two actions, and between two actions
inside a slot, however deep it is nested.  The published snapshot is that of the last
commit at each of them, and a slot leaves the guard as it found it unless the work
inside frees or takes the guard by itself.

An error that leaves an inner slot and ends the slot around it too is the error of
both: the work of the outer slot ends with the inner one.
-/

namespace Tunables

/-- A catalog with where it came from. -/
abbrev Commit := Catalog × CatalogSource

namespace StoreAction

mutual

/-- The commits of an action, at any depth and in order. -/
def commits : StoreAction → List Commit
  | .commit catalog source => [(catalog, source)]
  | .slot body _ => commitsOfAll body
  | .current => []
  | .snapshot => []
  | .tryBegin => []
  | .release => []

def commitsOfAll : List StoreAction → List Commit
  | [] => []
  | action :: rest => action.commits ++ commitsOfAll rest

end

/-- An action touches the guard through slots only, at any depth. -/
inductive UsesSlotsOnly : StoreAction → Prop where
  | commit {catalog : Catalog} {source : CatalogSource} : UsesSlotsOnly (.commit catalog source)
  | current : UsesSlotsOnly .current
  | snapshot : UsesSlotsOnly .snapshot
  | slot {body : List StoreAction} {raises : Option Text} :
      (∀ action ∈ body, UsesSlotsOnly action) → UsesSlotsOnly (.slot body raises)

end StoreAction

namespace Store

/-- Work from a store comes past a moment when some commits have been made. -/
inductive Passes : Store → List StoreAction → List Commit → Store → Prop where
  | here {store : Store} {actions : List StoreAction} : Passes store actions [] store
  | later {store now : Store} {action : StoreAction} {rest : List StoreAction}
      {commits : List Commit} : Passes (store.perform action).2 rest commits now →
      Passes store (action :: rest) (action.commits ++ commits) now
  | inside {store now : Store} {body rest : List StoreAction} {raises : Option Text}
      {commits : List Commit} : Passes store.tryBegin.2 body commits now →
      Passes store (.slot body raises :: rest) commits now

variable {store now : Store} {action : StoreAction} {actions body : List StoreAction}
  {commits : List Commit} {raises : Option Text}

/-! ## The published snapshot -/

@[simp] theorem snapshot_tryBegin (store : Store) : store.tryBegin.2.snapshot = store.snapshot :=
  rfl

@[simp] theorem snapshot_leaveSlot (store : Store) (acquired : Bool) (raised : Option StoreError) :
    (store.leaveSlot acquired raised).2.snapshot = store.snapshot := by
  unfold leaveSlot release?
  cases acquired with
  | false => rfl
  | true => cases store.refreshing <;> rfl

/-- The snapshot that commits publish on top of another one. -/
def published (snapshot : Snapshot) (commits : List Commit) : Snapshot :=
  commits.foldl
    (fun last commit => .of commit.1 (last.metadata.version + 1) commit.2) snapshot

theorem published_append (snapshot : Snapshot) (first second : List Commit) :
    published snapshot (first ++ second) = published (published snapshot first) second :=
  List.foldl_append

/-- Of all commits the last one is published, and the version counts them. -/
theorem published_of (first : Commit) (version : Nat) (commits : List Commit) :
    published (.of first.1 version first.2) commits =
      .of (commits.getLastD first).1 (version + commits.length) (commits.getLastD first).2 := by
  induction commits generalizing first version with
  | nil => rfl
  | cons commit commits induction =>
      rw [List.getLastD_cons, List.length_cons, Nat.add_comm commits.length, ← Nat.add_assoc]
      exact induction commit (version + 1)

mutual

theorem snapshot_perform (store : Store) (action : StoreAction) :
    (store.perform action).2.snapshot = published store.snapshot action.commits := by
  cases action with
  | commit catalog source => rfl
  | current => rfl
  | snapshot => rfl
  | tryBegin => rfl
  | release =>
      rw [perform, release?]
      cases store.refreshing <;> rfl
  | slot body raises =>
      rw [perform, snapshot_leaveSlot, snapshot_performAll, snapshot_tryBegin,
        StoreAction.commits]

theorem snapshot_performAll (store : Store) (actions : List StoreAction) :
    (store.performAll actions).2.snapshot =
      published store.snapshot (StoreAction.commitsOfAll actions) := by
  cases actions with
  | nil => rfl
  | cons action rest =>
      rw [performAll, snapshot_performAll, snapshot_perform, StoreAction.commitsOfAll,
        published_append]

end

theorem Passes.snapshot (passes : store.Passes actions commits now) :
    now.snapshot = published store.snapshot commits := by
  induction passes with
  | here => rfl
  | later _ induction => rw [induction, snapshot_perform, published_append]
  | inside _ induction => rw [induction, snapshot_tryBegin]

/-! ## The guard -/

theorem refreshing_performAll
    (keeps : ∀ action ∈ actions, ∀ store : Store,
      (store.perform action).2.refreshing = store.refreshing) (store : Store) :
    (store.performAll actions).2.refreshing = store.refreshing := by
  induction actions generalizing store with
  | nil => rfl
  | cons action rest induction =>
      rw [performAll, induction (fun action member => keeps action (List.mem_cons_of_mem _ member)),
        keeps action List.mem_cons_self]

/-- A slot whose work keeps the guard tells whether the guard was free, raises what its
work raises, and leaves the guard as it was. -/
theorem perform_slot
    (keeps : (store.tryBegin.2.performAll body).2.refreshing = store.tryBegin.2.refreshing)
    (raises : Option Text) :
    store.perform (.slot body raises) =
      (.slot (!store.refreshing) (store.tryBegin.2.performAll body).1 (raises.map .raised),
        { (store.tryBegin.2.performAll body).2 with refreshing := store.refreshing }) := by
  simp only [perform, tryBegin] at keeps ⊢
  generalize performAll _ body = work at keeps ⊢
  obtain ⟨answers, snapshot, held⟩ := work
  -- The guard is held when the work is over, so a slot that took it can free it.
  cases keeps
  cases store.refreshing <;> rfl

theorem refreshing_perform (only : action.UsesSlotsOnly) (store : Store) :
    (store.perform action).2.refreshing = store.refreshing := by
  induction only generalizing store with
  | commit => rfl
  | current => rfl
  | snapshot => rfl
  | slot _ induction => rw [perform_slot (refreshing_performAll induction _)]

/-- A guard that is held stays held at every moment of work that uses slots only. -/
theorem Passes.refreshing (passes : store.Passes actions commits now)
    (only : ∀ action ∈ actions, action.UsesSlotsOnly) (held : store.refreshing = true) :
    now.refreshing = true := by
  induction passes with
  | here => exact held
  | later _ induction =>
      have kept := refreshing_perform (only _ List.mem_cons_self)
      exact induction (fun action member => only action (List.mem_cons_of_mem _ member))
        ((kept _).trans held)
  | inside _ induction =>
      cases only _ List.mem_cons_self with
      | slot inner => exact induction inner rfl

/-! ## Every moment -/

/-- A store publishes what the last commit gave; its first catalog counts as one. -/
structure Publishes (store : Store) (first : Commit) (commits : List Commit) : Prop where
  current : store.current = (commits.getLastD first).1
  version : store.version = 1 + commits.length
  count : store.metadata.count = store.current.size
  checksum : store.metadata.checksum = Tunables.checksum (.array store.current.records)
  source : store.metadata.source = (commits.getLastD first).2

theorem Passes.publishes {first : Commit}
    (passes : (ofCatalog first.1 first.2).Passes actions commits now) :
    now.Publishes first commits := by
  obtain ⟨snapshot, refreshing⟩ := now
  cases passes.snapshot.trans (published_of first 1 commits)
  exact ⟨rfl, rfl, rfl, rfl, rfl⟩

/-- At every moment a store publishes the last commit, its guard can be taken exactly
when it is free, and a slot that touches the guard through slots only leaves it as it
found it, raising what the work inside raises. -/
theorem passes_publishes_and_guards (first : Commit)
    (passes : (ofCatalog first.1 first.2).Passes actions commits now) :
    now.Publishes first commits ∧
      ((now.perform .tryBegin).1 = .begun true ↔ now.refreshing = false) ∧
      (now.perform .tryBegin).2.refreshing = true ∧
      ∀ body raises, (∀ action ∈ body, action.UsesSlotsOnly) →
        (now.perform (.slot body raises)).2.refreshing = now.refreshing ∧
        ∃ answers, (now.perform (.slot body raises)).1 =
          .slot (!now.refreshing) answers (raises.map .raised) := by
  refine ⟨passes.publishes, ?_, rfl, ?_⟩
  · simp [perform, tryBegin]
  · intro body raises only
    have keeps := refreshing_performAll (fun action member => refreshing_perform (only action member))
      now.tryBegin.2
    rw [perform_slot keeps]
    exact ⟨rfl, _, rfl⟩

/-- The moment behind an inner slot, in a slot that was entered after a commit. -/
def insideSlot : Store :=
  ⟨.of .empty 2 .cluster, true⟩

theorem passes_publishes_and_guards_insideSlot :
    (ofCatalog .empty .baseline).Passes
        [.commit .empty .cluster, .slot [.slot [] none, .current] (some "broken")]
        [(.empty, .cluster)] insideSlot ∧
      insideSlot.Publishes (.empty, .baseline) [(.empty, .cluster)] ∧
      (insideSlot.perform (.slot [.slot [] none] (some "broken"))).2.refreshing = true := by
  have passes : (ofCatalog .empty .baseline).Passes
      [.commit .empty .cluster, .slot [.slot [] none, .current] (some "broken")]
      [(.empty, .cluster)] insideSlot :=
    .later (.inside (.later .here))
  have only : ∀ action ∈ [StoreAction.slot [] none], action.UsesSlotsOnly := by
    intro action member
    rw [List.mem_singleton.mp member]
    exact .slot (fun _ absent => absurd absent List.not_mem_nil)
  obtain ⟨publishes, -, -, slots⟩ := passes_publishes_and_guards (.empty, .baseline) passes
  exact ⟨passes, publishes, (slots [.slot [] none] (some "broken") only).1⟩

end Store
end Tunables
