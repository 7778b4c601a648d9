import Tunables.Proofs.Service.Setup
import Tunables.Proofs.Service.SingleFlight
import Tunables.Proofs.Service.Turns

/-!
# Replacing the store in use

A start that finds no store reads the dataset, and publishes a store when it has read
it, whether there is one by then or not.  So it replaces a store that another start
published in between.  If no start is called while another one reads, the store in
use stays and what it publishes changes by commits only.
-/

namespace Tunables

/-! ## What a store publishes -/

/-- A snapshot is committed by a cycle on the snapshot before it. -/
def Snapshot.IsFollowedBy (before now : Snapshot) : Prop :=
  ∃ limit exchanges result,
    (Cycle.talk before.catalog limit).EndsWith exchanges (.ok result) ∧
      now = .of result.catalog (before.metadata.version + 1) .cluster

/-- Commits one after the other lead from a snapshot to another one. -/
def Snapshot.LeadsTo : Snapshot → Snapshot → Prop :=
  Relation.ReflTransGen Snapshot.IsFollowedBy

theorem Snapshot.LeadsTo.version_le {before after : Snapshot} (leads : before.LeadsTo after) :
    before.metadata.version ≤ after.metadata.version := by
  induction leads with
  | refl => exact Nat.le_refl _
  | tail _ follows ih =>
      obtain ⟨limit, exchanges, result, ends, rfl⟩ := follows
      exact Nat.le_succ_of_le ih

def TaskState.isReading : TaskState → Bool
  | .readingBaseline => true
  | _ => false

namespace Board

variable {b c d : Board} {place : Nat} {before : Store}

/-- Every store is still at its place, and commits lead from what it published to
what it publishes. -/
def Keeps (b c : Board) : Prop :=
  ∀ (place : Nat) (before : Store), b.stores[place]? = some before →
    ∃ after, c.stores[place]? = some after ∧ before.snapshot.LeadsTo after.snapshot

theorem Keeps.of_stores_eq (stores : c.stores = b.stores) : b.Keeps c := by
  intro place before present
  rw [stores]
  exact ⟨before, present, .refl⟩

theorem Keeps.trans (first : b.Keeps c) (second : c.Keeps d) : b.Keeps d := by
  intro place before present
  obtain ⟨between, there, leads⟩ := first place before present
  obtain ⟨after, thereafter, leadsOn⟩ := second place between there
  exact ⟨after, thereafter, leads.trans leadsOn⟩

theorem Keeps.of_set (present : b.stores[place]? = some before) (now : Store)
    (stores : c.stores = b.stores.set place now)
    (leads : before.snapshot.LeadsTo now.snapshot) : b.Keeps c := by
  intro other store there
  rw [stores]
  by_cases same : place = other
  · subst same
    cases present.symm.trans there
    exact ⟨now, List.getElem?_set_self (List.getElem?_eq_some_iff.mp present).1, leads⟩
  · exact ⟨store, (List.getElem?_set_ne same).trans there, .refl⟩

theorem Change.keeps (change : b.Change c) (guarded : b.Guarded) : b.Keeps c := by
  cases change with
  | subscribers | read | rest | advance => exact .of_stores_eq rfl
  | publish id catalog opening =>
      intro place before present
      exact ⟨before,
        (List.getElem?_append_left (List.getElem?_eq_some_iff.mp present).1).trans present, .refl⟩
  | begin id frame store last present isFree free number => exact .of_set present _ rfl .refl
  | giveUp id frame rest store waiting present => exact .of_set present _ rfl .refl
  | commit id frame rest store result waiting present ends =>
      -- The talk of the cycle is about the catalog that the store still publishes.
      obtain ⟨held, exchanges, there, -, reaches⟩ := guarded.working id frame rest waiting
      cases present.symm.trans there
      have follows : store.snapshot.IsFollowedBy (.of result.catalog (store.version + 1) .cluster) :=
        ⟨frame.limit, exchanges ++ [], result, Talk.endsWith_iff_reaches.mpr
          (reaches.append (Talk.endsWith_iff_reaches.mp ends)), rfl⟩
      exact .of_set present _ rfl (.single follows)

theorem Changes.keeps (changes : b.Changes c) (guarded : b.Guarded) : b.Keeps c := by
  induction changes with
  | refl => exact .of_stores_eq rfl
  | tail earlier change ih => exact ih.trans (change.keeps (guarded.changes earlier))

/-- There is a store in use, and no start reads a dataset that it would publish in its
place. -/
structure IsSettled (b : Board) : Prop where
  published : b.stores ≠ []
  settled : ∀ id, b.activity id ≠ .reading

theorem IsSettled.assign (settled : b.IsSettled) (id : TaskId) {activity : Activity}
    (stores : c.stores.length = b.stores.length) (same : c.activity = b.activity)
    (free : activity ≠ .reading) : (c.assign id activity).IsSettled := by
  constructor
  · apply List.ne_nil_of_length_pos
    change 0 < c.stores.length
    rw [stores]
    exact List.length_pos_iff.mpr settled.published
  · intro other reading
    rcases activity_assign_iff.mp reading with ⟨-, here⟩ | ⟨-, before⟩
    · exact free here
    · rw [same] at before
      exact settled.settled other before

/-- Nothing is published on a settled board, and it stays settled. -/
theorem IsSettled.change (settled : b.IsSettled) (change : b.Change c) :
    c.IsSettled ∧ c.stores.length = b.stores.length := by
  cases change with
  | subscribers subscribers => exact ⟨⟨settled.published, settled.settled⟩, rfl⟩
  | read id unpublished idle => exact absurd unpublished settled.published
  | rest id free => exact ⟨settled.assign id rfl rfl nofun, rfl⟩
  | publish id catalog opening =>
      rcases opening with unpublished | reading
      · exact absurd unpublished settled.published
      · exact absurd reading (settled.settled id)
  | begin id frame store last present isFree free number =>
      exact ⟨settled.assign id List.length_set rfl nofun, List.length_set⟩
  | advance id frame rest later exchanges waiting reaches =>
      exact ⟨settled.assign id rfl rfl nofun, rfl⟩
  | giveUp id frame rest store waiting present =>
      exact ⟨settled.assign id List.length_set rfl nofun, List.length_set⟩
  | commit id frame rest store result waiting present ends =>
      exact ⟨settled.assign id List.length_set rfl nofun, List.length_set⟩

theorem IsSettled.changes (settled : b.IsSettled) (changes : b.Changes c) :
    c.IsSettled ∧ c.stores.length = b.stores.length := by
  induction changes with
  | refl => exact ⟨settled, rfl⟩
  | tail _ change ih =>
      obtain ⟨next, stores⟩ := ih.1.change change
      exact ⟨next, stores.trans ih.2⟩

end Board

namespace Service

variable {s t : Service} {now : Moment} {event : Event} {id : TaskId}
  {events : List (Moment × Event)} {store : Store}

theorem Reachable.keeps_after (reachable : s.Reachable) (events : List (Moment × Event)) :
    s.board.Keeps (s.after events).board := by
  induction events generalizing s with
  | nil => exact .of_stores_eq rfl
  | cons first later ih =>
      obtain ⟨now, event⟩ := first
      exact ((reachable.changes now event).keeps reachable.guarded).trans
        (ih (.step now event reachable))

theorem Reachable.isSettled_after (reachable : s.Reachable) (settled : s.board.IsSettled)
    (events : List (Moment × Event)) :
    (s.after events).board.IsSettled ∧ (s.after events).stores.length = s.stores.length := by
  induction events generalizing s with
  | nil => exact ⟨settled, rfl⟩
  | cons first later ih =>
      obtain ⟨now, event⟩ := first
      obtain ⟨next, stores⟩ := settled.changes (reachable.changes now event)
      obtain ⟨last, same⟩ := ih (.step now event reachable) next
      exact ⟨last, same.trans stores⟩

/-! ## Publishing -/

/-- A store is published as it is, also when a cycle on it begins at once. -/
theorem stores_publish (s : Service) (now : Moment) (catalog : Catalog)
    (inside : id < s.tasks.length) :
    ∃ refreshing, (s.publish now id catalog).stores =
      s.stores ++ [⟨.of catalog 1 .baseline, refreshing⟩] := by
  let published := { s with stores := s.stores ++ [Store.ofCatalog catalog .baseline] }
  have inUse : published.store? = some (Store.ofCatalog catalog .baseline) :=
    store?_of_stores rfl
  unfold publish
  dsimp only
  split
  · exact ⟨false, congrArg Board.stores (board_completeStart _ now id)⟩
  · rcases reconcile_cases published now id .initial none with idle | ⟨store, same, -, next⟩
    · exact ⟨false, congrArg Board.stores idle⟩
    · cases inUse.symm.trans same
      let limit : Timeout := none <|> published.settings.reconcileTimeout.map Seconds.fractional
      let attempt : Attempt := ⟨id, .initial, published.cycles + 1, limit, s.stores,
        Store.ofCatalog catalog .baseline, published.lastReport, rfl⟩
      have stores : published.stores = attempt.earlier ++ [attempt.store] := rfl
      have handled := (handled_beginCycle attempt now stores rfl rfl inside).1
      rw [next]
      cases handled with
      | waits waiting => exact ⟨true, waiting.stores⟩
      | raises base error cause stores lastReport untold inside next => exact ⟨false, stores⟩
      | reports base result ends stores lastReport told inside next =>
          -- A cycle lists the parameters first, so it has no result before an answer.
          obtain ⟨listing, names, answers, -, impossible, -, -⟩ := Cycle.endsWith_talk_ok_iff.mp ends
          cases impossible

/-- A start has read the dataset, and it makes a catalog. -/
def EndsReading (s : Service) (event : Event) (catalog : Catalog) : Prop :=
  ∃ id file, event = .fileRead id ∧ s.tasks[id]? = some ⟨.readingBaseline, false⟩ ∧
    s.baseline = .file file ∧ (file.read s.tree).value = .ok catalog

theorem step_fileRead (now : Moment) (reading : s.tasks[id]? = some ⟨.readingBaseline, false⟩) :
    s.step now (.fileRead id) = s.readBaseline now id := by
  rw [step, resumeTask, reading]
  rfl

theorem EndsReading.stores_step {catalog : Catalog} (ends : s.EndsReading event catalog)
    (now : Moment) :
    ∃ refreshing, (s.step now event).stores =
      s.stores ++ [⟨.of catalog 1 .baseline, refreshing⟩] := by
  obtain ⟨id, file, rfl, reading, origin, loaded⟩ := ends
  have inside : id < s.tasks.length := (List.getElem?_eq_some_iff.mp reading).1
  let told := s.sayAll none (file.read s.tree).entries
  have inTold : id < told.tasks.length := lt_length_sayAll inside _ _
  have same : told.stores = s.stores := congrArg Board.stores (s.board_sayAll none _)
  rw [step_fileRead now reading, readBaseline, origin, ← same]
  dsimp only
  rw [publishLoaded, loaded]
  exact stores_publish told now catalog inTold

theorem tasks_of_reading (reading : s.activity id = .reading) :
    ∃ doomed, s.tasks[id]? = some ⟨.readingBaseline, doomed⟩ := by
  cases present : s.tasks[id]? with
  | none =>
      rw [activity, present] at reading
      cases reading
  | some task =>
      rw [s.activity_of_tasks id present] at reading
      obtain ⟨state, doomed⟩ := task
      cases state with
      | readingBaseline => exact ⟨doomed, rfl⟩
      | _ => cases reading

/-- A start that goes on and has no catalog to publish leaves the stores as they are. -/
theorem stores_fileRead (reading : s.activity id = .reading)
    (fails : ∀ catalog, ¬ s.EndsReading (.fileRead id) catalog) (now : Moment) :
    (s.step now (.fileRead id)).stores = s.stores := by
  obtain ⟨doomed, present⟩ := tasks_of_reading reading
  cases doomed with
  | true =>
      rw [step, resumeTask, present]
      rfl
  | false =>
      rw [step_fileRead now present]
      unfold readBaseline
      split
      · next file origin =>
          unfold publishLoaded
          dsimp only
          split
          · next catalog loaded =>
              exact absurd ⟨id, file, rfl, present, origin, loaded⟩ (fails catalog)
          · exact congrArg Board.stores (s.board_sayAll none _)
      · rfl

/-! ## Starts that read -/

def Event.isStart : Event → Bool
  | .start => true
  | _ => false

/-- Whether a start reads the dataset. -/
def isReading (s : Service) : Bool :=
  s.tasks.any (·.state.isReading)

theorem isReading_iff : s.isReading = true ↔ ∃ id, s.activity id = .reading := by
  rw [isReading, List.any_eq_true]
  constructor
  · intro found
    obtain ⟨task, member, reading⟩ := found
    obtain ⟨id, present⟩ := List.mem_iff_getElem?.mp member
    refine ⟨id, (s.activity_of_tasks id present).trans ?_⟩
    obtain ⟨state, doomed⟩ := task
    cases state with
    | readingBaseline => rfl
    | _ => cases reading
  · intro found
    obtain ⟨id, reading⟩ := found
    obtain ⟨doomed, present⟩ := tasks_of_reading reading
    exact ⟨_, List.mem_of_getElem? present, rfl⟩

/-- A task that reads did so before, or it starts a service without a store. -/
theorem Reachable.reading_step (reachable : s.Reachable)
    (reading : (s.step now event).activity id = .reading) :
    s.activity id = .reading ∨ id = s.tasks.length ∧ event = .start ∧
      (s.step now event).stores = [] ∧ ∃ file, s.baseline = .file file := by
  obtain ⟨other, others, turn⟩ := reachable.hasTurn now event
  by_cases own : id = other
  · subst own
    cases turn with
    | keeps same => exact .inl (same.symm.trans reading)
    | rests idle => cases idle.symm.trans reading
    | reads start last unpublished file _ => exact .inr ⟨last, start, unpublished, file⟩
    | begins frame rest free cycling => cases cycling.symm.trans reading
    | goesOn frame rest later was cycling => cases cycling.symm.trans reading
  · exact .inl ((others id own).symm.trans reading)

/-- The number of stores changes only if a task publishes one, and this task does not
read any longer. -/
theorem Reachable.length_stores_step (reachable : s.Reachable) (now : Moment) (event : Event) :
    (s.step now event).stores.length = s.stores.length ∨
      ∃ id, s.IsOpening event id ∧ (s.step now event).activity id ≠ .reading := by
  cases step_move s now event with
  | quiet unanswered board => exact .inl (congrArg (fun board => board.stores.length) board)
  | reads start unpublished file board =>
      exact .inl (congrArg (fun board => board.stores.length) board)
  | stopsReading id reading board => exact .inl (congrArg (fun board => board.stores.length) board)
  | publishes id catalog opening free board =>
      have idle := (activity_of_board board rfl).2
      refine .inr ⟨id, opening, ?_⟩
      rw [idle]
      nofun
  | begins r id purpose limit store untold board free inside inUse isFree next =>
      obtain ⟨frame, begun⟩ := goesOn_beginCycle now inUse inside purpose limit
      rw [next]
      rcases board with same | ⟨opening, -⟩
      · exact .inl (begun.stores.trans (congrArg (fun board => board.stores.length) same))
      · exact .inr ⟨id, opening, begun.not_reading⟩
  | goesOn r id frame command resume answer waiting answered board inside next =>
      rw [next]
      exact .inl (reachable.goesOn_of_waiting waiting board inside now (resume answer)).stores

/-- No start is called while another one reads the dataset. -/
def ReadsApart (s : Service) : List (Moment × Event) → Prop
  | [] => True
  | (now, event) :: later =>
      (event.isStart = true → s.isReading = false) ∧ (s.step now event).ReadsApart later

instance decidableReadsApart (s : Service) :
    (events : List (Moment × Event)) → Decidable (s.ReadsApart events)
  | [] => .isTrue trivial
  | (now, event) :: later =>
      have := decidableReadsApart (s.step now event) later
      inferInstanceAs (Decidable (_ ∧ _))

/-- At most one start reads the dataset, and only as long as there is no store. -/
structure ReadsAlone (s : Service) : Prop where
  alone : ∀ first second, s.activity first = .reading → s.activity second = .reading →
    first = second
  unpublished : ∀ id, s.activity id = .reading → s.stores = []

theorem ReadsAlone.step (alone : s.ReadsAlone) (reachable : s.Reachable) (now : Moment)
    (event : Event) (apart : event = .start → s.isReading = false) :
    (s.step now event).ReadsAlone := by
  have nobody : event = .start → ∀ id, s.activity id ≠ .reading := by
    intro start id reading
    cases (apart start).symm.trans (isReading_iff.mpr ⟨id, reading⟩)
  constructor
  · intro first second firstReads secondReads
    rcases reachable.reading_step firstReads with firstRead | ⟨firstLast, start, -⟩
    · rcases reachable.reading_step secondReads with secondRead | ⟨-, start, -⟩
      · exact alone.alone first second firstRead secondRead
      · exact absurd firstRead (nobody start first)
    · rcases reachable.reading_step secondReads with secondRead | ⟨secondLast, -⟩
      · exact absurd secondRead (nobody start second)
      · exact firstLast.trans secondLast.symm
  · intro id reads
    rcases reachable.reading_step reads with read | ⟨-, -, unpublished, -⟩
    · have empty := alone.unpublished id read
      rcases reachable.length_stores_step now event with same | ⟨opener, opening, gone⟩
      · rw [empty] at same
        exact List.eq_nil_of_length_eq_zero same
      · -- The only task that reads would be the one that publishes, but it reads on.
        rcases opening with ⟨start, -⟩ | ⟨-, reading⟩
        · exact absurd read (nobody start id)
        · cases alone.alone opener id reading read
          exact absurd reads gone
    · exact unpublished

theorem ReadsAlone.after (alone : s.ReadsAlone) (reachable : s.Reachable)
    (apart : s.ReadsApart events) : (s.after events).ReadsAlone := by
  induction events generalizing s with
  | nil => exact alone
  | cons first later ih =>
      obtain ⟨now, event⟩ := first
      obtain ⟨start, further⟩ := apart
      have next := alone.step reachable now event fun same => start (same ▸ rfl)
      exact ih next (.step now event reachable) further

/-- A service that is not loaded from a file never reads. -/
theorem Reachable.not_reading_after (reachable : s.Reachable)
    (origin : ∀ file, s.baseline ≠ .file file) (idle : ∀ id, s.activity id ≠ .reading)
    (events : List (Moment × Event)) (id : TaskId) : (s.after events).activity id ≠ .reading := by
  induction events generalizing s with
  | nil => exact idle id
  | cons first later ih =>
      obtain ⟨now, event⟩ := first
      have same : (s.step now event).baseline = s.baseline :=
        congrArg Setup.baseline (s.setup_step now event)
      refine ih (.step now event reachable) (by rw [same]; exact origin) fun other reading => ?_
      rcases reachable.reading_step reading with before | ⟨-, -, -, file, found⟩
      · exact idle other before
      · exact origin file found

theorem Reachable.store?_after (reachable : s.Reachable) (settled : s.board.IsSettled)
    (inUse : s.store? = some store) (events : List (Moment × Event)) :
    ∃ after, (s.after events).store? = some after ∧
      (s.after events).stores.length = s.stores.length ∧
      store.snapshot.LeadsTo after.snapshot := by
  obtain ⟨-, stores⟩ := reachable.isSettled_after settled events
  have present : s.board.stores[s.stores.length - 1]? = some store := by
    rw [← inUse, store?, List.getLast?_eq_getElem?]
    rfl
  obtain ⟨after, there, leads⟩ := reachable.keeps_after events _ store present
  refine ⟨after, ?_, stores, leads⟩
  rw [store?, List.getLast?_eq_getElem?, stores]
  exact there

/-- While no start reads the dataset, the store in use stays for good, and cycles on it
commit all that it publishes.  Otherwise it is replaced just when such a start has read a
dataset that makes a catalog.  No start reads when there is a store, if the first catalog
comes from no file or no start is called while another one reads. -/
theorem store_is_replaced_by_late_start (settings : Settings) (tree : FileTree)
    (baseline : BaselineOrigin) (executor : Option Executor) (events : List (Moment × Event))
    (store : Store)
    (inUse : ((create settings tree baseline executor).after events).store? = some store) :
    let created := create settings tree baseline executor
    let s := created.after events
    (s.isReading = false → ∀ later, ∃ after, (s.after later).store? = some after ∧
      (s.after later).stores.length = s.stores.length ∧
      store.snapshot.LeadsTo after.snapshot ∧ store.version ≤ after.version) ∧
    (∀ now event catalog, s.EndsReading event catalog →
      ∃ refreshing, (s.step now event).stores =
        s.stores ++ [⟨.of catalog 1 .baseline, refreshing⟩]) ∧
    (∀ now event, (∀ catalog, ¬ s.EndsReading event catalog) →
      (s.step now event).stores.length = s.stores.length) ∧
    ((∀ file, baseline ≠ .file file) ∨ created.ReadsApart events → s.isReading = false) := by
  intro created s
  have begun : created.Reachable := .create settings tree baseline executor
  have reachable : s.Reachable := begun.after events
  have idle : ∀ id, created.activity id ≠ .reading := fun _ => nofun
  have published : s.stores ≠ [] := by
    intro empty
    rw [store?, empty] at inUse
    cases inUse
  refine ⟨?_, ?_, ?_, ?_⟩
  · intro unread later
    have settled : s.board.IsSettled := by
      refine ⟨published, fun id reading => ?_⟩
      cases unread.symm.trans (isReading_iff.mpr ⟨id, reading⟩)
    obtain ⟨after, still, stores, leads⟩ := reachable.store?_after settled inUse later
    exact ⟨after, still, stores, leads, leads.version_le⟩
  · intro now event catalog ends
    exact ends.stores_step now
  · intro now event fails
    rcases reachable.length_stores_step now event with same | ⟨id, opening, -⟩
    · exact same
    · rcases opening with ⟨-, empty⟩ | ⟨rfl, reading⟩
      · exact absurd empty published
      · rw [stores_fileRead reading fails]
  · intro origin
    apply Bool.eq_false_iff.mpr
    intro read
    obtain ⟨id, reading⟩ := isReading_iff.mp read
    rcases origin with noFile | apart
    · exact begun.not_reading_after noFile idle events id reading
    · have alone : created.ReadsAlone :=
        ⟨fun first _ reads => absurd reads (idle first), fun other reads => absurd reads (idle other)⟩
      exact published ((alone.after begun apart).unpublished id reading)

/-- A service whose dataset is a file that holds an empty array. -/
def fromFile : Service :=
  create Settings.standard { FileTree.empty with files := [(.ofText "/data.json", [91, 93])] }
    (.file (.located "/data.json")) (some (.script .empty))

/-- A service that was started once has committed the answer of its cluster, and it
never goes back. -/
theorem store_is_replaced_by_late_start_once :
    let events := [(0, Event.start), (1, .fileRead 0), (2, .answered 0 (.ok [91, 93]) [])]
    fromFile.ReadsApart events ∧ ∃ store, (fromFile.after events).store? = some store ∧
      store.version = 2 ∧ ∀ later, ∃ after,
        ((fromFile.after events).after later).store? = some after ∧ 2 ≤ after.version := by
  intro events
  have apart : fromFile.ReadsApart events := by decide +kernel
  have found : (fromFile.after events).store?.map (·.version) = some 2 := by decide +kernel
  obtain ⟨store, inUse, version⟩ := Option.map_eq_some_iff.mp found
  obtain ⟨stays, -, -, unread⟩ := store_is_replaced_by_late_start _ _ _ _ events store inUse
  refine ⟨apart, store, inUse, version, fun later => ?_⟩
  obtain ⟨after, still, -, -, newer⟩ := stays (unread (.inr apart)) later
  exact ⟨after, still, version ▸ newer⟩

/-- Of two starts that read at the same time, the second one throws away what was
committed after the first one. -/
theorem committed_snapshot_replaced :
    let s := fromFile.after
      [(0, .start), (0, .start), (1, .fileRead 0), (2, .answered 0 (.ok [91, 93]) [])]
    s.store?.map (fun store => (store.version, store.metadata.source)) = some (2, .cluster) ∧
      (s.step 3 (.fileRead 1)).store?.map (fun store => (store.version, store.metadata.source)) =
        some (1, .baseline) := by
  decide +kernel

end Service
end Tunables
