import Tunables.Proofs.Ending
import Tunables.Proofs.Service.Setup
import Tunables.Proofs.Service.SingleFlight
import Tunables.Proofs.Service.Stopping

/-!
# The first start

A first start that can load its dataset publishes it and runs a cycle.  Whatever answers
its commands get, the cycle ends after finitely many of them and the start returns, with
the refresh loop if the settings ask for one.  Only if no executor can be made of the
settings does it fail: the dataset is published by then, but there is no loop.
-/

namespace Tunables

/-- Loads the first catalog of a service. -/
def BaselineOrigin.load (tree : FileTree) : BaselineOrigin → Except LoadFailure Catalog
  | .catalog given => .ok given
  | .document content => Baseline.load content
  | .file place => (place.read tree).value

namespace Service

variable {s t base : Service} {now : Moment} {id : TaskId} {frame : CycleFrame} {event : Event}
  {store : Store}

/-! ## What a cycle leaves as it is -/

/-- Two services with the same setup and the same refresh loop, and as many tasks. -/
structure Alike (s t : Service) : Prop where
  setup : t.setup = s.setup
  refresher : t.refresher = s.refresher
  length : t.tasks.length = s.tasks.length

theorem Alike.refl (s : Service) : s.Alike s :=
  ⟨rfl, rfl, rfl⟩

theorem Alike.trans (first : s.Alike t) (second : t.Alike base) : s.Alike base :=
  ⟨second.setup.trans first.setup, second.refresher.trans first.refresher,
    second.length.trans first.length⟩

theorem Alike.of_roster (setup : t.setup = s.setup) (roster : t.roster = s.roster) : s.Alike t :=
  ⟨setup, congrArg Roster.refresher roster, congrArg (fun roster => roster.tasks.length) roster⟩

theorem alike_setState (s : Service) (id : TaskId) (state : TaskState) :
    s.Alike (s.setState id state) :=
  ⟨rfl, rfl, List.length_set⟩

theorem alike_sayAll (s : Service) (cycle : Option Nat) (entries : List LogEntry) :
    s.Alike (s.sayAll cycle entries) :=
  .of_roster (s.setup_sayAll cycle entries) (s.roster_sayAll cycle entries)

theorem alike_ensureExecutor (s : Service) (cycle : Option Nat) :
    s.Alike (s.ensureExecutor cycle).2 :=
  .of_roster (s.setup_ensureExecutor cycle) (s.roster_ensureExecutor cycle)

theorem alike_commitResult (s : Service) (frame : CycleFrame) (result : CycleResult) :
    s.Alike (s.commitResult frame result) :=
  .of_roster (s.setup_commitResult frame result) (s.roster_commitResult frame result)

/-! ## Answers -/

/-- What a cycle is told while nobody cancels it: the answer to its command, which is no
interruption, or that its time is over. -/
inductive Event.Responds (id : TaskId) : Event → Prop where
  | answered (answer : Answer) (entries : List LogEntry)
      (uninterrupted : ∀ detail, answer ≠ .error (.interrupted detail)) :
      Responds id (.answered id answer entries)
  | expired : Responds id (.expired id)

theorem Event.Responds.step {command : Command} {asked : Moment}
    {resume : Answer → Talk (Except CycleStop CycleResult)} (responds : event.Responds id)
    (present : s.tasks[id]? = some ⟨.inCycle frame command asked resume, false⟩) (now : Moment) :
    ∃ r answer, s.step now event = r.proceed now id frame (resume answer) ∧ s.Alike r ∧
      r.stores = s.stores ∧ s.exchange? id event = some ⟨command, answer⟩ ∧
      ∀ detail, answer ≠ .error (.interrupted detail) := by
  cases responds with
  | answered answer entries uninterrupted =>
      let called := s.recordCall frame.executor command
      have recorded : s.Alike called := ⟨rfl, rfl, rfl⟩
      refine ⟨called.sayAll (some frame.number) entries, answer, ?_,
        recorded.trans (called.alike_sayAll (some frame.number) entries),
        congrArg Board.stores (called.board_sayAll (some frame.number) entries),
        exchange?_inCycle rfl present rfl, uninterrupted⟩
      rw [Service.step, resumeTask, present]
      rfl
  | expired =>
      refine ⟨s, .error .deadline, ?_, .refl s, rfl, exchange?_inCycle rfl present rfl, ?_⟩
      · rw [Service.step, resumeTask, present]
        rfl
      · intro detail same
        cases same

/-- The first of a sequence of events. -/
def upTo (events : ℕ → Moment × Event) (n : ℕ) : List (Moment × Event) :=
  (List.range n).map events

theorem upTo_succ (events : ℕ → Moment × Event) (n : ℕ) :
    upTo events (n + 1) = events 0 :: upTo (fun k => events (k + 1)) n := by
  rw [upTo, List.range_succ_eq_map, List.map_cons, List.map_map]
  rfl

/-- A talk is over after finitely many answers. -/
theorem exists_done (now : Moment) (talk : Talk (Except CycleStop CycleResult))
    (inside : id < s.tasks.length) {responses : ℕ → Moment × Event}
    (responds : ∀ k, (responses k).2.Responds id) :
    ∃ n base moment outcome,
      (s.proceed now id frame talk).after (upTo responses n) =
        base.proceed moment id frame (.done outcome) ∧
      s.Alike base ∧ base.stores = s.stores ∧
      talk.EndsWith ((s.proceed now id frame talk).exchanges id (upTo responses n)) outcome ∧
      ∀ exchange ∈ (s.proceed now id frame talk).exchanges id (upTo responses n),
        ∀ detail, exchange.answer ≠ .error (.interrupted detail) := by
  induction talk generalizing s now responses with
  | done outcome => exact ⟨0, s, now, outcome, rfl, .refl s, rfl, .done outcome, nofun⟩
  | say entry next ih =>
      have told : id < (s.say (some frame.number) entry).tasks.length := inside
      obtain ⟨n, base, moment, outcome, next, alike, stores, ends, uninterrupted⟩ :=
        ih now told responds
      have alikeNow : s.Alike base := ⟨alike.setup, alike.refresher, alike.length⟩
      exact ⟨n, base, moment, outcome, next, alikeNow, stores, .say ends, uninterrupted⟩
  | ask command resume ih =>
      let told := s.sayAll (some frame.number) (s.startEntries frame.executor command)
      let waiting := told.setState id (.inCycle frame command now resume)
      have still : id < told.tasks.length := lt_length_sayAll inside _ _
      have present : waiting.tasks[id]? = some ⟨.inCycle frame command now resume, false⟩ :=
        List.getElem?_set_self still
      have toldStores : told.stores = s.stores := congrArg Board.stores (s.board_sayAll _ _)
      obtain ⟨r, answer, step, alike, stores, exchange, isAnswer⟩ :=
        (responds 0).step present (responses 0).1
      have alikeNow : s.Alike r :=
        ((s.alike_sayAll _ _).trans (alike_setState told id _)).trans alike
      have inR : id < r.tasks.length := alikeNow.length ▸ inside
      obtain ⟨n, base, moment, outcome, next, alikeBase, baseStores, ends, uninterrupted⟩ :=
        ih answer (responses 0).1 inR fun k => responds (k + 1)
      have exchanges : waiting.exchanges id (upTo responses (n + 1)) =
          ⟨command, answer⟩ :: (r.proceed (responses 0).1 id frame (resume answer)).exchanges id
            (upTo (fun k => responses (k + 1)) n) := by
        rw [upTo_succ, Service.exchanges, exchange, step]
        rfl
      refine ⟨n + 1, base, moment, outcome, ?_, alikeNow.trans alikeBase,
        (baseStores.trans stores).trans toldStores, ?_, ?_⟩
      · change waiting.after (upTo responses (n + 1)) = _
        rw [upTo_succ, after_cons, step]
        exact next
      · change (Talk.ask command resume).EndsWith (waiting.exchanges id _) outcome
        rw [exchanges]
        exact .ask ends
      · change ∀ exchange ∈ waiting.exchanges id _, _
        rw [exchanges]
        intro other member
        rcases List.mem_cons.mp member with rfl | later
        · exact isAnswer
        · exact uninterrupted other later

/-! ## A start that returns -/

/-- A start has returned: its store is published, and a refresh loop runs if the settings
ask for one. -/
structure HasStarted (t : Service) (id : TaskId) (settings : Settings) (store : Store) : Prop where
  returned : t.tasks[id]? = some ⟨.ended .started, false⟩
  stores : t.stores = [store]
  refreshes : t.isRefreshing = settings.refreshesPeriodically

theorem hasStarted_completeStart (inside : id < s.tasks.length) (unremembered : s.refresher = none)
    (stores : s.stores = [store]) (now : Moment) :
    (s.completeStart now id).HasStarted id s.settings store := by
  have same : (s.completeStart now id).stores = [store] :=
    (congrArg Board.stores (s.board_completeStart now id)).trans stores
  cases periodic : s.settings.refreshesPeriodically with
  | false =>
      refine ⟨?_, same, ?_⟩
      · rw [completeStart, ensureRefresher, periodic]
        exact List.getElem?_set_self inside
      · rw [periodic, isRefreshing, completeStart, ensureRefresher, periodic]
        change s.refresher.any _ = false
        rw [unremembered]
        rfl
  | true =>
      let resting : Task := ⟨.resting now, false⟩
      have added : id < (s.tasks ++ [resting]).length := by
        rw [List.length_append]
        exact Nat.lt_add_right _ inside
      refine ⟨?_, same, ?_⟩
      · rw [completeStart, ensureRefresher, periodic, unremembered]
        exact List.getElem?_set_self added
      · rw [periodic, isRefreshing, completeStart, ensureRefresher, periodic, unremembered]
        change (((s.tasks ++ [resting]).set id _)[s.tasks.length]?).any Task.isAlive = true
        rw [List.getElem?_set_ne (Nat.ne_of_lt inside), List.getElem?_concat_length]
        rfl

/-- What becomes of a first start when its cycle is over: it returns, with the result of
the cycle or with the dataset that it published. -/
theorem hasStarted_proceed (alike : s.Alike base) (inside : id < s.tasks.length)
    (unremembered : s.refresher = none) (initial : frame.purpose = .initial)
    (place : frame.store = 0) (stores : base.stores = [store]) (now : Moment) :
    (∀ error, (base.proceed now id frame (.done (.error (.failed error)))).HasStarted id s.settings
      { store with refreshing := false }) ∧
    ∀ result, (base.proceed now id frame (.done (.ok result))).HasStarted id s.settings
      ⟨.of result.catalog (store.version + 1) .cluster, false⟩ := by
  have there : base.stores[frame.store]? = some store := by
    rw [place, stores]
    rfl
  have inBase : id < base.tasks.length := alike.length ▸ inside
  have forgotten : base.refresher = none := alike.refresher.trans unremembered
  constructor
  · intro error
    let told := (base.releaseGuard frame.store).say none
      (.warning ("Initial reconciliation failed, serving baseline catalog: " ++ error.message))
    have next : base.proceed now id frame (.done (.error (.failed error))) =
        told.completeStart now id := by
      rw [proceed, initial]
      rfl
    have inTold : id < told.tasks.length := inBase
    have settings : told.settings = s.settings := congrArg Setup.settings alike.setup
    rw [next, ← settings]
    refine hasStarted_completeStart inTold forgotten ?_ now
    refine (congrArg Board.stores (board_releaseGuard there)).trans ?_
    change base.stores.set frame.store _ = _
    rw [place, stores]
    rfl
  · intro result
    let committed := (base.commitResult frame result).releaseGuard frame.store
    have kept := alike.trans (alike_commitResult base frame result)
    have same : s.Alike committed := ⟨kept.setup, kept.refresher, kept.length⟩
    have settings : committed.settings = s.settings := congrArg Setup.settings same.setup
    have next : base.proceed now id frame (.done (.ok result)) = committed.completeStart now id := by
      rw [proceed, initial]
      rfl
    rw [next, ← settings]
    refine hasStarted_completeStart (same.length ▸ inside)
      (same.refresher.trans unremembered) ?_ now
    refine (congrArg Board.stores (board_releaseGuard_commitResult there result)).trans ?_
    change base.stores.set frame.store _ = _
    rw [place, stores]
    rfl

/-- The first cycle of a service ends after finitely many answers, and its start returns. -/
theorem exists_hasStarted_proceed (inside : id < s.tasks.length)
    (unremembered : s.refresher = none) (initial : frame.purpose = .initial)
    (place : frame.store = 0) (stores : s.stores = [store]) (now : Moment) (previous : Catalog)
    (limit : Timeout) {responses : ℕ → Moment × Event}
    (responds : ∀ k, (responses k).2.Responds id) :
    let begun := s.proceed now id frame (Cycle.talk previous limit)
    ∃ n outcome, (Cycle.talk previous limit).EndsWith
        (begun.exchanges id (upTo responses n)) outcome ∧
      ((∃ error, outcome = .error (.failed error) ∧
        (begun.after (upTo responses n)).HasStarted id s.settings
          { store with refreshing := false }) ∨
      ∃ result, outcome = .ok result ∧ (begun.after (upTo responses n)).HasStarted id s.settings
        ⟨.of result.catalog (store.version + 1) .cluster, false⟩) := by
  intro begun
  obtain ⟨n, base, moment, outcome, next, alike, baseStores, ends, uninterrupted⟩ :=
    exists_done now (Cycle.talk previous limit) inside responds
  obtain ⟨fails, reports⟩ := hasStarted_proceed alike inside unremembered initial place
    (baseStores.trans stores) moment
  refine ⟨n, outcome, ends, ?_⟩
  rw [show begun.after (upTo responses n) = _ from next]
  cases Cycle.endsProperly_of_endsWith ends with
  | result result => exact .inr ⟨result, rfl, reports result⟩
  | failed error => exact .inl ⟨error, rfl, fails error⟩
  | interrupted last =>
      -- An interruption would have been the last answer.
      rw [last] at uninterrupted
      cases uninterrupted _ (List.mem_append_right _ (List.mem_singleton_self _)) _ rfl

/-! ## The executor of a start -/

/-- The executor that a service has, or the one that its settings describe. -/
def chosenExecutor (s : Service) : Except Executor.BuildError Executor :=
  match s.executors.getLast? with
  | some used => .ok used.executor
  | none => (Executor.ofSettings s.tree s.settings).value

theorem ensureExecutor_fst (s : Service) (cycle : Option Nat) :
    (s.ensureExecutor cycle).1 = s.chosenExecutor := by
  unfold ensureExecutor chosenExecutor
  cases s.executors.getLast? with
  | some used => rfl
  | none =>
      dsimp only
      split
      · next executor built => exact built.symm
      · next cause refused => exact refused.symm

/-- The first cycle of a service begins if there is an executor for it, and otherwise it
fails and leaves the store as it was. -/
theorem beginCycle_first (stores : s.stores = [store]) (isFree : store.refreshing = false)
    (now : Moment) (id : TaskId) (purpose : CyclePurpose) (limit : Timeout) :
    (∀ executor, s.chosenExecutor = .ok executor → ∃ ready place,
      s.beginCycle now id purpose limit store =
        ready.proceed now id ⟨s.cycles + 1, purpose, 0, place, limit, now⟩
          (Cycle.talk store.current limit) ∧
      s.Alike ready ∧ ready.stores = [{ store with refreshing := true }]) ∧
    ∀ cause, s.chosenExecutor = .error cause → ∃ refused,
      s.beginCycle now id purpose limit store =
        refused.afterCycle now id purpose (.error (.executor cause)) ∧
      s.Alike refused ∧ refused.stores = [store] := by
  unfold beginCycle
  dsimp only
  generalize started : ({ s with cycles := s.cycles + 1 }.takeGuard (s.stores.length - 1)).say
    (some (s.cycles + 1)) (.info "Reconciliation cycle started") = begun
  have alike : s.Alike begun := by
    rw [← started]
    exact ⟨rfl, rfl, rfl⟩
  have held : begun.stores = [{ store with refreshing := true }] := by
    rw [← started, stores]
    rfl
  have chosen : (begun.ensureExecutor (some (s.cycles + 1))).1 = s.chosenExecutor := by
    rw [ensureExecutor_fst, ← started]
    rfl
  have place : s.stores.length - 1 = 0 := by
    rw [stores]
    rfl
  have same := alike.trans (alike_ensureExecutor begun (some (s.cycles + 1)))
  have ensured := (congrArg Board.stores (begun.board_ensureExecutor (some (s.cycles + 1)))).trans
    held
  generalize begun.ensureExecutor (some (s.cycles + 1)) = made at chosen same ensured ⊢
  obtain ⟨outcome, ready⟩ := made
  dsimp only at chosen
  subst chosen
  rw [place]
  constructor
  · intro executor found
    rw [found]
    exact ⟨ready, _, rfl, same, ensured⟩
  · intro cause refused
    rw [refused]
    refine ⟨ready.releaseGuard 0, rfl, ⟨same.setup, same.refresher, same.length⟩, ?_⟩
    have there : ready.stores[0]? = some { store with refreshing := true } := by
      change ready.board.stores[0]? = _
      rw [ensured]
      rfl
    refine (congrArg Board.stores (board_releaseGuard there)).trans ?_
    change ready.board.stores.set 0 _ = _
    rw [ensured, ← isFree]
    rfl

/-! ## A first start -/

/-- The limit of the first cycle of a service. -/
def firstLimit (settings : Settings) : Timeout :=
  settings.reconcileTimeout.map Seconds.fractional

theorem publish_of_skip (unpublished : s.stores = []) (unremembered : s.refresher = none)
    (inside : id < s.tasks.length) (skip : s.settings.skipClusterUpdate = true) (now : Moment)
    (catalog : Catalog) :
    (s.publish now id catalog).HasStarted id s.settings (.ofCatalog catalog .baseline) := by
  let told := { s with stores := s.stores ++ [Store.ofCatalog catalog .baseline] }.say none
    (.info "Cluster update skipped, serving baseline catalog")
  have next : s.publish now id catalog = told.completeStart now id := by
    unfold publish
    dsimp only
    rw [if_pos skip]
  have stores : told.stores = [Store.ofCatalog catalog .baseline] :=
    congrArg (· ++ [Store.ofCatalog catalog .baseline]) unpublished
  have inTold : id < told.tasks.length := inside
  rw [next]
  exact hasStarted_completeStart inTold unremembered stores now

/-- A start that brings its catalog in line with the cluster begins a cycle. -/
theorem publish_of_not_skip (unpublished : s.stores = [])
    (brings : s.settings.skipClusterUpdate = false) (now : Moment) (id : TaskId)
    (catalog : Catalog) :
    ∃ published, s.publish now id catalog =
        published.beginCycle now id .initial (firstLimit s.settings)
          (.ofCatalog catalog .baseline) ∧
      s.Alike published ∧ published.stores = [.ofCatalog catalog .baseline] ∧
      published.chosenExecutor = s.chosenExecutor := by
  let published := { s with stores := s.stores ++ [Store.ofCatalog catalog .baseline] }
  have inUse : published.store? = some (.ofCatalog catalog .baseline) := store?_of_stores rfl
  refine ⟨published, ?_, ⟨rfl, rfl, rfl⟩,
    congrArg (· ++ [Store.ofCatalog catalog .baseline]) unpublished, rfl⟩
  unfold publish
  dsimp only
  rw [brings]
  change published.reconcile now id .initial none = _
  rw [reconcile, inUse]
  rfl

/-- The events of a first start up to the moment when its dataset was read. -/
def opening (baseline : BaselineOrigin) (now later : Moment) : List (Moment × Event) :=
  match baseline with
  | .file _ => [(now, .start), (later, .fileRead 0)]
  | _ => [(now, .start)]

theorem exists_publish (settings : Settings) (tree : FileTree) (baseline : BaselineOrigin)
    (executor : Option Executor) {catalog : Catalog} (loads : baseline.load tree = .ok catalog)
    (now later : Moment) :
    ∃ (s : Service) (moment : Moment),
      (create settings tree baseline executor).after (opening baseline now later) =
        s.publish moment 0 catalog ∧
      s.stores = [] ∧ s.refresher = none ∧ s.tasks.length = 1 ∧ s.settings = settings ∧
      s.chosenExecutor = (create settings tree baseline executor).chosenExecutor := by
  let created := create settings tree baseline executor
  cases baseline with
  | catalog given =>
      cases loads
      exact ⟨created.addCall, now, rfl, rfl, rfl, rfl, rfl, rfl⟩
  | document content =>
      have told := created.addCall.sayAll_eq none (Baseline.loadLogged content).entries
      have loaded : (Baseline.loadLogged content).value = .ok catalog := loads
      refine ⟨_, now, ?_, congrArg stores told, congrArg Service.refresher told,
        congrArg (fun s => s.tasks.length) told, congrArg Service.settings told,
        (congrArg chosenExecutor told).trans rfl⟩
      change created.addCall.publishLoaded now 0 (Baseline.loadLogged content) = _
      rw [publishLoaded, loaded]
  | file place =>
      let reading := (created.addCall.say none (place.startEntry tree)).setState 0 .readingBaseline
      have told := reading.sayAll_eq none (place.read tree).entries
      have loaded : (place.read tree).value = .ok catalog := loads
      refine ⟨_, later, ?_, congrArg stores told, congrArg Service.refresher told,
        congrArg (fun s => s.tasks.length) told, congrArg Service.settings told,
        (congrArg chosenExecutor told).trans rfl⟩
      change reading.publishLoaded later 0 (place.read tree) = _
      rw [publishLoaded, loaded]

/-- A first start whose dataset makes a catalog returns after finitely many answers, if no
cycle is asked for or there is an executor for it.  It has published the result of its
cycle over these answers, or the dataset if there was no cycle or it failed, and a refresh
loop runs exactly if the settings ask for one.  If no executor can be made of the settings
it fails: the dataset is published then, but no loop runs. -/
theorem first_start_returns (settings : Settings) (tree : FileTree) (baseline : BaselineOrigin)
    (executor : Option Executor) (catalog : Catalog) (loads : baseline.load tree = .ok catalog)
    (now later : Moment) (responses : ℕ → Moment × Event)
    (responds : ∀ n, (responses n).2.Responds 0) :
    let created := create settings tree baseline executor
    let begun := created.after (opening baseline now later)
    (settings.skipClusterUpdate = true →
      begun.HasStarted 0 settings ⟨.of catalog 1 .baseline, false⟩) ∧
    (∀ chosen, settings.skipClusterUpdate = false → created.chosenExecutor = .ok chosen →
      ∃ n outcome,
        (Cycle.talk catalog (firstLimit settings)).EndsWith
          (begun.exchanges 0 (upTo responses n)) outcome ∧
        ((∃ error, outcome = .error (.failed error) ∧
          (begun.after (upTo responses n)).HasStarted 0 settings
            ⟨.of catalog 1 .baseline, false⟩) ∨
        ∃ result, outcome = .ok result ∧
          (begun.after (upTo responses n)).HasStarted 0 settings
            ⟨.of result.catalog 2 .cluster, false⟩)) ∧
    ∀ cause, settings.skipClusterUpdate = false → created.chosenExecutor = .error cause →
      begun.tasks[0]? = some ⟨.ended (.failed (.executor cause)), false⟩ ∧
        begun.stores = [⟨.of catalog 1 .baseline, false⟩] ∧ begun.isRefreshing = false := by
  intro created begun
  obtain ⟨s, moment, published, unpublished, unremembered, length, rfl, sameChoice⟩ :=
    exists_publish settings tree baseline executor loads now later
  have inside : 0 < s.tasks.length := length ▸ Nat.zero_lt_one
  refine ⟨?_, ?_, ?_⟩
  · intro skip
    rw [show begun = _ from published]
    exact publish_of_skip unpublished unremembered inside skip moment catalog
  · intro chosen brings choice
    obtain ⟨ready, next, alike, stores, keeps⟩ :=
      publish_of_not_skip unpublished brings moment 0 catalog
    obtain ⟨begins, -⟩ := beginCycle_first stores rfl moment 0 .initial (firstLimit s.settings)
    obtain ⟨onward, place, proceeds, alikeOnward, held⟩ :=
      begins chosen (keeps.trans (sameChoice.trans choice))
    have both := alike.trans alikeOnward
    have settings : onward.settings = s.settings := congrArg Setup.settings both.setup
    rw [show begun = _ from published.trans (next.trans proceeds), ← settings]
    exact exists_hasStarted_proceed (both.length ▸ inside) (both.refresher.trans unremembered) rfl
      rfl held moment catalog _ responds
  · intro cause brings refusal
    obtain ⟨ready, next, alike, stores, keeps⟩ :=
      publish_of_not_skip unpublished brings moment 0 catalog
    obtain ⟨-, refuses⟩ := beginCycle_first stores rfl moment 0 .initial (firstLimit s.settings)
    obtain ⟨refused, closing, alikeRefused, kept⟩ :=
      refuses cause (keeps.trans (sameChoice.trans refusal))
    have both := alike.trans alikeRefused
    rw [show begun = _ from published.trans (next.trans closing)]
    refine ⟨List.getElem?_set_self (both.length ▸ inside), kept, ?_⟩
    change refused.refresher.any _ = false
    rw [both.refresher, unremembered]
    rfl

/-- A service that refreshes every minute starts when its cluster lists no parameters,
however often it says so. -/
theorem first_start_returns_minutely :
    let responses := fun _ : ℕ => ((1 : Moment), Event.answered 0 (.ok [91, 93]) [])
    (∀ n, (responses n).2.Responds 0) ∧ ∃ n,
      let started := (minutely.after [(0, .start)]).after (upTo responses n)
      started.tasks[0]? = some ⟨.ended .started, false⟩ ∧ started.isRefreshing = true := by
  intro responses
  have responds : ∀ n, (responses n).2.Responds 0 := fun _ => .answered _ _ nofun
  obtain ⟨-, returns, -⟩ := first_start_returns minutely.settings .empty (.catalog .empty)
    (some (.script .empty)) .empty rfl 0 0 responses responds
  have brings : minutely.settings.skipClusterUpdate = false := rfl
  have periodic : minutely.settings.refreshesPeriodically = true := by decide +kernel
  obtain ⟨n, outcome, -, ends⟩ := returns (.script .empty) brings rfl
  refine ⟨responds, n, ?_⟩
  rcases ends with ⟨error, -, started⟩ | ⟨result, -, started⟩
  · exact ⟨started.returned, started.refreshes.trans periodic⟩
  · exact ⟨started.returned, started.refreshes.trans periodic⟩

/-- How a task failed, in words. -/
def failure? (s : Service) (id : TaskId) : Option Text :=
  match s.tasks[id]? with
  | some ⟨.ended (.failed error), _⟩ => some error.message
  | _ => none

/-- A service whose scripted answers are missing is published by its first start, but the
start fails and leaves it without the refresh loop that it was asked for. -/
theorem first_start_without_executor :
    let settings : Settings := { Settings.standard with
      executor := "mock", mockDataDir := some "none", refreshInterval := Settings.seconds 10 }
    let started := (create settings .empty (.catalog .empty) none).after [(0, .start)]
    started.failure? 0 = some ("Mock data directory none does not exist" : Text) ∧
      started.store?.map (·.version) = some 1 ∧
      settings.refreshesPeriodically = true ∧ started.isRefreshing = false := by
  decide +kernel

end Service
end Tunables
