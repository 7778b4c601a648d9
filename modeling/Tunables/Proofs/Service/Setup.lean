import Tunables.Proofs.Service.Moves

/-!
# The setup of a service

Settings, files and the origin of the first catalog are given when a service is
made, and nothing that happens changes them.
-/

namespace Tunables

/-- What a service is made with and keeps. -/
structure Setup where
  settings : Settings
  tree : FileTree
  baseline : BaselineOrigin

namespace Service

def setup (s : Service) : Setup :=
  ⟨s.settings, s.tree, s.baseline⟩

variable (s : Service) (now : Moment) (id : TaskId)

@[simp] theorem setup_sayAll (cycle : Option Nat) (entries : List LogEntry) :
    (s.sayAll cycle entries).setup = s.setup := by
  rw [sayAll_eq]
  rfl

@[simp] theorem setup_replaceExecutor (executor : Executor) :
    (s.replaceExecutor executor).setup = s.setup :=
  rfl

@[simp] theorem setup_ensureExecutor (cycle : Option Nat) :
    (s.ensureExecutor cycle).2.setup = s.setup := by
  unfold ensureExecutor
  cases s.executors.getLast? with
  | some used => rfl
  | none =>
      dsimp only
      split
      · rw [setup_replaceExecutor, setup_sayAll]
      · rw [setup_sayAll]

@[simp] theorem setup_completeStart : (s.completeStart now id).setup = s.setup := by
  unfold completeStart ensureRefresher
  split
  · rfl
  · rfl

@[simp] theorem setup_afterCycle (purpose : CyclePurpose)
    (result : Except ServiceError CallOutcome) :
    (s.afterCycle now id purpose result).setup = s.setup := by
  unfold afterCycle
  split
  · rfl
  · rfl
  · exact setup_completeStart s now id
  · exact setup_completeStart _ now id
  · rfl
  · rfl
  · rfl
  · rfl
  · rfl

@[simp] theorem setup_commitResult (frame : CycleFrame) (result : CycleResult) :
    (s.commitResult frame result).setup = s.setup := by
  unfold commitResult
  split
  · rfl
  · rfl

@[simp] theorem setup_proceed (frame : CycleFrame) (talk : Talk (Except CycleStop CycleResult)) :
    (s.proceed now id frame talk).setup = s.setup := by
  induction talk generalizing s with
  | say entry next ih => exact ih (s.say (some frame.number) entry)
  | ask command resume _ => exact setup_sayAll s _ _
  | done outcome =>
      cases outcome with
      | error stop => exact setup_afterCycle (s.releaseGuard frame.store) now id _ _
      | ok result =>
          rw [proceed, setup_afterCycle]
          exact setup_commitResult s frame result

@[simp] theorem setup_beginCycle (purpose : CyclePurpose) (limit : Timeout) (store : Store) :
    (s.beginCycle now id purpose limit store).setup = s.setup := by
  unfold beginCycle
  dsimp only
  generalize started : ({ s with cycles := s.cycles + 1 }.takeGuard (s.stores.length - 1)).say
    (some (s.cycles + 1)) (.info "Reconciliation cycle started") = begun
  have same : begun.setup = s.setup := by
    rw [← started]
    rfl
  have ready := (begun.setup_ensureExecutor (some (s.cycles + 1))).trans same
  generalize begun.ensureExecutor (some (s.cycles + 1)) = made at ready ⊢
  obtain ⟨outcome, next⟩ := made
  cases outcome with
  | error cause => exact (setup_afterCycle _ now id _ _).trans ready
  | ok executor => exact (setup_proceed next now id _ _).trans ready

@[simp] theorem setup_reconcile (purpose : CyclePurpose) (timeout : Timeout) :
    (s.reconcile now id purpose timeout).setup = s.setup := by
  unfold reconcile
  cases s.store? with
  | none => exact setup_afterCycle s now id purpose _
  | some store =>
      dsimp only
      split
      · exact setup_afterCycle _ now id purpose _
      · exact setup_beginCycle s now id purpose _ store

@[simp] theorem setup_publish (catalog : Catalog) :
    (s.publish now id catalog).setup = s.setup := by
  unfold publish
  dsimp only
  split
  · exact setup_completeStart _ now id
  · exact setup_reconcile _ now id .initial none

@[simp] theorem setup_publishLoaded (loaded : Logged (Except LoadFailure Catalog)) :
    (s.publishLoaded now id loaded).setup = s.setup := by
  unfold publishLoaded
  have told := s.setup_sayAll none loaded.entries
  dsimp only
  cases loaded.value with
  | ok catalog => exact (setup_publish _ now id catalog).trans told
  | error cause => exact told

@[simp] theorem setup_start : (s.start now id).setup = s.setup := by
  unfold start
  cases s.store? with
  | some store => exact setup_completeStart _ now id
  | none =>
      dsimp only
      cases s.baseline with
      | catalog catalog => exact setup_publish s now id catalog
      | document document => exact setup_publishLoaded s now id _
      | file file => rfl

@[simp] theorem setup_stop : (s.stop id).setup = s.setup := by
  unfold stop
  split
  · rfl
  · split
    · rfl
    · rfl

@[simp] theorem setup_readBaseline : (s.readBaseline now id).setup = s.setup := by
  unfold readBaseline
  split
  · exact setup_publishLoaded s now id _
  · rfl

theorem setup_deliverCancellation (state : TaskState) :
    (s.deliverCancellation now id state).setup = s.setup := by
  cases state with
  | inCycle frame command asked resume => exact setup_proceed s now id frame _
  | _ => rfl

theorem setup_resumeTask {resume : TaskState → Option Service}
    (same : ∀ state next, resume state = some next → next.setup = s.setup) :
    (s.resumeTask now id resume).setup = s.setup := by
  unfold resumeTask
  cases s.tasks[id]? with
  | none => rfl
  | some task =>
      dsimp only
      split
      · exact setup_deliverCancellation s now id task.state
      · cases next : resume task.state with
        | none => rfl
        | some t => exact same task.state t next

/-- No event changes the setup. -/
@[simp] theorem setup_step (event : Event) : (s.step now event).setup = s.setup := by
  cases event with
  | start => exact setup_start s.addCall now _
  | stop => exact setup_stop s.addCall _
  | reconcile timeout => exact setup_reconcile s.addCall now _ _ _
  | subscribe | unsubscribe | drain | cancel | replaceExecutor => rfl
  | fileRead id =>
      refine setup_resumeTask s now id fun state next resumed => ?_
      cases state with
      | readingBaseline =>
          cases resumed
          exact setup_readBaseline s now id
      | _ => cases resumed
  | answered id answer entries =>
      refine setup_resumeTask s now id fun state next resumed => ?_
      cases state with
      | inCycle frame command asked resume =>
          cases resumed
          rw [setup_proceed, setup_sayAll]
          rfl
      | _ => cases resumed
  | expired id =>
      refine setup_resumeTask s now id fun state next resumed => ?_
      cases state with
      | inCycle frame command asked resume =>
          cases resumed
          exact setup_proceed s now id frame _
      | _ => cases resumed
  | woken id =>
      refine setup_resumeTask s now id fun state next resumed => ?_
      cases state with
      | resting since =>
          cases resumed
          exact setup_reconcile s now id .refresh none
      | _ => cases resumed
  | joined id =>
      refine setup_resumeTask s now id fun state next resumed => ?_
      cases state with
      | joining loop =>
          dsimp only at resumed
          split at resumed
          · cases resumed
          · cases resumed
            rfl
      | _ => cases resumed
  | cancelled id => exact setup_resumeTask s now id fun _ _ resumed => nomatch resumed

end Service
end Tunables
