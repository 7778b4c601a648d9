import Tunables.Proofs.Deadline
import Tunables.Proofs.Ending
import Tunables.Proofs.Sources

/-!
# What makes a cycle time out

A cycle reports a timeout in two cases: its own deadline has passed while it waited, or
a command of its own was answered with a timeout.  The two reports cannot be told apart.
-/

namespace Tunables

namespace Talk

variable {α β ε : Type}

/-- A command answered with a fault that ends the work ends it. -/
theorem value_runWith_of_givesUp {talk : Talk α} {fault : Fault} {value : α} {b : Behaviour}
    {now : Moment} {cutoffs : Cutoffs} {command : Command} (givesUp : talk.GivesUp fault value)
    (called : command ∈ (talk.runWith b now cutoffs).calls)
    (answered : b.answer command = .error fault) :
    (talk.runWith b now cutoffs).value = value := by
  induction talk generalizing now cutoffs with
  | done other => cases called
  | say entry next ih => exact ih givesUp called
  | ask asked resume ih =>
      -- Either this very command is the one that was answered with the fault, or a later one.
      have last (same : command = asked) (later : Moment) :
          ((resume (b.answer asked)).runWith b later cutoffs).value = value := by
        rw [← same, answered]
        exact (runWith_of_endsWith_nil givesUp.1 b later cutoffs).1
      rw [runWith] at called ⊢
      split at called
      · rcases List.mem_cons.mp called with same | further
        · exact last same now
        · exact ih _ (givesUp.2 _) further
      · next delay _ =>
          dsimp only at called ⊢
          split at called
          · exact ih _ (givesUp.2 _) called
          · rcases List.mem_cons.mp called with same | further
            · exact last same _
            · exact ih _ (givesUp.2 _) further

/-! ## What is logged -/

/-- All entries that work can log are of some kind. -/
def SaysOnly (allowed : LogEntry → Prop) : Talk α → Prop
  | .done _ => True
  | .say entry next => allowed entry ∧ next.SaysOnly allowed
  | .ask _ resume => ∀ answer, (resume answer).SaysOnly allowed

variable {allowed : LogEntry → Prop}

theorem saysOnly_done (value : α) : (Talk.done value).SaysOnly allowed :=
  trivial

theorem SaysOnly.bind {talk : Talk α} {next : α → Talk β} (first : talk.SaysOnly allowed)
    (second : ∀ value, (next value).SaysOnly allowed) : (talk.bind next).SaysOnly allowed := by
  induction talk with
  | done value => exact second value
  | say entry rest ih => exact ⟨first.1, ih first.2⟩
  | ask command resume ih => exact fun answer => ih answer (first answer)

theorem SaysOnly.andThen {talk : Talk (Except ε α)} {next : α → Talk (Except ε β)}
    (first : talk.SaysOnly allowed) (second : ∀ value, (next value).SaysOnly allowed) :
    (talk.andThen next).SaysOnly allowed := by
  refine first.bind ?_
  intro outcome
  cases outcome with
  | error failure => exact saysOnly_done _
  | ok value => exact second value

theorem SaysOnly.map {talk : Talk α} (first : talk.SaysOnly allowed) (change : α → β) :
    (talk.map change).SaysOnly allowed :=
  first.bind fun _ => saysOnly_done _

theorem saysOnly_sayAll {entries : List LogEntry} {next : Talk α}
    (first : ∀ entry ∈ entries, allowed entry) (second : next.SaysOnly allowed) :
    (sayAll entries next).SaysOnly allowed := by
  induction entries with
  | nil => exact second
  | cons entry rest ih =>
      obtain ⟨here, later⟩ := List.forall_mem_cons.mp first
      exact ⟨here, ih later⟩

theorem SaysOnly.entries_runWith {talk : Talk α} (only : talk.SaysOnly allowed) (b : Behaviour)
    (now : Moment) (cutoffs : Cutoffs) :
    ∀ entry ∈ (talk.runWith b now cutoffs).entries, allowed entry := by
  induction talk generalizing now cutoffs with
  | done value => exact nofun
  | say entry next ih => exact List.forall_mem_cons.mpr ⟨only.1, ih only.2 now cutoffs⟩
  | ask command resume ih =>
      rw [runWith]
      split
      · exact ih _ (only _) now cutoffs
      · dsimp only
        split
        · exact ih _ (only _) _ _
        · exact ih _ (only _) _ _

/-- A run that goes on is the run of its first part and then one of its second. -/
theorem exists_runWith_bind (b : Behaviour) (now : Moment) (cutoffs : Cutoffs) (talk : Talk α)
    (next : α → Talk β) :
    ∃ later left,
      ((talk.bind next).runWith b now cutoffs).value =
          ((next (talk.runWith b now cutoffs).value).runWith b later left).value ∧
        ((talk.bind next).runWith b now cutoffs).entries =
          (talk.runWith b now cutoffs).entries ++
            ((next (talk.runWith b now cutoffs).value).runWith b later left).entries := by
  induction talk generalizing now cutoffs with
  | done value => exact ⟨now, cutoffs, rfl, rfl⟩
  | say entry rest ih =>
      obtain ⟨later, left, value, entries⟩ := ih now cutoffs
      exact ⟨later, left, value, congrArg _ entries⟩
  | ask command resume ih =>
      rw [ask_bind, runWith, runWith]
      split
      · exact ih _ now cutoffs
      · dsimp only
        split
        · exact ih _ _ _
        · exact ih _ _ _

/-- An entry that the first part of some work never logs tells of the outcome what it tells
after the second part. -/
theorem mem_entries_runWith_bind_iff (tells : β → Prop) {talk : Talk α} {next : α → Talk β}
    {entry : LogEntry} {b : Behaviour} {now : Moment} {cutoffs : Cutoffs}
    (first : talk.SaysOnly (· ≠ entry))
    (second : ∀ value later left, entry ∈ ((next value).runWith b later left).entries ↔
      tells ((next value).runWith b later left).value) :
    entry ∈ ((talk.bind next).runWith b now cutoffs).entries ↔
      tells ((talk.bind next).runWith b now cutoffs).value := by
  obtain ⟨later, left, value, entries⟩ := exists_runWith_bind b now cutoffs talk next
  have unsaid : entry ∉ (talk.runWith b now cutoffs).entries :=
    fun member => first.entries_runWith b now cutoffs entry member rfl
  rw [value, entries, List.mem_append, or_iff_right unsaid]
  exact second _ later left

theorem runWith_sayAll_done (entries : List LogEntry) (value : α) (b : Behaviour) (now : Moment)
    (cutoffs : Cutoffs) :
    ((sayAll entries (.done value)).runWith b now cutoffs).value = value ∧
      ((sayAll entries (.done value)).runWith b now cutoffs).entries = entries := by
  induction entries with
  | nil => exact ⟨rfl, rfl⟩
  | cons entry rest ih => exact ⟨ih.1, congrArg _ ih.2⟩

end Talk

/-- The entry of a cycle that has timed out. -/
def exceededEntry (limit : Timeout) : LogEntry :=
  .error ("Reconciliation exceeded " ++ limit.text ++ "s and was aborted")

theorem ne_exceededEntry {entry : LogEntry} {limit : Timeout} (first : Char)
    (starts : entry.text.toList.head? = some (.char first)) (different : first ≠ 'R') :
    entry ≠ exceededEntry limit := by
  rintro rfl
  apply different
  simpa [exceededEntry, LogEntry.error] using starts.symm

variable {limit : Timeout}

theorem saysOnly_fetchNames (allowed : LogEntry → Prop) : fetchNames.SaysOnly allowed := by
  intro answer
  cases answer with
  | error fault => trivial
  | ok bytes => trivial

theorem saysOnly_keepReply (name : Text) (reply : Except Failure Parameter) :
    (keepReply name reply).SaysOnly (· ≠ exceededEntry limit) := by
  cases reply with
  | error failure => trivial
  | ok p =>
      change (keepName name p).SaysOnly _
      unfold keepName
      split
      · trivial
      · exact ⟨nofun, trivial⟩

theorem saysOnly_fetchDetail (name : Text) :
    (fetchDetail name).SaysOnly (· ≠ exceededEntry limit) := by
  rw [fetchDetail_eq]
  exact fun answer => saysOnly_keepReply name _

theorem saysOnly_mergeNew (name : Text) :
    (mergeNew fetchDetail name).SaysOnly (· ≠ exceededEntry limit) := by
  refine (saysOnly_fetchDetail name).bind ?_
  intro outcome
  cases outcome with
  | ok p => trivial
  | error failure =>
      dsimp only
      split
      · exact ⟨ne_exceededEntry 'F' (by simp [LogEntry.error]) (by decide), trivial⟩
      · trivial

theorem saysOnly_mergeSorted (base : List Parameter) (names : List Text) :
    (mergeSorted fetchDetail base names).SaysOnly (· ≠ exceededEntry limit) := by
  apply mergeSorted_of_parts
  · exact fun _ => trivial
  · exact fun _ change merged => merged.map _
  · exact fun name _ later => (saysOnly_mergeNew name).andThen later

/-- A failure is reported with that entry exactly when it is a timeout. -/
theorem Failure.exceededEntry_mem_stop_iff (failure : Failure) :
    exceededEntry limit ∈ (failure.stop limit).2 ↔
      ∃ detail, (failure.stop limit).1 = .failed (.timedOut limit detail) := by
  unfold stop
  split
  · simp [exceededEntry]
  · simp
  · simp
  · refine iff_of_false ?_ (by simp)
    intro member
    have letter := congrArg (·.text.toList[15]?) (List.mem_singleton.mp member)
    simp [exceededEntry, LogEntry.error] at letter

theorem Failure.stop_eq_timedOut_iff {failure : Failure} {other : Timeout} {detail : Text} :
    (failure.stop limit).1 = .failed (.timedOut other detail) ↔
      failure = .fault (.timedOut detail) ∧ limit = other := by
  unfold stop
  split <;> simp_all [and_comm]

namespace Cycle

variable {previous : Catalog} {b : Behaviour}

theorem saysOnly_gather (previous : Catalog) :
    (gather previous).SaysOnly (· ≠ exceededEntry limit) := by
  refine (saysOnly_fetchNames _).bind ?_
  intro listed
  cases listed with
  | ok names => exact (saysOnly_mergeSorted _ _).map _
  | error failure =>
      dsimp only
      split
      · exact ⟨ne_exceededEntry 'F' (by simp [LogEntry.error]) (by decide), trivial⟩
      · trivial

theorem saysOnly_conclude (m : Merge) : (conclude m).SaysOnly (· ≠ exceededEntry limit) := by
  unfold conclude
  split
  · trivial
  · refine Talk.saysOnly_sayAll ?_ (Talk.saysOnly_done _)
    rintro entry closing rfl
    unfold closingEntries exceededEntry at closing
    split at closing <;> simp [LogEntry.error, LogEntry.warning, LogEntry.info] at closing

theorem value_conclude_ne_timedOut (m : Merge) {exchanges : List Exchange} {other : Timeout}
    {detail : Text} :
    ¬ (conclude m).EndsWith exchanges (.error (.failed (.timedOut other detail))) := by
  unfold conclude
  split <;> simp

/-- A cycle that has timed out was answered with a timeout last. -/
theorem exists_last_of_timedOut {exchanges : List Exchange} {other : Timeout} {detail : Text}
    (ends : (talk previous limit).EndsWith exchanges (.error (.failed (.timedOut other detail)))) :
    other = limit ∧ ∃ command, ⟨command, .error (.timedOut detail)⟩ ∈ exchanges := by
  obtain ⟨first, gathered, second, rfl, asked, ended⟩ := Talk.endsWith_bind_iff.mp ends
  rcases gathered with failure | failure | m
  · obtain ⟨-, stopped⟩ := Talk.endsWith_done_iff.mp (Talk.endsWith_sayAll_iff.mp ended)
    have reported := Except.error.inj stopped
    obtain ⟨rfl, rfl⟩ := Failure.stop_eq_timedOut_iff.mp reported.symm
    obtain ⟨before, command, rfl⟩ := failsAtFault_gather previous first _ asked
    exact ⟨rfl, command, by simp⟩
  · cases (Talk.endsWith_done_iff.mp ended).2
  · exact absurd ended (value_conclude_ne_timedOut m)

/-- A cycle with a limit ends as one that has timed out. -/
def ReportsTimeout (limit : Timeout) (outcome : Except CycleStop CycleResult) : Prop :=
  ∃ detail, outcome = .error (.failed (.timedOut limit detail))

/-- The entry is logged exactly by the cycles that report a timeout. -/
theorem exceededEntry_mem_entries_iff (previous : Catalog) (b : Behaviour) (limit : Timeout)
    (cancellation : Option Moment) :
    exceededEntry limit ∈ (runWith previous b limit cancellation).entries ↔
      ReportsTimeout limit (runWith previous b limit cancellation).value := by
  apply Talk.mem_entries_runWith_bind_iff (ReportsTimeout limit) (saysOnly_gather previous)
  intro gathered later left
  rcases gathered with failure | failure | m
  · obtain ⟨value, entries⟩ := Talk.runWith_sayAll_done (failure.stop limit).2
      (.error (failure.stop limit).1 : Except CycleStop CycleResult) b later left
    dsimp only
    rw [giveUp, value, entries, failure.exceededEntry_mem_stop_iff, ReportsTimeout]
    simp only [Except.error.injEq]
  · refine iff_of_false List.not_mem_nil ?_
    rintro ⟨detail, same⟩
    cases same
  · refine iff_of_false ?_ ?_
    · intro member
      exact (saysOnly_conclude m).entries_runWith b later left _ member rfl
    · rintro ⟨detail, same⟩
      obtain ⟨exchanges, ends, -⟩ := Talk.exists_isSourced_runWith b later left (conclude m)
      exact value_conclude_ne_timedOut m (same ▸ ends)

/-- An executor whose connection times out while names are listed. -/
def scriptTimingOut : Script :=
  { Script.empty with faults := [("config_ls", .timedOut "upstream")] }

end Cycle
end Tunables
