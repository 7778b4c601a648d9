import Mathlib.Algebra.Order.BigOperators.Group.List
import Mathlib.Tactic.Ring
import Tunables.Cycle.Behaviour
import Tunables.Proofs.Convergence
import Tunables.Proofs.CutOff
import Tunables.Proofs.Cutoffs
import Tunables.Proofs.Shortest

/-!
# A cycle with a deadline

The limit of a cycle bounds all of its commands together.  A cycle whose commands take
less time than that comes to its result when the last one is answered; any other ends
at the deadline, with the answers that had come by then.
-/

namespace Tunables

/-! ## Time taken by commands -/

/-- The time that commands take one after another. -/
def elapsed (delay : Command → Moment) (commands : List Command) : Moment :=
  (commands.map delay).sum

/-- An executor takes some time for each of the commands. -/
def Behaviour.Waits (b : Behaviour) (delay : Command → Moment) (commands : List Command) : Prop :=
  ∀ command ∈ commands, b.delay? command = some (delay command) ∧ 0 < delay command

section Elapsed

variable {delay : Command → Moment} {commands : List Command} {b : Behaviour}

@[simp] theorem elapsed_nil : elapsed delay [] = 0 :=
  rfl

@[simp] theorem elapsed_cons (command : Command) :
    elapsed delay (command :: commands) = delay command + elapsed delay commands :=
  List.sum_cons

theorem Behaviour.Waits.elapsed_nonneg (waits : b.Waits delay commands) :
    0 ≤ elapsed delay commands := by
  apply List.sum_nonneg
  intro time taken
  obtain ⟨command, member, rfl⟩ := List.mem_map.mp taken
  exact (waits command member).2.le

theorem Behaviour.Waits.elapsed_take_mono (waits : b.Waits delay commands) {first later : Nat}
    (le : first ≤ later) :
    elapsed delay (commands.take first) ≤ elapsed delay (commands.take later) := by
  apply ((List.take_sublist_take_left le).map delay).sum_le_sum
  intro time taken
  obtain ⟨command, member, rfl⟩ := List.mem_map.mp taken
  exact (waits command (List.mem_of_mem_take member)).2.le

end Elapsed

namespace Cutoffs

variable {deadline : Option Moment} {due t : Moment}

theorem first?_eq_none (later : ∀ t ∈ deadline, due < t) :
    (Cutoffs.mk deadline .none).first? due = .none :=
  first?_eq_none_iff.mpr ⟨later, nofun⟩

theorem first?_eq_deadline (overdue : t ≤ due) :
    (Cutoffs.mk (some t) .none).first? due = some ⟨t, .deadline, .none⟩ := by
  simp [first?, Option.filter, overdue, cutByDeadline, Cutoffs.none]

end Cutoffs

namespace Talk

variable {α : Type} {talk : Talk α} {value : α} {b : Behaviour} {delay : Command → Moment}
  {t : Moment}

theorem runWith_of_endsWith_nil (ends : talk.EndsWith [] value) (b : Behaviour)
    (now : Moment) (cutoffs : Cutoffs) :
    (talk.runWith b now cutoffs).value = value ∧ (talk.runWith b now cutoffs).calls = [] ∧
      (talk.runWith b now cutoffs).finish = now := by
  generalize quiet : ([] : List Exchange) = exchanges at ends
  induction ends with
  | done value => exact ⟨rfl, rfl, rfl⟩
  | say _ ih => exact ih quiet
  | ask _ _ => cases quiet

/-- Work that needs less time than there is comes to what it comes to without a limit. -/
theorem runWith_inTime (talk : Talk α) (now : Moment) {deadline : Option Moment}
    (waits : b.Waits delay (talk.commands b.answer))
    (inTime : ∀ t ∈ deadline, now + elapsed delay (talk.commands b.answer) < t) :
    (talk.runWith b now ⟨deadline, none⟩).value = talk.outcome b.answer ∧
      (talk.runWith b now ⟨deadline, none⟩).calls = talk.commands b.answer ∧
      (talk.runWith b now ⟨deadline, none⟩).finish =
        now + elapsed delay (talk.commands b.answer) := by
  induction talk generalizing now with
  | done value => exact ⟨rfl, rfl, (add_zero now).symm⟩
  | say entry next ih => exact ih now waits inTime
  | ask command resume ih =>
      obtain ⟨⟨waited, positive⟩, laterWaits⟩ := List.forall_mem_cons.mp waits
      have rest : 0 ≤ elapsed delay ((resume (b.answer command)).commands b.answer) :=
        Behaviour.Waits.elapsed_nonneg laterWaits
      simp only [commands, elapsed_cons, ← add_assoc] at inTime ⊢
      have uncut : (Cutoffs.mk deadline .none).first? (now + delay command) = .none := by
        apply Cutoffs.first?_eq_none
        intro t limited
        exact (le_add_of_nonneg_right rest).trans_lt (inTime t limited)
      rw [runWith, waited]
      dsimp only
      rw [max_eq_left positive.le, uncut]
      obtain ⟨sameValue, sameCalls, sameFinish⟩ := ih (b.answer command) _ laterWaits inTime
      exact ⟨sameValue, congrArg _ sameCalls, sameFinish⟩

/-- Work that needs more time is over at the deadline, after those of its commands that
were answered before. -/
theorem runWith_overdue (now : Moment) (givesUp : talk.GivesUp .deadline value)
    (waits : b.Waits delay (talk.commands b.answer)) (ahead : now < t)
    (overdue : t < now + elapsed delay (talk.commands b.answer))
    (apart : ∀ k, now + elapsed delay ((talk.commands b.answer).take k) ≠ t) :
    (talk.runWith b now ⟨some t, none⟩).value = value ∧
      (talk.runWith b now ⟨some t, none⟩).finish = t ∧
      ∃ k, (talk.runWith b now ⟨some t, none⟩).calls = (talk.commands b.answer).take k ∧
        now + elapsed delay ((talk.commands b.answer).take k) < t ∧
        t < now + elapsed delay ((talk.commands b.answer).take (k + 1)) := by
  induction talk generalizing now with
  | done other => exact absurd overdue (by simpa [commands] using ahead.le)
  | say entry next ih => exact ih now givesUp waits ahead overdue apart
  | ask command resume ih =>
      obtain ⟨⟨waited, positive⟩, laterWaits⟩ := List.forall_mem_cons.mp waits
      simp only [commands, elapsed_cons, ← add_assoc] at overdue
      rw [runWith, waited]
      dsimp only
      rw [max_eq_left positive.le]
      by_cases cut : t ≤ now + delay command
      · -- The deadline passes while this very command is waited for.
        have notDue : now + delay command ≠ t := by simpa [commands] using apart 1
        rw [Cutoffs.first?_eq_deadline cut]
        dsimp only
        rw [max_eq_right ahead.le]
        obtain ⟨sameValue, noCalls, sameFinish⟩ :=
          runWith_of_endsWith_nil givesUp.1 b t .none
        refine ⟨sameValue, sameFinish, 0, noCalls, ?_, ?_⟩
        · simpa using ahead
        · simpa [commands] using lt_of_le_of_ne cut notDue.symm
      · have uncut : (Cutoffs.mk (some t) .none).first? (now + delay command) = .none := by
          apply Cutoffs.first?_eq_none
          intro other same
          cases same
          exact not_le.mp cut
        have laterApart : ∀ k, now + delay command +
            elapsed delay (((resume (b.answer command)).commands b.answer).take k) ≠ t := by
          intro k
          simpa [commands, add_assoc] using apart (k + 1)
        rw [uncut]
        obtain ⟨sameValue, sameFinish, k, sameCalls, before, after⟩ :=
          ih (b.answer command) _ (givesUp.2 _) laterWaits (not_le.mp cut) overdue laterApart
        refine ⟨sameValue, sameFinish, k + 1, congrArg _ sameCalls, ?_, ?_⟩
        · simpa [commands, add_assoc] using before
        · simpa [commands, add_assoc] using after

end Talk

namespace Cycle

variable {previous : Catalog} {limit : Timeout} {respond : Command → Answer}
  {listing : Text.Bytes} {names : List Text}

/-- The commands of a cycle over listed names when no answer ends it. -/
def plan (previous : Catalog) (names : List Text) : List Command :=
  .listing :: (newNames previous names).map .help

theorem commands_talk_eq_plan (lists : respond .listing = .ok listing)
    (listed : namesOfReply listing = .ok names)
    (settled : ∀ name ∈ newNames previous names,
      IsSettled (parameterOfAnswer name (respond (.help name)))) :
    (talk previous limit).commands respond = plan previous names := by
  have comes : (talk previous limit).outcome respond = .ok (resultOf previous names _) :=
    (outcome_talk_eq_ok_iff lists listed).mpr ⟨settled, rfl⟩
  obtain ⟨_, _, listsAgain, listedAgain, commands, -⟩ := exists_listing_of_outcome comes
  rw [lists] at listsAgain
  cases listsAgain
  rw [listed] at listedAgain
  cases listedAgain
  exact commands

/-- Whole seconds as a distance in time. -/
def seconds (count : Int) : Moment :=
  count * Binary64.unitsPerOne

theorem seconds_lt_seconds {fewer more : Int} (less : fewer < more) :
    seconds fewer < seconds more :=
  mul_lt_mul_of_pos_right less (Int.natCast_pos.mpr Binary64.unitsPerOne_pos)

theorem seconds_inj {one other : Int} (equal : seconds one = seconds other) : one = other :=
  Int.eq_of_mul_eq_mul_right (Int.natCast_ne_zero.mpr Binary64.unitsPerOne_pos.ne') equal

theorem seconds_pos {count : Int} (positive : 0 < count) : 0 < seconds count :=
  mul_pos positive (Int.natCast_pos.mpr Binary64.unitsPerOne_pos)

theorem deadline_whole (count : Int) :
    Timeout.deadline (some (.whole count)) 0 = some (seconds count) :=
  congrArg some (zero_add _)

/-- An executor that takes two seconds for every answer. -/
def steadyBehaviour : Behaviour :=
  ⟨fun _ => some (seconds 2), (scriptOfTwo [123, 125]).answer⟩

theorem elapsed_steady (commands : List Command) :
    elapsed (fun _ => seconds 2) commands = seconds (2 * commands.length) := by
  rw [elapsed, List.map_const', List.sum_replicate, nsmul_eq_mul, seconds, seconds]
  ring

theorem length_plan_two : (plan .empty ["a", "b"]).length = 3 := by
  rw [plan, newNames_two]
  rfl

end Cycle
end Tunables
