import Tunables.Cycle.Behaviour
import Tunables.Proofs.Cutoffs
import Tunables.Proofs.Talk

/-!
# Where answers come from

In a run in time each answer is the executor's own, or it stands for a deadline or a
cancellation that has come by the end of the run.
-/

namespace Tunables

/-- Where an exchange of a run in time comes from: the executor has answered, or the run
was cut off by then. -/
inductive IsSourced (b : Behaviour) (cutoffs : Cutoffs) (calls : List Command)
    (finish : Moment) : Exchange → Prop where
  | answered {command : Command} :
      command ∈ calls → IsSourced b cutoffs calls finish ⟨command, b.answer command⟩
  | overdue {command : Command} {t : Moment} : cutoffs.deadline = some t → t ≤ finish →
      IsSourced b cutoffs calls finish ⟨command, .error .deadline⟩
  | cancelled {command : Command} {t : Moment} : cutoffs.cancellation = some t → t ≤ finish →
      IsSourced b cutoffs calls finish ⟨command, .error .cancellation⟩

/-- What a cut leaves of the cutoffs, and where it comes from. -/
inductive Cutoffs.Leaves (cutoffs : Cutoffs) : Cut → Prop where
  | deadline {t : Moment} : cutoffs.deadline = some t → Leaves cutoffs (cutoffs.cutByDeadline t)
  | cancellation {t : Moment} : cutoffs.cancellation = some t →
      Leaves cutoffs (cutoffs.cutByCancellation t)

theorem Cutoffs.leaves_of_first? {cutoffs : Cutoffs} {due : Moment} {cut : Cut}
    (first : cutoffs.first? due = some cut) : cutoffs.Leaves cut := by
  obtain ⟨-, ⟨same, limited, -⟩ | ⟨same, given, -⟩⟩ := cases_of_first? first
  · rw [same]
    exact .deadline limited
  · rw [same]
    exact .cancellation given

namespace IsSourced

variable {b : Behaviour} {cutoffs : Cutoffs} {calls : List Command} {finish : Moment}
  {exchange : Exchange}

theorem cons (sourced : IsSourced b cutoffs calls finish exchange) (command : Command) :
    IsSourced b cutoffs (command :: calls) finish exchange := by
  cases sourced with
  | answered called => exact .answered (List.mem_cons_of_mem command called)
  | overdue limited passed => exact .overdue limited passed
  | cancelled given passed => exact .cancelled given passed

theorem of_cut {cut : Cut} (leaves : cutoffs.Leaves cut)
    (sourced : IsSourced b cut.rest calls finish exchange) :
    IsSourced b cutoffs calls finish exchange := by
  cases leaves with
  | deadline _ =>
      cases sourced with
      | answered called => exact .answered called
      | overdue limited _ => cases limited
      | cancelled given passed => exact .cancelled given passed
  | cancellation _ =>
      cases sourced with
      | answered called => exact .answered called
      | overdue limited passed => exact .overdue limited passed
      | cancelled given _ => cases given

theorem cutOff {cut : Cut} (leaves : cutoffs.Leaves cut) (passed : cut.moment ≤ finish)
    (command : Command) : IsSourced b cutoffs calls finish ⟨command, .error cut.reason.fault⟩ := by
  cases leaves with
  | deadline limited => exact .overdue limited passed
  | cancellation given => exact .cancelled given passed

/-- A timeout as an answer is the executor's own, or the deadline has passed. -/
theorem deadline_or_answer {detail : Text}
    (sourced : IsSourced b cutoffs calls finish exchange)
    (timedOut : exchange.answer = .error (.timedOut detail)) :
    (∃ t, cutoffs.deadline = some t ∧ t ≤ finish) ∨
      ∃ command ∈ calls, b.answer command = .error (.timedOut detail) := by
  cases sourced with
  | answered called => exact .inr ⟨_, called, timedOut⟩
  | overdue limited passed => exact .inl ⟨_, limited, passed⟩
  | cancelled _ _ => cases timedOut

end IsSourced

namespace Talk

variable {α : Type}

theorem le_finish_runWith (b : Behaviour) (now : Moment) (cutoffs : Cutoffs) (talk : Talk α) :
    now ≤ (talk.runWith b now cutoffs).finish := by
  induction talk generalizing now cutoffs with
  | done value => exact le_refl now
  | say entry next ih => exact ih now cutoffs
  | ask command resume ih =>
      rw [runWith]
      split
      · exact ih _ now cutoffs
      · next delay _ =>
          dsimp only
          split
          · exact (le_max_left _ _).trans (ih _ _ _)
          · exact (le_add_of_nonneg_right (le_max_right delay 0)).trans (ih _ _ _)

/-- A run in time is one of the ways in which a talk can end, over sourced exchanges. -/
theorem exists_isSourced_runWith (b : Behaviour) (now : Moment) (cutoffs : Cutoffs)
    (talk : Talk α) :
    ∃ exchanges, talk.EndsWith exchanges (talk.runWith b now cutoffs).value ∧
      ∀ exchange ∈ exchanges, IsSourced b cutoffs (talk.runWith b now cutoffs).calls
        (talk.runWith b now cutoffs).finish exchange := by
  induction talk generalizing now cutoffs with
  | done value => exact ⟨[], .done value, nofun⟩
  | say entry next ih =>
      obtain ⟨exchanges, ends, sourced⟩ := ih now cutoffs
      exact ⟨exchanges, .say ends, sourced⟩
  | ask command resume ih =>
      rw [runWith]
      split
      · obtain ⟨exchanges, ends, sourced⟩ := ih (b.answer command) now cutoffs
        refine ⟨_, .ask ends, List.forall_mem_cons.mpr ⟨.answered List.mem_cons_self, ?_⟩⟩
        exact fun exchange member => (sourced exchange member).cons command
      · next delay _ =>
          dsimp only
          split
          · next cut first =>
              have leaves := Cutoffs.leaves_of_first? first
              obtain ⟨exchanges, ends, sourced⟩ :=
                ih (.error cut.reason.fault) (max now cut.moment) cut.rest
              have passed := (le_max_right now cut.moment).trans
                ((resume (.error cut.reason.fault)).le_finish_runWith b _ cut.rest)
              refine ⟨_, .ask ends, List.forall_mem_cons.mpr ⟨.cutOff leaves passed command, ?_⟩⟩
              exact fun exchange member => (sourced exchange member).of_cut leaves
          · obtain ⟨exchanges, ends, sourced⟩ :=
              ih (b.answer command) (now + max delay 0) cutoffs
            refine ⟨_, .ask ends, List.forall_mem_cons.mpr ⟨.answered List.mem_cons_self, ?_⟩⟩
            exact fun exchange member => (sourced exchange member).cons command

end Talk
end Tunables
