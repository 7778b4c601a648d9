import Mathlib.Algebra.Order.Ring.Int
import Tunables.Cycle.Timed

/-!
# The first cut of a wait

A wait is cut by the earlier of its deadline and its cancellation, provided that this one
comes before the wait is over.
-/

namespace Tunables

namespace Cutoffs

variable {cutoffs : Cutoffs} {due : Moment} {cut : Cut}

theorem filter_eq_none_iff {moment : Option Moment} :
    moment.filter (· ≤ due) = .none ↔ ∀ t ∈ moment, due < t := by
  simp [Option.filter_eq_none_iff]

theorem filter_eq_some_iff {moment : Option Moment} {t : Moment} :
    moment.filter (· ≤ due) = some t ↔ moment = some t ∧ t ≤ due := by
  simp [Option.filter_eq_some_iff]

/-- A wait is over before any cut exactly if all cuts come later. -/
theorem first?_eq_none_iff :
    cutoffs.first? due = .none ↔
      (∀ t ∈ cutoffs.deadline, due < t) ∧ ∀ t ∈ cutoffs.cancellation, due < t := by
  rw [← filter_eq_none_iff, ← filter_eq_none_iff, first?]
  split
  · split <;> simp [*]
  · simp [*]
  · simp [*]
  · simp [*]

/-- The first cut of a wait comes before the other one and before the wait is over. -/
theorem cases_of_first? (first : cutoffs.first? due = some cut) :
    cut.moment ≤ due ∧
      ((cut = cutoffs.cutByDeadline cut.moment ∧ cutoffs.deadline = some cut.moment ∧
          ∀ t ∈ cutoffs.cancellation, cut.moment ≤ t) ∨
        (cut = cutoffs.cutByCancellation cut.moment ∧ cutoffs.cancellation = some cut.moment ∧
          ∀ t ∈ cutoffs.deadline, cut.moment < t)) := by
  unfold first? at first
  split at first
  · next deadline cancellation ahead before =>
      obtain ⟨limited, inTime⟩ := filter_eq_some_iff.mp ahead
      obtain ⟨given, passed⟩ := filter_eq_some_iff.mp before
      split at first
      · next earlier =>
          cases first
          refine ⟨inTime, .inl ⟨rfl, limited, ?_⟩⟩
          intro t same
          obtain rfl := Option.some.inj (given.symm.trans same)
          exact earlier
      · next later =>
          cases first
          refine ⟨passed, .inr ⟨rfl, given, ?_⟩⟩
          intro t same
          obtain rfl := Option.some.inj (limited.symm.trans same)
          exact not_le.mp later
  · next deadline ahead none =>
      cases first
      obtain ⟨limited, inTime⟩ := filter_eq_some_iff.mp ahead
      exact ⟨inTime, .inl ⟨rfl, limited, fun t given =>
        inTime.trans (filter_eq_none_iff.mp none t given).le⟩⟩
  · next cancellation none before =>
      cases first
      obtain ⟨given, passed⟩ := filter_eq_some_iff.mp before
      exact ⟨passed, .inr ⟨rfl, given, fun t limited =>
        passed.trans_lt (filter_eq_none_iff.mp none t limited)⟩⟩
  · cases first

end Cutoffs

end Tunables
