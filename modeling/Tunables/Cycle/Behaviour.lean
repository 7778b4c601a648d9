import Tunables.Cycle.Timed

/-!
# Executors of any behaviour

A behaviour says of every command how long an executor waits and what it answers.  A
scripted executor has one, but its table cannot tell a phrase from a parameter with
the same name.
-/

namespace Tunables

/-- How an executor treats each command. -/
structure Behaviour where
  delay? : Command → Option Moment
  answer : Command → Answer

def Script.behaviour (script : Script) : Behaviour :=
  ⟨script.delay?, script.answer⟩

namespace Talk

variable {α : Type}

/-- Runs a talk with an executor of some behaviour from a moment on. -/
def runWith (b : Behaviour) (now : Moment) (cutoffs : Cutoffs) : Talk α → TimedRun α
  | .done value => ⟨value, [], [], now⟩
  | .say entry next =>
      let later := next.runWith b now cutoffs
      { later with entries := entry :: later.entries }
  | .ask command resume =>
      match b.delay? command with
      | none =>
          let later := (resume (b.answer command)).runWith b now cutoffs
          { later with calls := command :: later.calls }
      | some delay =>
          let due := now + max delay 0
          match cutoffs.first? due with
          | some cut =>
              (resume (.error cut.reason.fault)).runWith b (max now cut.moment) cut.rest
          | none =>
              let later := (resume (b.answer command)).runWith b due cutoffs
              { later with calls := command :: later.calls }

/-- A script is run as its behaviour says. -/
theorem run_eq_runWith (script : Script) (now : Moment) (cutoffs : Cutoffs) (talk : Talk α) :
    talk.run script now cutoffs = talk.runWith script.behaviour now cutoffs := by
  induction talk generalizing now cutoffs with
  | done value => rfl
  | say entry next ih => rw [run, runWith, ih]
  | ask command resume ih =>
      simp only [run, runWith, ih]
      rfl

end Talk

namespace Cycle

/-- Runs a cycle that starts at time zero with an executor of some behaviour. -/
def runWith (previous : Catalog) (b : Behaviour) (limit : Timeout)
    (cancellation : Option Moment) : TimedRun (Except CycleStop CycleResult) :=
  (talk previous limit).runWith b 0 ⟨limit.deadline 0, cancellation⟩

theorem run_eq_runWith (previous : Catalog) (script : Script) (limit : Timeout)
    (cancellation : Option Moment) :
    Cycle.run previous script limit cancellation =
      runWith previous script.behaviour limit cancellation :=
  Talk.run_eq_runWith script 0 _ _

end Cycle
end Tunables
