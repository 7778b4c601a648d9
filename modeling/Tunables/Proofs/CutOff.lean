import Tunables.Proofs.Merge
import Tunables.Cycle

/-!
# A cycle that is cut off

Wherever a cycle waits for an answer, an interruption or a timeout that comes instead
ends it there and then.  So does every fault that does not concern a single command.
-/

namespace Tunables

namespace Talk

variable {α β ε : Type}

/-- At every answer that the work can wait for, a fault ends it at once with the value
given. -/
def GivesUp (fault : Fault) (value : α) : Talk α → Prop
  | .done _ => True
  | .say _ next => next.GivesUp fault value
  | .ask _ resume =>
      (resume (.error fault)).EndsWith [] value ∧
        ∀ answer, (resume answer).GivesUp fault value

variable {fault : Fault}

theorem givesUp_done (value result : α) : (Talk.done result).GivesUp fault value :=
  trivial

theorem GivesUp.bind {talk : Talk α} {next : α → Talk β} {value : α} {result : β}
    (first : talk.GivesUp fault value) (second : ∀ middle, (next middle).GivesUp fault result)
    (last : (next value).EndsWith [] result) : (talk.bind next).GivesUp fault result := by
  induction talk with
  | done middle => exact second middle
  | say entry rest ih => exact ih first
  | ask command resume ih =>
      refine ⟨?_, fun answer => ih answer (first.2 answer)⟩
      exact endsWith_bind_iff.mpr ⟨[], value, [], rfl, first.1, last⟩

theorem GivesUp.andThen {talk : Talk (Except ε α)} {next : α → Talk (Except ε β)} {failure : ε}
    (first : talk.GivesUp fault (.error failure))
    (second : ∀ middle, (next middle).GivesUp fault (.error failure)) :
    (talk.andThen next).GivesUp fault (.error failure) := by
  refine first.bind ?_ (.done _)
  intro outcome
  cases outcome with
  | error other => exact givesUp_done _ _
  | ok middle => exact second middle

theorem GivesUp.mapOk {talk : Talk (Except ε α)} {change : α → β} {failure : ε}
    (first : talk.GivesUp fault (.error failure)) :
    (talk.map (Except.map change)).GivesUp fault (.error failure) :=
  first.bind (fun _ => givesUp_done _ _) (.done _)

theorem givesUp_sayAll {entries : List LogEntry} {next : Talk α} {value : α}
    (later : next.GivesUp fault value) : (sayAll entries next).GivesUp fault value := by
  induction entries with
  | nil => exact later
  | cons entry rest ih => exact ih

/-- The fault ends work wherever it has got to. -/
theorem GivesUp.endsWith_of_reaches {talk : Talk α} {value : α} {exchanges : List Exchange}
    {command : Command} {resume : Answer → Talk α} (givesUp : talk.GivesUp fault value)
    (reaches : talk.Reaches exchanges (.ask command resume)) :
    (resume (.error fault)).EndsWith [] value := by
  generalize last : Talk.ask command resume = rest at reaches
  induction reaches with
  | start talk =>
      subst last
      exact givesUp.1
  | say _ ih => exact ih givesUp last
  | ask _ ih => exact ih (givesUp.2 _) last

/-- Any command of a run that ends may be the one that gets the fault. -/
theorem GivesUp.endsWith_cut {talk : Talk α} {value other : α} {before later : List Exchange}
    {exchange : Exchange} (givesUp : talk.GivesUp fault value)
    (ends : talk.EndsWith (before ++ exchange :: later) other) :
    talk.EndsWith (before ++ [⟨exchange.command, .error fault⟩]) value := by
  generalize whole : before ++ exchange :: later = exchanges at ends
  induction ends generalizing before with
  | done _ => simp at whole
  | say _ ih => exact .say (ih givesUp whole)
  | ask _ ih =>
      cases before with
      | nil =>
          cases whole
          exact .ask givesUp.1
      | cons first before =>
          cases whole
          exact .ask (ih (givesUp.2 _) rfl)

end Talk

variable {fault : Fault}

theorem givesUp_fetchNames : fetchNames.GivesUp fault (.error (.fault fault)) := by
  refine ⟨.done _, ?_⟩
  intro answer
  cases answer with
  | error other => trivial
  | ok bytes => trivial

theorem givesUp_keepReply (name : Text) (reply outcome : Except Failure Parameter) :
    (keepReply name reply).GivesUp fault outcome := by
  cases reply with
  | error failure => trivial
  | ok p =>
      change (keepName name p).GivesUp fault outcome
      unfold keepName
      split
      · trivial
      · trivial

theorem givesUp_fetchDetail (name : Text) :
    (fetchDetail name).GivesUp fault (.error (.fault fault)) := by
  rw [fetchDetail_eq]
  exact ⟨.done _, fun answer => givesUp_keepReply name _ _⟩

/-- A fault that concerns one command only is passed over here, others are not. -/
theorem givesUp_mergeNew (fatal : fault.isKnown = false) (name : Text) :
    (mergeNew fetchDetail name).GivesUp fault (.error (.fault fault)) := by
  refine (givesUp_fetchDetail name).bind ?_ ?_
  · intro outcome
    cases outcome with
    | ok p => trivial
    | error failure =>
        dsimp only
        split
        · trivial
        · trivial
  · dsimp only
    rw [Failure.isKnown, fatal]
    exact .done _

theorem givesUp_mergeSorted (fatal : fault.isKnown = false) (base : List Parameter)
    (names : List Text) :
    (mergeSorted fetchDetail base names).GivesUp fault (.error (.fault fault)) := by
  apply mergeSorted_of_parts
  · exact fun _ => trivial
  · exact fun _ change merged => merged.mapOk
  · exact fun name _ later => (givesUp_mergeNew fatal name).andThen later

theorem Fault.isListingFailure_eq_false (fatal : fault.isKnown = false) :
    (Failure.fault fault).isListingFailure = false := by
  cases fault with
  | command error => cases fatal
  | rejected message => cases fatal
  | _ => rfl

namespace Cycle

theorem givesUp_gather (fatal : fault.isKnown = false) (previous : Catalog) :
    (gather previous).GivesUp fault (.error (.fault fault)) := by
  refine givesUp_fetchNames.bind ?_ ?_
  · intro listed
    cases listed with
    | ok names => exact (givesUp_mergeSorted fatal _ _).mapOk
    | error failure =>
        dsimp only
        split
        · trivial
        · trivial
  · dsimp only
    rw [Fault.isListingFailure_eq_false fatal]
    exact .done _

/-- Such a fault ends a cycle wherever it waits, and says how. -/
theorem givesUp_talk (fatal : fault.isKnown = false) (previous : Catalog) (limit : Timeout) :
    (talk previous limit).GivesUp fault (.error ((Failure.fault fault).stop limit).1) := by
  refine (givesUp_gather fatal previous).bind ?_ ?_
  · intro gathered
    rcases gathered with failure | failure | m
    · exact Talk.givesUp_sayAll (Talk.givesUp_done _ _)
    · trivial
    · dsimp only
      unfold conclude
      split
      · trivial
      · exact Talk.givesUp_sayAll (Talk.givesUp_done _ _)
  · exact Talk.endsWith_sayAll_iff.mpr (.done _)

end Cycle
end Tunables
