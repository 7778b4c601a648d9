import Tunables.Executor.Script
import Tunables.Proofs.CutOff
import Tunables.Proofs.Deadline

/-!
# What a cycle asks for

A cycle asks for the names, and then for help on each listed name that its catalog does
not have, in ascending order and once.  However it ends, it has come some way along this
list, and to the end of it if there is a result.  A command that was cut off may be on
record with the executor or not; it is the last one in either case.
-/

namespace Tunables

/-! ## Along a list of commands -/

namespace Talk

variable {α β ε : Type}

/-- Whatever the answers are, work asks for the commands of an agenda in their order, and
for nothing else. -/
def Follows : Talk α → List Command → Prop
  | .done _, _ => True
  | .say _ next, agenda => next.Follows agenda
  | .ask command resume, agenda =>
      ∃ rest, agenda = command :: rest ∧ ∀ answer, (resume answer).Follows rest

variable {agenda : List Command}

theorem follows_done (value : α) : (Talk.done value).Follows agenda :=
  trivial

/-- Work that asks for nothing leaves the agenda to the work behind it. -/
theorem follows_bind_of_quiet {talk : Talk α} {next : α → Talk β} (quiet : talk.Follows [])
    (later : ∀ value, (next value).Follows agenda) : (talk.bind next).Follows agenda := by
  induction talk with
  | done value => exact later value
  | say entry rest ih => exact ih quiet
  | ask command resume _ =>
      obtain ⟨_, nothing, -⟩ := quiet
      cases nothing

theorem follows_of_quiet {talk : Talk α} (quiet : talk.Follows []) : talk.Follows agenda := by
  induction talk with
  | done value => trivial
  | say entry rest ih => exact ih quiet
  | ask command resume _ =>
      obtain ⟨_, nothing, -⟩ := quiet
      cases nothing

theorem Follows.bind {talk : Talk α} {next : α → Talk β} (first : talk.Follows agenda)
    (quiet : ∀ value, (next value).Follows []) : (talk.bind next).Follows agenda := by
  induction talk generalizing agenda with
  | done value => exact follows_of_quiet (quiet value)
  | say entry rest ih => exact ih first
  | ask command resume ih =>
      obtain ⟨rest, same, each⟩ := first
      exact ⟨rest, same, fun answer => ih answer (each answer)⟩

theorem Follows.map {talk : Talk α} (first : talk.Follows agenda) (change : α → β) :
    (talk.map change).Follows agenda :=
  first.bind fun _ => follows_done _

theorem follows_sayAll {entries : List LogEntry} {next : Talk α} (later : next.Follows agenda) :
    (sayAll entries next).Follows agenda := by
  induction entries with
  | nil => exact later
  | cons entry rest ih => exact ih

theorem Follows.commands_begin {talk rest : Talk α} {exchanges : List Exchange}
    (follows : talk.Follows agenda) (reaches : talk.Reaches exchanges rest) :
    exchanges.map (·.command) <+: agenda := by
  induction reaches generalizing agenda with
  | start talk => exact List.nil_prefix
  | say _ ih => exact ih follows
  | ask _ ih =>
      obtain ⟨rest, rfl, each⟩ := follows
      exact List.prefix_cons_inj _ |>.mpr (ih (each _))

end Talk

variable {name : Text}

theorem quiet_keepReply (name : Text) (reply : Except Failure Parameter) :
    (keepReply name reply).Follows [] := by
  cases reply with
  | error failure => trivial
  | ok p =>
      change (keepName name p).Follows []
      unfold keepName
      split
      · trivial
      · trivial

/-- A new name is asked for once, whatever becomes of it. -/
theorem follows_mergeNew_andThen {β : Type} {next : (Merge → Merge) → Talk (Except Failure β)}
    {agenda : List Command} (later : ∀ change, (next change).Follows agenda) :
    ((mergeNew fetchDetail name).andThen next).Follows (.help name :: agenda) := by
  rw [mergeNew, fetchDetail_eq]
  refine ⟨agenda, rfl, ?_⟩
  intro answer
  apply Talk.follows_bind_of_quiet
  · apply Talk.follows_bind_of_quiet (quiet_keepReply name _)
    intro outcome
    cases outcome with
    | ok p => trivial
    | error failure =>
        dsimp only
        split
        · trivial
        · trivial
  · intro settled
    cases settled with
    | ok change => exact later change
    | error failure => trivial

theorem follows_mergeSorted {base : List Parameter} {names : List Text}
    (baseAscends : (base.map (·.name)).Pairwise (· < ·)) (namesAscend : names.Pairwise (· < ·)) :
    (mergeSorted fetchDetail base names).Follows ((Merge.newNames base names).map .help) := by
  induction names generalizing base with
  | nil => trivial
  | cons name names ih =>
      obtain ⟨nameFirst, restAscends⟩ := List.pairwise_cons.mp namesAscend
      have once : name ∉ names := fun member => Std.lt_irrefl (nameFirst name member)
      have tailAscends : ((base.dropWhile (·.name < name)).map (·.name)).Pairwise (· < ·) :=
        baseAscends.sublist ((List.dropWhile_sublist _).map _)
      rw [← newNames_dropWhile namesAscend]
      rcases head_dropWhile_eq_or_not_mem name baseAscends with ⟨p, tail, split, same⟩ | new
      · subst same
        rw [split, List.map_cons, List.pairwise_cons] at tailAscends
        rw [mergeSorted_kept split rfl, split, Merge.newNames_keep once]
        exact (ih tailAscends.2 restAscends).map _
      · rw [mergeSorted_new new, Merge.newNames_cons_of_not_mem new]
        exact follows_mergeNew_andThen fun change => (ih tailAscends restAscends).map _

/-- The names in the answer to a listing; none if there is no answer or it cannot be read. -/
def listedNames : Answer → List Text
  | .ok bytes => (namesOfReply bytes).toOption.getD []
  | .error _ => []

namespace Cycle

variable {previous : Catalog} {limit : Timeout} {exchanges : List Exchange}
  {outcome : Except CycleStop CycleResult}

theorem quiet_conclude (m : Merge) : (conclude m).Follows [] := by
  unfold conclude
  split
  · trivial
  · exact Talk.follows_sayAll (Talk.follows_done _)

theorem quiet_giveUp (limit : Timeout) (failure : Failure) : (giveUp limit failure).Follows [] :=
  Talk.follows_sayAll (Talk.follows_done _)

/-- Without names a cycle asks for nothing more. -/
theorem follows_unlisted {agenda : List Command} (failure : Failure) :
    (if failure.isListingFailure then
        .say (.error ("Failed to list cluster parameters: " ++ failure.message))
          (.done (.ok (.error failure)))
      else .done (.error failure) : Talk (Except Failure (Except Failure Merge))).Follows agenda := by
  split
  · trivial
  · trivial

/-- A cycle starts with the listing, and its answer settles what else is asked for. -/
theorem exists_talk_eq_ask (previous : Catalog) (limit : Timeout) :
    ∃ resume, talk previous limit = .ask .listing resume ∧ ∀ answer,
      (resume answer).Follows ((newNames previous (listedNames answer)).map .help) := by
  refine ⟨_, rfl, ?_⟩
  intro answer
  refine Talk.Follows.bind ?_ ?_
  · cases answer with
    | error fault => exact follows_unlisted _
    | ok bytes =>
        dsimp only [Talk.done_bind]
        cases listed : namesOfReply bytes with
        | error failure => exact follows_unlisted failure
        | ok names =>
            have same : listedNames (.ok bytes) = names := by rw [listedNames, listed]; rfl
            dsimp only
            rw [same, mergeParameters, sortByText_name_of_pairwise previous.ascending]
            exact (follows_mergeSorted previous.ascending (pairwise_distinctSorted names)).map _
  · intro gathered
    rcases gathered with failure | failure | m
    · exact quiet_giveUp limit failure
    · trivial
    · exact quiet_conclude m

/-- The names in the answer to the listing, which is the first exchange of a cycle. -/
def listedIn : List Exchange → List Text
  | [] => []
  | listing :: _ => listedNames listing.answer

theorem commands_prefix_plan {rest : Talk (Except CycleStop CycleResult)}
    (reaches : (talk previous limit).Reaches exchanges rest) :
    exchanges.map (·.command) <+: plan previous (listedIn exchanges) := by
  obtain ⟨resume, asks, each⟩ := exists_talk_eq_ask previous limit
  rw [asks] at reaches
  cases reaches with
  | start _ => exact List.nil_prefix
  | ask later => exact (List.prefix_cons_inj _).mpr ((each _).commands_begin later)

theorem length_newNames (previous : Catalog) (names : List Text) (answers : Text → Answer) :
    (newNames previous names).length =
      (resultOf previous names answers).report.added.length +
        (resultOf previous names answers).report.failed.length :=
  List.length_eq_length_filter_add fun name => (outcomeOf answers name).isOk

theorem commands_eq_plan {result : CycleResult}
    (ends : (talk previous limit).EndsWith exchanges (.ok result)) :
    exchanges.map (·.command) = plan previous (listedIn exchanges) ∧
      (newNames previous (listedIn exchanges)).length =
        result.report.added.length + result.report.failed.length := by
  obtain ⟨listing, names, answers, listed, rfl, -, rfl⟩ := endsWith_talk_ok_iff.mp ends
  have same : listedNames (.ok listing) = names := by rw [listedNames, listed]; rfl
  rw [listedIn, same]
  refine ⟨?_, length_newNames previous names answers⟩
  rw [plan, List.map_cons, helpExchanges, List.map_map]
  rfl

end Cycle

/-! ## What is on record -/

/-- The commands that an executor has on record after some exchanges: all of them, but
one that was cut off may be missing. -/
inductive Records : List Exchange → List Command → Prop where
  | nothing : Records [] []
  | kept {exchange : Exchange} {exchanges : List Exchange} {calls : List Command} :
      Records exchanges calls → Records (exchange :: exchanges) (exchange.command :: calls)
  | cutOff {command : Command} {exchanges : List Exchange} {calls : List Command}
      (reason : CutReason) : Records exchanges calls →
      Records (⟨command, .error reason.fault⟩ :: exchanges) calls

namespace Talk

variable {α : Type} {talk : Talk α} {value other : α} {exchanges : List Exchange}
  {calls : List Command}

theorem EndsWith.eq_nil_of_nil (quiet : talk.EndsWith [] value)
    (ends : talk.EndsWith exchanges other) : exchanges = [] := by
  induction ends with
  | done _ => rfl
  | say _ ih => exact ih (endsWith_say_iff.mp quiet)
  | ask _ _ => cases quiet

/-- When every cut ends the work, only the last command can be missing on record, and only
if the work ended with the cut. -/
theorem EndsWith.eq_or_prefix_of_records {stop : CutReason → α}
    (givesUp : ∀ reason, talk.GivesUp reason.fault (stop reason))
    (ends : talk.EndsWith exchanges value) (records : Records exchanges calls) :
    calls = exchanges.map (·.command) ∨
      (∃ reason, value = stop reason) ∧ calls <+: exchanges.map (·.command) := by
  induction ends generalizing calls with
  | done value =>
      cases records
      exact .inl rfl
  | say _ ih => exact ih givesUp records
  | ask ends ih =>
      cases records with
      | kept earlier =>
          rcases ih (fun reason => (givesUp reason).2 _) earlier with same | ⟨stopped, begun⟩
          · exact .inl (congrArg _ same)
          · exact .inr ⟨stopped, (List.prefix_cons_inj _).mpr begun⟩
      | cutOff reason earlier =>
          have quiet := (givesUp reason).1
          cases quiet.eq_nil_of_nil ends
          cases earlier
          exact .inr ⟨⟨reason, ends.unique quiet⟩, List.nil_prefix⟩

/-- A run in time comes to its value over exchanges of which the executor has its calls on
record. -/
theorem exists_records_runWith (b : Behaviour) (now : Moment) (cutoffs : Cutoffs)
    (talk : Talk α) :
    ∃ exchanges, talk.EndsWith exchanges (talk.runWith b now cutoffs).value ∧
      Records exchanges (talk.runWith b now cutoffs).calls ∧
      ∀ exchange ∈ exchanges, exchange.answer = b.answer exchange.command ∨
        ∃ reason : CutReason, exchange.answer = .error reason.fault := by
  induction talk generalizing now cutoffs with
  | done value => exact ⟨[], .done value, .nothing, nofun⟩
  | say entry next ih =>
      obtain ⟨exchanges, ends, records, origin⟩ := ih now cutoffs
      exact ⟨exchanges, .say ends, records, origin⟩
  | ask command resume ih =>
      rw [runWith]
      split
      · obtain ⟨exchanges, ends, records, origin⟩ := ih (b.answer command) now cutoffs
        exact ⟨_, .ask ends, .kept records, List.forall_mem_cons.mpr ⟨.inl rfl, origin⟩⟩
      · next delay _ =>
          dsimp only
          split
          · next cut _ =>
              obtain ⟨exchanges, ends, records, origin⟩ :=
                ih (.error cut.reason.fault) (max now cut.moment) cut.rest
              exact ⟨_, .ask ends, .cutOff cut.reason records,
                List.forall_mem_cons.mpr ⟨.inr ⟨cut.reason, rfl⟩, origin⟩⟩
          · obtain ⟨exchanges, ends, records, origin⟩ :=
              ih (b.answer command) (now + max delay 0) cutoffs
            exact ⟨_, .ask ends, .kept records, List.forall_mem_cons.mpr ⟨.inl rfl, origin⟩⟩

end Talk

theorem helpNames_map_help (names : List Text) :
    Script.helpNames (names.map .help) = .ok names := by
  induction names with
  | nil => rfl
  | cons name names ih =>
      have asks : (Command.help name).phrase = Command.helpPhrase := rfl
      have named : (Command.help name).argument? "key" = some name := rfl
      rw [List.map_cons, Script.helpNames, if_pos asks, named, ih]
      rfl

namespace Cycle

theorem helpNames_plan (previous : Catalog) (names : List Text) :
    Script.helpNames (plan previous names) = .ok (newNames previous names) := by
  have other : ¬ Command.listing.phrase = Command.helpPhrase := by decide
  rw [plan, Script.helpNames, if_neg other, helpNames_map_help]

/-- However a cycle ends and whatever it was answered, the commands on record with the
executor are an initial part of a list: the listing, and help on each name that was listed
and is not in the catalog, in ascending order.  They are all of it if there is a result,
and then there is a request for help for each name that was added or failed.  A run in time
ends so over exchanges of which its calls are the record. -/
theorem records_follow_listing (previous : Catalog) (limit : Timeout) :
    (∀ exchanges outcome calls, (talk previous limit).EndsWith exchanges outcome →
      Records exchanges calls →
      ∃ fresh : List Text, fresh.Pairwise (· < ·) ∧
        (∀ name, name ∈ fresh ↔ name ∈ listedIn exchanges ∧ name ∉ previous.names) ∧
        calls <+: .listing :: fresh.map .help ∧
        ∀ result, outcome = .ok result →
          calls = .listing :: fresh.map .help ∧ Script.helpNames calls = .ok fresh ∧
            fresh.length = result.report.added.length + result.report.failed.length) ∧
    ∀ b cancellation, ∃ exchanges,
      (talk previous limit).EndsWith exchanges (runWith previous b limit cancellation).value ∧
        Records exchanges (runWith previous b limit cancellation).calls ∧
        ∀ exchange ∈ exchanges, exchange.answer = b.answer exchange.command ∨
          ∃ reason : CutReason, exchange.answer = .error reason.fault := by
  constructor
  · intro exchanges outcome calls ends records
    have fatal : ∀ reason : CutReason, reason.fault.isKnown = false := by
      intro reason
      cases reason <;> rfl
    have recorded := ends.eq_or_prefix_of_records
      (fun reason => givesUp_talk (fatal reason) previous limit) records
    have begun : calls <+: plan previous (listedIn exchanges) := by
      have asked := commands_prefix_plan (Talk.endsWith_iff_reaches.mp ends)
      rcases recorded with rfl | ⟨-, part⟩
      · exact asked
      · exact part.trans asked
    refine ⟨newNames previous (listedIn exchanges), pairwise_newNames _ _,
      fun name => mem_newNames, begun, ?_⟩
    rintro result rfl
    rcases recorded with rfl | ⟨⟨reason, stopped⟩, -⟩
    · obtain ⟨whole, count⟩ := commands_eq_plan ends
      refine ⟨whole, ?_, count⟩
      rw [whole, helpNames_plan]
    · cases stopped
  · intro b cancellation
    exact Talk.exists_records_runWith b 0 _ (talk previous limit)

/-- The names `a` and `b` are new, and the request for help on `b` is cut off. -/
def interruptedExchanges : List Exchange :=
  [⟨.listing, .ok listingOfTwo⟩, ⟨.help "a", (scriptOfTwo []).answer (.help "a")⟩,
    ⟨.help "b", .error .cancellation⟩]

theorem records_follow_listing_two :
    (talk .empty none).EndsWith interruptedExchanges (.error (.interrupted "")) ∧
      Records interruptedExchanges [.listing, .help "a"] ∧
      ∃ fresh : List Text, (∀ name, name ∈ fresh ↔ name = "a" ∨ name = "b") ∧
        [Command.listing, .help "a"] <+: .listing :: fresh.map .help := by
  have settled : ∀ name ∈ newNames .empty ["a", "b"],
      IsSettled (outcomeOf (fun name => (scriptOfTwo [123, 125]).answer (.help name)) name) := by
    intro name new
    rw [isSettled_outcomeOf_iff]
    rcases mem_newNames_two.mp new with rfl | rfl
    · exact isSettled_first_scriptOfTwo
    · exact isSettled_emptyObject
  have whole : (talk .empty none).EndsWith
      (interruptedExchanges.take 2 ++ [⟨.help "b", (scriptOfTwo [123, 125]).answer (.help "b")⟩])
      (.ok (resultOf .empty ["a", "b"]
        fun name => (scriptOfTwo [123, 125]).answer (.help name))) := by
    rw [endsWith_talk_ok_iff]
    refine ⟨listingOfTwo, ["a", "b"], _, namesOfReply_listingOfTwo, ?_, settled, rfl⟩
    rw [newNames_two]
    rfl
  have fatal : Fault.cancellation.isKnown = false := rfl
  have ends : (talk .empty none).EndsWith interruptedExchanges (.error (.interrupted "")) :=
    (givesUp_talk fatal .empty none).endsWith_cut whole
  have records : Records interruptedExchanges [.listing, .help "a"] :=
    .kept (.kept (.cutOff .cancellation .nothing))
  obtain ⟨fresh, -, complete, begun, -⟩ :=
    (records_follow_listing .empty none).1 interruptedExchanges _ _ ends records
  refine ⟨ends, records, fresh, ?_, begun⟩
  intro name
  have listed : listedIn interruptedExchanges = [("a" : Text), "b"] := by
    rw [interruptedExchanges, listedIn, listedNames, namesOfReply_listingOfTwo]
    rfl
  rw [complete, listed, ← mem_newNames, mem_newNames_two]

end Cycle
end Tunables
