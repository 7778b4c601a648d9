import Tunables.Cycle.Timed
import Tunables.Proofs.Fetch
import Tunables.Proofs.Partition

/-!
# One bad answer among others

When each command has one answer, a cycle comes to one end.  An answer that gives
no parameter costs the name that it was asked for, and no other name; the answers
that cost the whole cycle are those with a bound that is too large.
-/

namespace Tunables

namespace Talk

variable {α β : Type}

/-- What a talk comes to when each command has one answer. -/
def outcome (respond : Command → Answer) : Talk α → α
  | .done value => value
  | .say _ next => next.outcome respond
  | .ask command resume => (resume (respond command)).outcome respond

theorem outcome_eq_iff {respond : Command → Answer} {talk : Talk α} {value : α} :
    talk.outcome respond = value ↔ ∃ exchanges, talk.EndsWith exchanges value ∧
      ∀ exchange ∈ exchanges, exchange.answer = respond exchange.command := by
  constructor
  · rintro rfl
    induction talk with
    | done value => exact ⟨[], .done value, nofun⟩
    | say entry next ih =>
        obtain ⟨exchanges, ends, fixed⟩ := ih
        exact ⟨exchanges, .say ends, fixed⟩
    | ask command resume ih =>
        obtain ⟨exchanges, ends, fixed⟩ := ih (respond command)
        refine ⟨⟨command, respond command⟩ :: exchanges, .ask ends, ?_⟩
        exact List.forall_mem_cons.mpr ⟨rfl, fixed⟩
  · intro parts
    obtain ⟨exchanges, ends, fixed⟩ := parts
    induction ends with
    | done value => rfl
    | say _ ih => exact ih fixed
    | ask _ ih =>
        obtain ⟨answered, later⟩ := List.forall_mem_cons.mp fixed
        rw [outcome, ← answered]
        exact ih later

/-- A scripted executor that is never cut off gives each command its answer. -/
theorem value_run_none (script : Script) (now : Moment) (talk : Talk α) :
    (talk.run script now .none).value = talk.outcome script.answer := by
  induction talk generalizing now with
  | done value => rfl
  | say entry next ih => exact ih now
  | ask command resume ih =>
      rw [run, outcome]
      cases script.delay? command with
      | none => exact ih (script.answer command) now
      | some delay => exact ih (script.answer command) (now + max delay 0)

end Talk

instance : (outcome : Except Failure Parameter) → Decidable (IsSettled outcome)
  | .ok _ => isTrue nofun
  | .error failure =>
      if known : failure.isKnown = true then
        isTrue fun _ same => Except.error.inj same ▸ known
      else isFalse fun settled => known (settled failure rfl)

/-- A reply, or the failure of a command. -/
inductive IsReply : Answer → Prop where
  | bytes (bytes : Text.Bytes) : IsReply (.ok bytes)
  | failed (error : CommandError) : IsReply (.error (.command error))

theorem IsReply.isSettled_iff {answer : Answer} {name : Text} (reply : IsReply answer) :
    IsSettled (parameterOfAnswer name answer) ↔ ¬ GivesHugeBound answer := by
  cases reply with
  | bytes bytes => exact isSettled_parameterOfReply_iff
  | failed error =>
      constructor
      · intro _ huge
        obtain ⟨_, _, impossible, -⟩ := huge
        cases impossible
      · intro _ failure same
        cases same
        rfl

theorem Command.listing_ne_help (name : Text) : Command.listing ≠ .help name := by
  simp [listing, help, listingPhrase, helpPhrase]

theorem Command.help_injective : Function.Injective Command.help := by
  intro name other same
  unfold Command.help at same
  simpa using same

namespace Cycle

variable {previous : Catalog} {limit : Timeout} {respond : Command → Answer}
  {listing : Text.Bytes} {names : List Text}

/-- Only the answers for new names matter. -/
theorem resultOf_congr {answers others : Text → Answer}
    (same : ∀ name ∈ newNames previous names, answers name = others name) :
    resultOf previous names answers = resultOf previous names others := by
  have merged : mergeOf previous names answers = mergeOf previous names others := by
    apply Merge.ofOutcomes_congr
    intro name new
    rw [outcomeOf, outcomeOf, same name new]
  simp only [resultOf, catalogOf, merged]

/-- Over a listing that can be read, a cycle comes to a result when the answer for
every new name settles it. -/
theorem outcome_talk_eq_ok_iff (lists : respond .listing = .ok listing)
    (listed : namesOfReply listing = .ok names) {result : CycleResult} :
    (talk previous limit).outcome respond = .ok result ↔
      (∀ name ∈ newNames previous names,
        IsSettled (parameterOfAnswer name (respond (.help name)))) ∧
      result = resultOf previous names fun name => respond (.help name) := by
  rw [Talk.outcome_eq_iff]
  constructor
  · intro parts
    obtain ⟨exchanges, ends, fixed⟩ := parts
    obtain ⟨otherListing, otherNames, answers, decoded, rfl, settled, rfl⟩ :=
      endsWith_talk_ok_iff.mp ends
    obtain ⟨first, later⟩ := List.forall_mem_cons.mp fixed
    dsimp only at first
    rw [lists] at first
    cases first
    rw [listed] at decoded
    cases decoded
    have answered : ∀ name ∈ newNames previous names, answers name = respond (.help name) := by
      intro name new
      exact later _ (List.mem_map_of_mem new)
    refine ⟨?_, resultOf_congr answered⟩
    intro name new
    rw [← answered name new]
    exact isSettled_outcomeOf_iff.mp (settled name new)
  · intro parts
    obtain ⟨settled, rfl⟩ := parts
    refine ⟨_, endsWith_talk_ok_iff.mpr ⟨listing, names, fun name => respond (.help name), listed,
      rfl, fun name new => isSettled_outcomeOf_iff.mpr (settled name new), rfl⟩, ?_⟩
    refine List.forall_mem_cons.mpr ⟨lists.symm, ?_⟩
    intro exchange asked
    obtain ⟨name, -, rfl⟩ := List.mem_map.mp asked
    rfl

theorem exists_outcome_talk_iff (lists : respond .listing = .ok listing)
    (listed : namesOfReply listing = .ok names)
    (replies : ∀ name ∈ newNames previous names, IsReply (respond (.help name))) :
    (∃ result, (talk previous limit).outcome respond = .ok result) ↔
      ∀ name ∈ newNames previous names, ¬ GivesHugeBound (respond (.help name)) := by
  simp only [outcome_talk_eq_ok_iff lists listed, exists_and_left, exists_eq, and_true]
  apply forall_congr'
  intro name
  apply forall_congr'
  intro new
  exact (replies name new).isSettled_iff

theorem get?_resultOf_of_not_mem {answers : Text → Answer} {name : Text}
    (unlisted : name ∉ names) : (resultOf previous names answers).catalog.get? name = none := by
  rw [← Option.not_isSome_iff_eq_none, Catalog.isSome_get?_iff, mem_names_resultOf,
    mem_added_resultOf]
  intro named
  rcases named with ⟨listed, -⟩ | ⟨⟨listed, -⟩, -⟩
  · exact unlisted listed
  · exact unlisted listed

/-- What a catalog has under a name depends on the answer for this name only. -/
theorem get?_resultOf_congr {answers others : Text → Answer} {name : Text}
    (same : answers name = others name) :
    (resultOf previous names answers).catalog.get? name =
      (resultOf previous names others).catalog.get? name := by
  by_cases listed : name ∈ names
  · rw [get?_resultOf listed, get?_resultOf listed, outcomeOf, outcomeOf, same]
  · rw [get?_resultOf_of_not_mem listed, get?_resultOf_of_not_mem listed]

/-! ## Scripted answers -/

theorem value_run_eq_outcome (previous : Catalog) (script : Script) :
    (Cycle.run previous script none none).value =
      (talk previous none).outcome script.answer :=
  Talk.value_run_none script 0 (talk previous none)

/-- The listing of the names `a` and `b`. -/
def listingOfTwo : Text.Bytes :=
  Text.Utf8.encode "[\"a\",\"b\"]"

/-- The names `a` and `b` are new; `a` has a record, and `b` the reply given. -/
def scriptOfTwo (reply : Text.Bytes) : Script where
  responses := [("config_ls", .bytes listingOfTwo)]
  details := [("a", .text "\x7b\"name\":\"a\"\x7d"), ("b", .bytes reply)]
  failing := []
  delays := []
  faults := []

variable {reply : Text.Bytes}

theorem namesOfReply_listingOfTwo : namesOfReply listingOfTwo = .ok ["a", "b"] := by
  apply eq_ok_of_toOption_eq_some
  decide +kernel

theorem answer_listing_scriptOfTwo :
    (scriptOfTwo reply).answer .listing = .ok listingOfTwo := by
  have unnamed : Command.listing.helpName? = none := by decide +kernel
  have phrase : Command.listing.replyKey = "config_ls" := by decide +kernel
  simp [Script.answer, scriptOfTwo, unnamed, Script.answerPhrase, phrase, Document.answer,
    Document.toBytes, Except.mapError]

theorem answer_first_scriptOfTwo :
    (scriptOfTwo reply).answer (.help "a") =
      .ok (Text.Utf8.encode "\x7b\"name\":\"a\"\x7d") := by
  rfl

theorem answer_second_scriptOfTwo : (scriptOfTwo reply).answer (.help "b") = .ok reply := by
  rfl

theorem isReply_scriptOfTwo (name : Text) : IsReply ((scriptOfTwo reply).answer (.help name)) := by
  by_cases first : name = "a"
  · rw [first, answer_first_scriptOfTwo]
    exact .bytes _
  · by_cases second : name = "b"
    · rw [second, answer_second_scriptOfTwo]
      exact .bytes reply
    · have asked : (Command.help name).helpName? = some name := by
        simp [Command.helpName?, Command.help, Command.argument?]
      have unknown : (scriptOfTwo reply).details.lookup name = none := by
        simp [scriptOfTwo, List.lookup_cons, beq_false_of_ne first, beq_false_of_ne second]
      rw [Script.answer, asked]
      simp only [scriptOfTwo, List.lookup_nil, Script.answerHelp] at unknown ⊢
      rw [unknown]
      exact .failed _

theorem mem_newNames_two {name : Text} :
    name ∈ newNames .empty ["a", "b"] ↔ name = "a" ∨ name = "b" := by
  rw [mem_newNames]
  simp [Catalog.names, Catalog.empty]

theorem newNames_two : newNames .empty ["a", "b"] = [("a" : Text), "b"] := by
  apply eq_of_pairwise_of_mem_iff (pairwise_newNames _ _) (by decide)
  intro name
  rw [mem_newNames_two]
  simp

theorem isSettled_first_scriptOfTwo :
    IsSettled (parameterOfAnswer "a" ((scriptOfTwo reply).answer (.help "a"))) := by
  rw [answer_first_scriptOfTwo]
  decide +kernel

theorem isSettled_emptyObject : IsSettled (parameterOfReply "b" [123, 125]) := by
  decide +kernel

theorem givesNoParameter_emptyObject : GivesNoParameter (.ok [123, 125]) := by
  have failed : (parameterOfReply "b" [123, 125]).isOk = false := by decide +kernel
  cases reply : parameterOfReply "b" [123, 125] with
  | ok p =>
      rw [reply] at failed
      cases failed
  | error failure => exact exists_error_iff_givesNoParameter.mp ⟨failure, reply⟩

/-- A record for `b` with the lower bound `10 ^ 310`. -/
def hugeReply : Text.Bytes :=
  Text.Utf8.encode "\x7b\"name\":\"b\",\"min\":1" ++ List.replicate 310 48 ++ [125]

theorem not_isSettled_hugeReply : ¬ IsSettled (parameterOfReply "b" hugeReply) := by
  decide +kernel

/-! ## The names apart -/

/-- When each command has one answer and those for new names are replies or failed
commands, a cycle comes to a result unless one of them has a bound that is too
large.  A name fails when its own answer gives no parameter, and another answer for
one name changes what becomes of that name only. -/
theorem help_replies_isolated (previous : Catalog) (limit : Timeout)
    (respond : Command → Answer) (listing : Text.Bytes) (names : List Text)
    (lists : respond .listing = .ok listing) (listed : namesOfReply listing = .ok names)
    (replies : ∀ name ∈ newNames previous names, IsReply (respond (.help name))) :
    ((∃ result, (talk previous limit).outcome respond = .ok result) ↔
      ∀ name ∈ newNames previous names, ¬ GivesHugeBound (respond (.help name))) ∧
    ∀ result, (talk previous limit).outcome respond = .ok result →
      (∀ name, name ∈ result.report.failed ↔
        name ∈ newNames previous names ∧ GivesNoParameter (respond (.help name))) ∧
      ∀ name answer changed,
        (talk previous limit).outcome (Function.update respond (.help name) answer) =
          .ok changed →
        ∀ other, other ≠ name →
          (other ∈ changed.report.failed ↔ other ∈ result.report.failed) ∧
          (other ∈ changed.report.added ↔ other ∈ result.report.added) ∧
          changed.catalog.get? other = result.catalog.get? other := by
  refine ⟨exists_outcome_talk_iff lists listed replies, ?_⟩
  intro result ends
  obtain ⟨-, rfl⟩ := (outcome_talk_eq_ok_iff lists listed).mp ends
  constructor
  · intro name
    rw [mem_failed_resultOf, exists_error_iff_givesNoParameter, mem_newNames]
  · intro name answer changed endsAgain other different
    have listsAgain : Function.update respond (.help name) answer .listing = .ok listing := by
      rw [Function.update_of_ne (Command.listing_ne_help name), lists]
    obtain ⟨-, rfl⟩ := (outcome_talk_eq_ok_iff listsAgain listed).mp endsAgain
    have same : Function.update respond (.help name) answer (.help other) =
        respond (.help other) :=
      Function.update_of_ne (Command.help_injective.ne different) _ _
    refine ⟨?_, ?_, get?_resultOf_congr same⟩
    · rw [mem_failed_resultOf, mem_failed_resultOf, same]
    · rw [mem_added_resultOf, mem_added_resultOf, same]

/-- With the empty object as the reply for `b`. -/
theorem help_replies_isolated_two :
    (∀ name ∈ newNames .empty ["a", "b"], IsReply ((scriptOfTwo [123, 125]).answer (.help name))) ∧
    ∃ result, (talk .empty none).outcome (scriptOfTwo [123, 125]).answer = .ok result ∧
      ("b" : Text) ∈ result.report.failed := by
  have replies : ∀ name ∈ newNames .empty ["a", "b"],
      IsReply ((scriptOfTwo [123, 125]).answer (.help name)) :=
    fun name _ => isReply_scriptOfTwo name
  obtain ⟨ends_iff, results⟩ := help_replies_isolated .empty none
    (scriptOfTwo [123, 125]).answer listingOfTwo ["a", "b"] answer_listing_scriptOfTwo
    namesOfReply_listingOfTwo replies
  have fine : ∀ name ∈ newNames .empty ["a", "b"],
      ¬ GivesHugeBound ((scriptOfTwo [123, 125]).answer (.help name)) := by
    intro name new
    rw [← @IsReply.isSettled_iff _ name (replies name new)]
    rcases mem_newNames_two.mp new with rfl | rfl
    · exact isSettled_first_scriptOfTwo
    · exact isSettled_emptyObject
  obtain ⟨result, ends⟩ := ends_iff.mpr fine
  refine ⟨replies, result, ends, ((results result ends).1 "b").mpr ?_⟩
  exact ⟨mem_newNames_two.mpr (.inr rfl), givesNoParameter_emptyObject⟩

theorem run_hugeReply :
    (∀ name, IsReply ((scriptOfTwo hugeReply).answer (.help name))) ∧
    namesOfReply listingOfTwo = .ok ["a", "b"] ∧
    ¬ ∃ result, (Cycle.run .empty (scriptOfTwo hugeReply) none none).value = .ok result := by
  refine ⟨isReply_scriptOfTwo, namesOfReply_listingOfTwo, ?_⟩
  intro parts
  obtain ⟨result, ends⟩ := parts
  rw [value_run_eq_outcome,
    outcome_talk_eq_ok_iff answer_listing_scriptOfTwo namesOfReply_listingOfTwo] at ends
  have settled := ends.1 "b" (mem_newNames_two.mpr (.inr rfl))
  rw [answer_second_scriptOfTwo] at settled
  exact not_isSettled_hugeReply settled

end Cycle
end Tunables
