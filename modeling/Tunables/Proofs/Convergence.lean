import Tunables.Proofs.Isolation

/-!
# A cycle after a cycle

When each command has one answer, the catalog that a cycle came to is in line with
the cluster already: the next cycle lists the names, asks again for those that
failed, and comes to the same catalog.
-/

namespace Tunables

namespace Talk

variable {α : Type}

/-- The commands that a talk asks for when each command has one answer. -/
def commands (respond : Command → Answer) : Talk α → List Command
  | .done _ => []
  | .say _ next => next.commands respond
  | .ask command resume => command :: (resume (respond command)).commands respond

theorem EndsWith.commands_eq {talk : Talk α} {exchanges : List Exchange} {value : α}
    {respond : Command → Answer} (ends : talk.EndsWith exchanges value)
    (fixed : ∀ exchange ∈ exchanges, exchange.answer = respond exchange.command) :
    talk.commands respond = exchanges.map (·.command) := by
  induction ends with
  | done value => rfl
  | say _ ih => exact ih fixed
  | ask _ ih =>
      obtain ⟨answered, later⟩ := List.forall_mem_cons.mp fixed
      rw [commands, ← answered, List.map_cons]
      exact congrArg _ (ih later)

/-- A scripted executor that is never cut off records the commands asked for. -/
theorem calls_run_none (script : Script) (now : Moment) (talk : Talk α) :
    (talk.run script now .none).calls = talk.commands script.answer := by
  induction talk generalizing now with
  | done value => rfl
  | say entry next ih => exact ih now
  | ask command resume ih =>
      rw [run, commands]
      cases script.delay? command with
      | none => exact congrArg _ (ih (script.answer command) now)
      | some delay => exact congrArg _ (ih (script.answer command) (now + max delay 0))

end Talk

/-- The same catalog and the same failures, with nothing changed. -/
def CycleResult.unchanged (result : CycleResult) : CycleResult :=
  ⟨result.catalog, ⟨[], [], result.report.failed, result.report.total⟩⟩

namespace Cycle

variable {previous : Catalog} {limit : Timeout} {respond : Command → Answer}
  {listing : Text.Bytes} {names : List Text} {answers : Text → Answer}
  {result : CycleResult} {name : Text}

theorem calls_run_eq_commands (previous : Catalog) (script : Script) :
    (Cycle.run previous script none none).calls =
      (talk previous none).commands script.answer :=
  Talk.calls_run_none script 0 (talk previous none)

/-! ## In line already -/

theorem BringsInLine.mem_of_mem_names (fits : BringsInLine previous names answers result)
    (member : name ∈ result.catalog.names) : name ∈ names := by
  rcases (fits.mem_names name).mp member with ⟨listed, -⟩ | added
  · exact listed
  · exact ((fits.mem_added name).mp added).1.1

/-- The listed names that the new catalog lacks are those that failed. -/
theorem BringsInLine.not_mem_names_iff (fits : BringsInLine previous names answers result)
    (listed : name ∈ names) : name ∉ result.catalog.names ↔ name ∈ result.report.failed := by
  rw [fits.mem_names]
  rcases fits.split name listed with ⟨known, _, kept⟩ | ⟨_, added, fetched⟩ | ⟨new, skipped, failed⟩
  · simp [listed, known, kept]
  · simp [added, fetched]
  · simp [new, skipped, failed]

theorem BringsInLine.newNames_eq (fits : BringsInLine previous names answers result) :
    newNames result.catalog names = result.report.failed := by
  apply eq_of_pairwise_of_mem_iff (pairwise_newNames _ _) fits.failed_ascends
  intro name
  rw [mem_newNames]
  constructor
  · intro parts
    exact (fits.not_mem_names_iff parts.1).mp parts.2
  · intro failed
    have listed : name ∈ names := ((fits.mem_failed name).mp failed).1.1
    exact ⟨listed, (fits.not_mem_names_iff listed).mpr failed⟩

/-- A catalog in line with the names stays as it is under the same answers. -/
theorem BringsInLine.unchanged (fits : BringsInLine previous names answers result) :
    BringsInLine result.catalog names answers result.unchanged where
  removed_ascends := .nil
  mem_removed name := by
    refine iff_of_false List.not_mem_nil ?_
    intro parts
    exact parts.2 (fits.mem_of_mem_names parts.1)
  added_ascends := .nil
  mem_added name := by
    refine iff_of_false List.not_mem_nil ?_
    intro parts
    obtain ⟨⟨listed, new⟩, p, fetched⟩ := parts
    obtain ⟨-, failure, failed⟩ :=
      (fits.mem_failed name).mp ((fits.not_mem_names_iff listed).mp new)
    rw [fetched] at failed
    cases failed
  failed_ascends := fits.failed_ascends
  mem_failed name := by
    constructor
    · intro failed
      obtain ⟨⟨listed, -⟩, failure⟩ := (fits.mem_failed name).mp failed
      exact ⟨⟨listed, (fits.not_mem_names_iff listed).mpr failed⟩, failure⟩
    · intro parts
      exact (fits.not_mem_names_iff parts.1.1).mp parts.1.2
  split name listed := by
    by_cases known : name ∈ result.catalog.names
    · refine .inl ⟨known, List.not_mem_nil, ?_⟩
      intro failed
      exact (fits.not_mem_names_iff listed).mpr failed known
    · exact .inr (.inr ⟨known, List.not_mem_nil, (fits.not_mem_names_iff listed).mp known⟩)
  names_ascend := fits.names_ascend
  mem_names name := by
    constructor
    · intro known
      exact .inl ⟨fits.mem_of_mem_names known, known⟩
    · intro parts
      rcases parts with ⟨-, known⟩ | added
      · exact known
      · cases added
  get?_kept _ _ _ := rfl
  get?_added name added := by cases added
  total_eq := fits.total_eq
  size_eq := rfl
  removed_le := Nat.zero_le _

/-! ## The next cycle -/

/-- A cycle with a result reads a listing, asks for help on the new names, and brings
its catalog in line. -/
theorem exists_listing_of_outcome (ends : (talk previous limit).outcome respond = .ok result) :
    ∃ listing names, respond .listing = .ok listing ∧ namesOfReply listing = .ok names ∧
      (talk previous limit).commands respond =
        .listing :: (newNames previous names).map .help ∧
      BringsInLine previous names (fun name => respond (.help name)) result := by
  obtain ⟨exchanges, reached, fixed⟩ := Talk.outcome_eq_iff.mp ends
  have commands := reached.commands_eq fixed
  obtain ⟨listing, names, answers, listed, rfl, -, -⟩ := endsWith_talk_ok_iff.mp reached
  obtain ⟨lists, -⟩ := List.forall_mem_cons.mp fixed
  refine ⟨listing, names, lists.symm, listed, ?_, ?_⟩
  · rw [commands, List.map_cons, helpExchanges, List.map_map]
    rfl
  · obtain ⟨-, rfl⟩ := (outcome_talk_eq_ok_iff lists.symm listed).mp ends
    exact bringsInLine_resultOf _ _ _

/-- From the result of a cycle the next cycle comes to the same catalog with nothing
added or removed, under the same answers.  It asks for help on the names that failed
and on no other, and they fail again. -/
theorem outcome_talk_unchanged (previous : Catalog) (limit nextLimit : Timeout)
    (respond : Command → Answer) (result : CycleResult)
    (ends : (talk previous limit).outcome respond = .ok result) :
    (talk result.catalog nextLimit).outcome respond = .ok result.unchanged ∧
      (talk result.catalog nextLimit).commands respond =
        .listing :: result.report.failed.map .help ∧
      (result.report.failed = [] →
        (talk result.catalog nextLimit).commands respond = [.listing]) := by
  obtain ⟨listing, names, lists, listed, -, fits⟩ := exists_listing_of_outcome ends
  have asked : newNames result.catalog names = result.report.failed := fits.newNames_eq
  have settled := ((outcome_talk_eq_ok_iff lists listed).mp ends).1
  have endsAgain : (talk result.catalog nextLimit).outcome respond = .ok result.unchanged := by
    refine (outcome_talk_eq_ok_iff lists listed).mpr ⟨?_, ?_⟩
    · intro name new
      rw [asked] at new
      exact settled name (mem_newNames.mpr ((fits.mem_failed name).mp new).1)
    · -- Only one result brings the catalog in line, and the unchanged one does.
      exact fits.unchanged.unique (bringsInLine_resultOf _ _ _)
  have commandsAgain : (talk result.catalog nextLimit).commands respond =
      .listing :: result.report.failed.map .help := by
    obtain ⟨_, _, listsAgain, listedAgain, commands, -⟩ := exists_listing_of_outcome endsAgain
    rw [lists] at listsAgain
    cases listsAgain
    rw [listed] at listedAgain
    cases listedAgain
    rw [commands, asked]
  refine ⟨endsAgain, commandsAgain, ?_⟩
  intro none
  rw [commandsAgain, none]
  rfl

/-- With the empty object as the reply for `b`, which is asked for again. -/
theorem outcome_talk_unchanged_two :
    ∃ result, (talk .empty none).outcome (scriptOfTwo [123, 125]).answer = .ok result ∧
      (Cycle.run result.catalog (scriptOfTwo [123, 125]) none none).value =
        .ok result.unchanged ∧
      .help "b" ∈ (Cycle.run result.catalog (scriptOfTwo [123, 125]) none none).calls := by
  have settled : ∀ name ∈ newNames .empty ["a", "b"],
      IsSettled (parameterOfAnswer name ((scriptOfTwo [123, 125]).answer (.help name))) := by
    intro name new
    rcases mem_newNames_two.mp new with rfl | rfl
    · exact isSettled_first_scriptOfTwo
    · exact isSettled_emptyObject
  have ends : (talk .empty none).outcome (scriptOfTwo [123, 125]).answer =
      .ok (resultOf .empty ["a", "b"] _) :=
    (outcome_talk_eq_ok_iff answer_listing_scriptOfTwo namesOfReply_listingOfTwo).mpr
      ⟨settled, rfl⟩
  obtain ⟨same, commands, -⟩ := outcome_talk_unchanged .empty none none _ _ ends
  refine ⟨_, ends, (value_run_eq_outcome _ _).trans same, ?_⟩
  rw [calls_run_eq_commands, commands]
  refine List.mem_cons_of_mem _ (List.mem_map_of_mem (mem_failed_resultOf.mpr ⟨?_, ?_⟩))
  · exact mem_newNames.mp (mem_newNames_two.mpr (.inr rfl))
  · exact exists_error_iff_givesNoParameter.mpr givesNoParameter_emptyObject

end Cycle
end Tunables
