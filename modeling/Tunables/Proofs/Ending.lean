import Tunables.Proofs.Isolation
import Tunables.Proofs.Sources

/-!
# How a cycle can end

An executor may choose its answers by what it was asked before, fail in any way, and
a deadline or a cancellation may come in place of an answer.  A cycle ends under all
of them: with a result, with an error of its own, or with the interruption that came
as the last answer.  The catalog behind the merge can always be built.
-/

namespace Tunables

namespace Talk

variable {α β : Type}

/-- What a talk comes to with an executor that chooses each answer by the exchanges
so far. -/
def play (choose : List Exchange → Command → Answer) (past : List Exchange) :
    Talk α → List Exchange × α
  | .done value => (past, value)
  | .say _ next => next.play choose past
  | .ask command resume =>
      (resume (choose past command)).play choose (past ++ [⟨command, choose past command⟩])

theorem exists_endsWith_play (choose : List Exchange → Command → Answer) (past : List Exchange)
    (talk : Talk α) :
    ∃ exchanges, (talk.play choose past).1 = past ++ exchanges ∧
      talk.EndsWith exchanges (talk.play choose past).2 := by
  induction talk generalizing past with
  | done value => exact ⟨[], (List.append_nil past).symm, .done value⟩
  | say entry next ih =>
      obtain ⟨exchanges, played, ends⟩ := ih past
      exact ⟨exchanges, played, .say ends⟩
  | ask command resume ih =>
      obtain ⟨exchanges, played, ends⟩ :=
        ih (choose past command) (past ++ [⟨command, choose past command⟩])
      refine ⟨⟨command, choose past command⟩ :: exchanges, ?_, .ask ends⟩
      rw [play, played, List.append_assoc]
      rfl

/-- A run in time, cut off or not, is one of the ways in which a talk can end. -/
theorem exists_endsWith_run (script : Script) (now : Moment) (cutoffs : Cutoffs)
    (talk : Talk α) :
    ∃ exchanges, talk.EndsWith exchanges (talk.run script now cutoffs).value := by
  obtain ⟨exchanges, ends, -⟩ := exists_isSourced_runWith script.behaviour now cutoffs talk
  rw [run_eq_runWith]
  exact ⟨exchanges, ends⟩

/-! ## Where a fault comes from -/

/-- When work fails for a fault, this fault was the last answer. -/
def FailsAtFault (talk : Talk (Except Failure α)) : Prop :=
  ∀ exchanges fault, talk.EndsWith exchanges (.error (.fault fault)) →
    ∃ before command, exchanges = before ++ [⟨command, .error fault⟩]

theorem failsAtFault_done_ok (value : α) :
    (Talk.done (.ok value) : Talk (Except Failure α)).FailsAtFault := by
  intro exchanges fault ends
  cases (endsWith_done_iff.mp ends).2

theorem endsWith_done_error {failure : Failure} {exchanges : List Exchange} {fault : Fault}
    (ends : (Talk.done (.error failure) : Talk (Except Failure α)).EndsWith exchanges
      (.error (.fault fault))) : exchanges = [] ∧ failure = .fault fault := by
  obtain ⟨rfl, same⟩ := endsWith_done_iff.mp ends
  exact ⟨rfl, (Except.error.inj same).symm⟩

theorem FailsAtFault.bind {talk : Talk (Except Failure α)}
    {next : Except Failure α → Talk (Except Failure β)} (first : talk.FailsAtFault)
    (second : ∀ value, (next (.ok value)).FailsAtFault)
    (passes : ∀ failure exchanges fault,
      (next (.error failure)).EndsWith exchanges (.error (.fault fault)) →
      exchanges = [] ∧ failure = .fault fault) :
    (talk.bind next).FailsAtFault := by
  intro exchanges fault ends
  obtain ⟨before, middle, after, rfl, begun, ended⟩ := endsWith_bind_iff.mp ends
  cases middle with
  | ok value =>
      obtain ⟨later, command, rfl⟩ := second value after fault ended
      exact ⟨before ++ later, command, (List.append_assoc _ _ _).symm⟩
  | error failure =>
      obtain ⟨rfl, rfl⟩ := passes failure after fault ended
      rw [List.append_nil]
      exact first before fault begun

theorem FailsAtFault.andThen {talk : Talk (Except Failure α)}
    {next : α → Talk (Except Failure β)} (first : talk.FailsAtFault)
    (second : ∀ value, (next value).FailsAtFault) : (talk.andThen next).FailsAtFault :=
  first.bind second fun _ _ _ => endsWith_done_error

theorem FailsAtFault.mapOk {talk : Talk (Except Failure α)} {change : α → β}
    (first : talk.FailsAtFault) : (talk.map (Except.map change)).FailsAtFault :=
  first.bind (fun value => failsAtFault_done_ok (change value))
    fun _ _ _ => endsWith_done_error

end Talk

theorem namesOfReply_ne_fault (bytes : Text.Bytes) (fault : Fault) :
    namesOfReply bytes ≠ .error (.fault fault) := by
  unfold namesOfReply
  split
  · nofun
  · split <;> nofun

theorem parameterOfReply_ne_fault (name : Text) (bytes : Text.Bytes) (fault : Fault) :
    parameterOfReply name bytes ≠ .error (.fault fault) := by
  unfold parameterOfReply
  split
  · nofun
  · split
    · nofun
    · split <;> nofun

theorem failsAtFault_fetchNames : fetchNames.FailsAtFault := by
  intro exchanges fault ends
  obtain ⟨answer, later, rfl, ended⟩ := Talk.endsWith_ask_iff.mp ends
  cases answer with
  | error other =>
      obtain ⟨rfl, same⟩ := Talk.endsWith_done_iff.mp ended
      cases same
      exact ⟨[], .listing, rfl⟩
  | ok bytes =>
      have failed := (Talk.endsWith_done_iff.mp ended).2
      exact absurd failed.symm (namesOfReply_ne_fault bytes fault)

theorem failsAtFault_fetchDetail (name : Text) : (fetchDetail name).FailsAtFault := by
  intro exchanges fault ends
  obtain ⟨answer, rfl, failed⟩ := endsWith_fetchDetail_iff.mp ends
  have reply : parameterOfAnswer name answer = .error (.fault fault) := by
    unfold detailOf at failed
    cases given : parameterOfAnswer name answer with
    | ok p =>
        rw [given] at failed
        cases failed
    | error failure =>
        rw [given] at failed
        cases failed
        rfl
  cases answer with
  | error other =>
      cases reply
      exact ⟨[], .help name, rfl⟩
  | ok bytes => exact absurd reply (parameterOfReply_ne_fault name bytes fault)

theorem failsAtFault_mergeNew (name : Text) : (mergeNew fetchDetail name).FailsAtFault := by
  refine (failsAtFault_fetchDetail name).bind (fun p => Talk.failsAtFault_done_ok _) ?_
  intro failure exchanges fault ends
  dsimp only at ends
  split at ends
  · cases (Talk.endsWith_done_iff.mp (Talk.endsWith_say_iff.mp ends)).2
  · exact Talk.endsWith_done_error ends

theorem failsAtFault_mergeSorted (base : List Parameter) (names : List Text) :
    (mergeSorted fetchDetail base names).FailsAtFault := by
  apply mergeSorted_of_parts
  · exact fun _ => Talk.failsAtFault_done_ok _
  · exact fun _ change merged => merged.mapOk
  · exact fun name _ later => (failsAtFault_mergeNew name).andThen later

namespace Cycle

theorem failsAtFault_gather (previous : Catalog) : (gather previous).FailsAtFault := by
  refine failsAtFault_fetchNames.bind (fun names => (failsAtFault_mergeSorted _ _).mapOk) ?_
  intro failure exchanges fault ends
  dsimp only at ends
  split at ends
  · cases (Talk.endsWith_done_iff.mp (Talk.endsWith_say_iff.mp ends)).2
  · exact Talk.endsWith_done_error ends

/-- The three ways in which a cycle may end over some exchanges. -/
inductive EndsProperly (exchanges : List Exchange) : Except CycleStop CycleResult → Prop where
  | result (result : CycleResult) : EndsProperly exchanges (.ok result)
  | failed (error : CycleError) : EndsProperly exchanges (.error (.failed error))
  | interrupted {before : List Exchange} {command : Command} {detail : Text} :
      exchanges = before ++ [⟨command, .error (.interrupted detail)⟩] →
      EndsProperly exchanges (.error (.interrupted detail))

variable {previous : Catalog} {limit : Timeout} {exchanges : List Exchange}
  {outcome : Except CycleStop CycleResult}

theorem endsProperly_giveUp {failure : Failure}
    (source : ∀ fault, failure = .fault fault →
      ∃ before command, exchanges = before ++ [⟨command, .error fault⟩])
    (ends : (giveUp limit failure).EndsWith [] outcome) : EndsProperly exchanges outcome := by
  obtain ⟨-, rfl⟩ := Talk.endsWith_done_iff.mp (Talk.endsWith_sayAll_iff.mp ends)
  split
  · exact .failed _
  · exact .failed _
  · next detail =>
      obtain ⟨before, command, last⟩ := source _ rfl
      exact .interrupted last
  · exact .failed _

/-- Every ending of a cycle is one of the three. -/
theorem endsProperly_of_endsWith (ends : (talk previous limit).EndsWith exchanges outcome) :
    EndsProperly exchanges outcome := by
  obtain ⟨first, gathered, second, rfl, asked, concluded⟩ := Talk.endsWith_bind_iff.mp ends
  rcases gathered with failure | failure | m
  · -- Nothing is asked after the failure, so its fault stays the last answer.
    have quiet : second = [] :=
      (Talk.endsWith_done_iff.mp (Talk.endsWith_sayAll_iff.mp concluded)).1
    subst quiet
    rw [List.append_nil]
    refine endsProperly_giveUp ?_ concluded
    rintro fault rfl
    exact failsAtFault_gather previous first fault asked
  · obtain ⟨-, rfl⟩ := Talk.endsWith_done_iff.mp concluded
    exact .failed _
  · obtain ⟨listing, names, answers, -, -, -, rfl⟩ := endsWith_gather_ok_iff.mp asked
    obtain ⟨-, rfl⟩ := endsWith_conclude_mergeOf_iff.mp concluded
    exact .result _

/-- Whatever the executor does and however the cycle is cut off, it ends in one of the
three ways, and the parameters of its merge make a catalog. -/
theorem talk_ends_properly (previous : Catalog) (limit : Timeout) :
    (∀ choose, EndsProperly ((talk previous limit).play choose []).1
      ((talk previous limit).play choose []).2) ∧
    (∀ script cancellation, ∃ exchanges,
      (talk previous limit).EndsWith exchanges
        (Cycle.run previous script limit cancellation).value ∧
      EndsProperly exchanges (Cycle.run previous script limit cancellation).value) ∧
    ∀ exchanges m, (gather previous).EndsWith exchanges (.ok (.ok m)) →
      ∃ catalog, Catalog.ofParameters m.parameters = .ok catalog := by
  refine ⟨?_, ?_, ?_⟩
  · intro choose
    obtain ⟨exchanges, played, ends⟩ := Talk.exists_endsWith_play choose [] (talk previous limit)
    rw [played, List.nil_append]
    exact endsProperly_of_endsWith ends
  · intro script cancellation
    obtain ⟨exchanges, ends⟩ := Talk.exists_endsWith_run script 0
      ⟨limit.deadline 0, cancellation⟩ (talk previous limit)
    exact ⟨exchanges, ends, endsProperly_of_endsWith ends⟩
  · intro exchanges m ends
    obtain ⟨listing, names, answers, -, -, -, rfl⟩ := endsWith_gather_ok_iff.mp ends
    exact ⟨_, Catalog.ofParameters_of_pairwise (pairwise_mergeOf previous names answers)⟩

/-- A listing that is out of order and names `a` twice. -/
def unsortedListing : Text.Bytes :=
  Text.Utf8.encode "[\"c\",\"a\",\"b\",\"a\"]"

/-- The parameters `b` and `d` are known. -/
def knownCatalog : Catalog :=
  ⟨[.named "b", .named "d"], by decide⟩

/-- There is a record for `a`, and an empty object for every other name. -/
def recordOfFirst (name : Text) : Answer :=
  .ok (if name = "a" then Text.Utf8.encode "\x7b\"name\":\"a\"\x7d" else [123, 125])

theorem namesOfReply_unsortedListing :
    namesOfReply unsortedListing = .ok ["c", "a", "b", "a"] := by
  apply eq_ok_of_toOption_eq_some
  decide +kernel

theorem newNames_unsorted :
    newNames knownCatalog ["c", "a", "b", "a"] = [("a" : Text), "c"] := by
  apply eq_of_pairwise_of_mem_iff (pairwise_newNames _ _) (by decide)
  intro name
  rw [mem_newNames]
  simp only [knownCatalog, Catalog.names, Parameter.named, List.map_cons, List.map_nil,
    List.mem_cons, List.not_mem_nil, or_false]
  constructor
  · rintro ⟨rfl | rfl | rfl | rfl, new⟩
    · exact .inr rfl
    · exact .inl rfl
    · exact absurd (.inl rfl) new
    · exact .inl rfl
  · rintro (rfl | rfl)
    · decide
    · decide

/-- After a listing with known and new names, of which one has no record, the merge makes
a catalog. -/
theorem talk_ends_properly_unsorted :
    (gather knownCatalog).EndsWith
        [⟨.listing, .ok unsortedListing⟩, ⟨.help "a", recordOfFirst "a"⟩,
          ⟨.help "c", recordOfFirst "c"⟩]
        (.ok (.ok (mergeOf knownCatalog ["c", "a", "b", "a"] recordOfFirst))) ∧
      ∃ catalog,
        Catalog.ofParameters
          (mergeOf knownCatalog ["c", "a", "b", "a"] recordOfFirst).parameters = .ok catalog ∧
        ∀ name, name ∈ catalog.names ↔ name = "a" ∨ name = "b" := by
  have ends : (gather knownCatalog).EndsWith
      [⟨.listing, .ok unsortedListing⟩, ⟨.help "a", recordOfFirst "a"⟩,
        ⟨.help "c", recordOfFirst "c"⟩]
      (.ok (.ok (mergeOf knownCatalog ["c", "a", "b", "a"] recordOfFirst))) := by
    refine endsWith_gather_ok_iff.mpr
      ⟨_, _, recordOfFirst, namesOfReply_unsortedListing, ?_, ?_, rfl⟩
    · rw [newNames_unsorted]
      rfl
    · intro name new
      rw [newNames_unsorted] at new
      rw [isSettled_outcomeOf_iff]
      rcases List.mem_pair.mp new with rfl | rfl
      · decide +kernel
      · decide +kernel
  obtain ⟨catalog, made⟩ := (talk_ends_properly knownCatalog none).2.2 _ _ ends
  refine ⟨ends, catalog, made, ?_⟩
  have built : (resultOf knownCatalog ["c", "a", "b", "a"] recordOfFirst).catalog = catalog :=
    Except.ok.inj ((Catalog.ofParameters_of_pairwise (pairwise_mergeOf _ _ _)).symm.trans made)
  intro name
  rw [← built, mem_names_resultOf, mem_added_resultOf, ← mem_newNames, newNames_unsorted]
  constructor
  · rintro (⟨listed, known⟩ | ⟨new, fetched⟩)
    · rcases List.mem_pair.mp known with rfl | rfl
      · exact .inr rfl
      · exact absurd listed (by decide)
    · rcases List.mem_pair.mp new with rfl | rfl
      · exact .inl rfl
      · exact absurd (isOk_outcomeOf_iff.mpr fetched) (by decide +kernel)
  · rintro (rfl | rfl)
    · exact .inr ⟨List.mem_cons_self, isOk_outcomeOf_iff.mp (by decide +kernel)⟩
    · exact .inl ⟨by decide, List.mem_cons_self⟩

end Cycle
end Tunables
