import Mathlib.Data.List.Perm.Basic
import Tunables.Cycle
import Tunables.Proofs.Merge

/-!
# What a cycle makes of a catalog

Seen from the names, a cycle that succeeds keeps the parameters whose names are
listed, drops the others, and adds what was fetched for the new names.
-/

namespace Tunables

namespace Merge

variable {base : List Parameter} {names : List Text} {name : Text}
  {outcome : Text → Except Failure Parameter}

theorem name_of_parameter? (named : ∀ name p, outcome name = .ok p → p.name = name)
    {p : Parameter} (entry : parameter? base outcome name = some p) : p.name = name := by
  rcases Option.or_eq_some_iff.mp entry with found | ⟨-, fetched⟩
  · simpa using List.find?_some found
  · cases outcomeHere : outcome name with
    | error failure =>
        rw [outcomeHere] at fetched
        cases fetched
    | ok q =>
        rw [outcomeHere] at fetched
        cases fetched
        exact named name p outcomeHere

/-- The names after a merge are the listed ones that have a parameter. -/
theorem map_name_parameters (named : ∀ name p, outcome name = .ok p → p.name = name) :
    (ofOutcomes base names outcome).parameters.map (·.name) =
      names.filter fun name => (parameter? base outcome name).isSome := by
  unfold ofOutcomes
  rw [List.map_filterMap, ← List.filterMap_eq_filter]
  apply List.filterMap_congr
  intro name _listed
  cases entry : parameter? base outcome name with
  | none => simp [Option.guard, entry]
  | some p => simp [Option.guard, entry, name_of_parameter? named entry]

theorem find?_parameters (named : ∀ name p, outcome name = .ok p → p.name = name)
    (listed : name ∈ names) :
    (ofOutcomes base names outcome).parameters.find? (·.name == name) =
      parameter? base outcome name := by
  unfold ofOutcomes
  dsimp only
  induction names with
  | nil => cases listed
  | cons first rest ih =>
      cases entry : parameter? base outcome first with
      | none =>
          rw [List.filterMap_cons_none entry]
          by_cases later : name ∈ rest
          · exact ih later
          · have same : name = first := (List.mem_cons.mp listed).resolve_right later
            subst same
            rw [entry, List.find?_eq_none]
            intro p member
            obtain ⟨other, inRest, otherEntry⟩ := List.mem_filterMap.mp member
            have otherName := name_of_parameter? named otherEntry
            intro equal
            exact later ((otherName.symm.trans (beq_iff_eq.mp equal)) ▸ inRest)
      | some p =>
          rw [List.filterMap_cons_some entry]
          have firstName := name_of_parameter? named entry
          by_cases same : first = name
          · subst same
            rw [List.find?_cons_of_pos (by simpa using firstName), entry]
          · rw [List.find?_cons_of_neg (by simpa [firstName] using same)]
            exact ih ((List.mem_cons.mp listed).resolve_left fun equal => same equal.symm)

end Merge

/-- A listing is one command, and its outcome is what the answer says. -/
theorem endsWith_fetchNames_ok_iff {exchanges : List Exchange} {names : List Text} :
    fetchNames.EndsWith exchanges (.ok names) ↔
      ∃ listing, exchanges = [⟨.listing, .ok listing⟩] ∧ namesOfReply listing = .ok names := by
  unfold fetchNames
  rw [Talk.endsWith_ask_iff]
  constructor
  · intro parts
    obtain ⟨answer, later, rfl, ends⟩ := parts
    cases answer with
    | error fault => cases (Talk.endsWith_done_iff.mp ends).2
    | ok listing =>
        obtain ⟨rfl, listed⟩ := Talk.endsWith_done_iff.mp ends
        exact ⟨listing, rfl, listed.symm⟩
  · intro parts
    obtain ⟨listing, rfl, listed⟩ := parts
    exact ⟨.ok listing, [], rfl, Talk.endsWith_done_iff.mpr ⟨rfl, listed.symm⟩⟩

theorem name_of_outcomeOf (answers : Text → Answer) (name : Text) (p : Parameter)
    (fetched : outcomeOf answers name = .ok p) : p.name = name :=
  name_of_detailOf fetched

namespace Cycle

variable (previous : Catalog) (names : List Text) (answers : Text → Answer)

/-- The names that a cycle asks help for, in ascending order. -/
def newNames : List Text :=
  Merge.newNames previous.parameters (distinctSorted names)

/-- What a cycle merges under given answers. -/
def mergeOf : Merge :=
  .ofOutcomes previous.parameters (distinctSorted names) (outcomeOf answers)

theorem pairwise_mergeOf :
    ((mergeOf previous names answers).parameters.map (·.name)).Pairwise (· < ·) := by
  rw [mergeOf, Merge.map_name_parameters (name_of_outcomeOf answers)]
  exact (pairwise_distinctSorted names).sublist List.filter_sublist

/-- The catalog that a cycle builds under given answers. -/
def catalogOf : Catalog :=
  ⟨(mergeOf previous names answers).parameters, pairwise_mergeOf previous names answers⟩

/-- The result of a cycle under given answers. -/
def resultOf : CycleResult :=
  ⟨catalogOf previous names answers,
    reportOf (mergeOf previous names answers) (catalogOf previous names answers)⟩

variable {previous names answers}

theorem endsWith_gather_ok_iff {exchanges : List Exchange} {m : Merge} :
    (gather previous).EndsWith exchanges (.ok (.ok m)) ↔
      ∃ listing names answers, namesOfReply listing = .ok names ∧
        exchanges =
          ⟨.listing, .ok listing⟩ :: helpExchanges (newNames previous names) answers ∧
        (∀ name ∈ newNames previous names, IsSettled (outcomeOf answers name)) ∧
        m = mergeOf previous names answers := by
  unfold gather
  rw [Talk.endsWith_bind_iff]
  constructor
  · intro parts
    obtain ⟨first, listed, second, rfl, asked, merged⟩ := parts
    cases listed with
    | error failure =>
        dsimp only at merged
        split at merged
        · cases (Talk.endsWith_done_iff.mp (Talk.endsWith_say_iff.mp merged)).2
        · cases (Talk.endsWith_done_iff.mp merged).2
    | ok names =>
        obtain ⟨listing, rfl, decoded⟩ := endsWith_fetchNames_ok_iff.mp asked
        obtain ⟨inner, ends, equal⟩ := Talk.endsWith_mapOk_iff.mp merged
        cases equal
        rw [mergeParameters, sortByText_name_of_pairwise previous.ascending] at ends
        obtain ⟨answers, rfl, settled, rfl⟩ :=
          (endsWith_mergeSorted_ok_iff previous.ascending (pairwise_distinctSorted names)).mp ends
        exact ⟨listing, names, answers, decoded, rfl, settled, rfl⟩
  · intro parts
    obtain ⟨listing, names, answers, decoded, rfl, settled, rfl⟩ := parts
    refine ⟨[⟨.listing, .ok listing⟩], .ok names, helpExchanges _ answers, rfl,
      endsWith_fetchNames_ok_iff.mpr ⟨listing, rfl, decoded⟩, ?_⟩
    refine Talk.endsWith_mapOk_iff.mpr ⟨mergeOf previous names answers, ?_, rfl⟩
    rw [mergeParameters, sortByText_name_of_pairwise previous.ascending]
    exact (endsWith_mergeSorted_ok_iff previous.ascending (pairwise_distinctSorted names)).mpr
      ⟨answers, rfl, settled, rfl⟩

theorem endsWith_conclude_mergeOf_iff {exchanges : List Exchange}
    {outcome : Except CycleStop CycleResult} :
    (conclude (mergeOf previous names answers)).EndsWith exchanges outcome ↔
      exchanges = [] ∧ outcome = .ok (resultOf previous names answers) := by
  unfold conclude
  rw [Catalog.ofParameters_of_pairwise (pairwise_mergeOf previous names answers)]
  exact Talk.endsWith_sayAll_iff.trans Talk.endsWith_done_iff

/-- A cycle succeeds over a listing that can be read, and one request for help on
each new name that succeeds or fails in a way that concerns this name only. -/
theorem endsWith_talk_ok_iff {limit : Timeout} {exchanges : List Exchange}
    {result : CycleResult} :
    (talk previous limit).EndsWith exchanges (.ok result) ↔
      ∃ listing names answers, namesOfReply listing = .ok names ∧
        exchanges =
          ⟨.listing, .ok listing⟩ :: helpExchanges (newNames previous names) answers ∧
        (∀ name ∈ newNames previous names, IsSettled (outcomeOf answers name)) ∧
        result = resultOf previous names answers := by
  unfold talk
  rw [Talk.endsWith_bind_iff]
  constructor
  · intro parts
    obtain ⟨first, gathered, second, rfl, asked, concluded⟩ := parts
    rcases gathered with failure | failure | m
    · cases (Talk.endsWith_done_iff.mp (Talk.endsWith_sayAll_iff.mp concluded)).2
    · cases (Talk.endsWith_done_iff.mp concluded).2
    · obtain ⟨listing, names, answers, decoded, rfl, settled, rfl⟩ :=
        endsWith_gather_ok_iff.mp asked
      obtain ⟨rfl, equal⟩ := endsWith_conclude_mergeOf_iff.mp concluded
      cases equal
      exact ⟨listing, names, answers, decoded, List.append_nil _, settled, rfl⟩
  · intro parts
    obtain ⟨listing, names, answers, decoded, rfl, settled, rfl⟩ := parts
    exact ⟨_, .ok (.ok (mergeOf previous names answers)), [], (List.append_nil _).symm,
      endsWith_gather_ok_iff.mpr ⟨listing, names, answers, decoded, rfl, settled, rfl⟩,
      endsWith_conclude_mergeOf_iff.mpr ⟨rfl, rfl⟩⟩

/-! ## Nothing listed -/

theorem eq_ok_of_toOption_eq_some {ε α : Type} {outcome : Except ε α} {value : α}
    (ends : outcome.toOption = some value) : outcome = .ok value := by
  cases outcome with
  | error failure => cases ends
  | ok other =>
      cases ends
      rfl

/-- The listing `[]`. -/
theorem namesOfReply_brackets : namesOfReply [91, 93] = .ok [] := by
  apply eq_ok_of_toOption_eq_some
  decide +kernel

theorem distinctSorted_nil : distinctSorted [] = [] := by
  rw [List.eq_nil_iff_forall_not_mem]
  intro name member
  cases mem_distinctSorted.mp member

theorem newNames_nil : newNames previous [] = [] := by
  rw [newNames, distinctSorted_nil]
  rfl

/-- When nothing is listed a cycle is over after the listing. -/
theorem endsWith_talk_of_listed_nil {limit : Timeout} {listing : Text.Bytes}
    (listed : namesOfReply listing = .ok []) (answers : Text → Answer) :
    (talk previous limit).EndsWith [⟨.listing, .ok listing⟩]
      (.ok (resultOf previous [] answers)) := by
  refine endsWith_talk_ok_iff.mpr ⟨listing, [], answers, listed, ?_, ?_, rfl⟩
  · rw [newNames_nil]
    rfl
  · intro name new
    rw [newNames_nil] at new
    cases new

theorem names_resultOf_nil : (resultOf previous [] answers).catalog.names = [] := by
  change (mergeOf previous [] answers).parameters.map (·.name) = []
  rw [mergeOf, distinctSorted_nil]
  rfl

theorem removed_resultOf_nil :
    (resultOf previous [] answers).report.removed = previous.names := by
  change (mergeOf previous [] answers).removed = _
  rw [mergeOf, distinctSorted_nil]
  exact List.filter_eq_self.mpr fun name _ => rfl

end Cycle
end Tunables
