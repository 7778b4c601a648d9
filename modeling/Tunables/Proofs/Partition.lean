import Mathlib.Data.List.Nodup
import Tunables.Proofs.Cycle

/-!
# How a cycle splits the names

The distinct names of a listing fall into three parts: those of known parameters,
those that were fetched, and those that could not be fetched.  What a cycle
reports, and the catalog that it builds, are determined by this split.
-/

namespace Tunables
namespace Cycle

/-- A result that brings a catalog in line with the listed names, where `answers`
are the answers to the requests for help. -/
structure BringsInLine (previous : Catalog) (names : List Text)
    (answers : Text → Answer) (result : CycleResult) : Prop where
  removed_ascends : result.report.removed.Pairwise (· < ·)
  mem_removed : ∀ name, name ∈ result.report.removed ↔ name ∈ previous.names ∧ name ∉ names
  added_ascends : result.report.added.Pairwise (· < ·)
  mem_added : ∀ name, name ∈ result.report.added ↔
    (name ∈ names ∧ name ∉ previous.names) ∧
      ∃ p, parameterOfAnswer name (answers name) = .ok p
  failed_ascends : result.report.failed.Pairwise (· < ·)
  mem_failed : ∀ name, name ∈ result.report.failed ↔
    (name ∈ names ∧ name ∉ previous.names) ∧
      ∃ failure, parameterOfAnswer name (answers name) = .error failure
  split : ∀ name ∈ names,
    (name ∈ previous.names ∧ name ∉ result.report.added ∧ name ∉ result.report.failed) ∨
    (name ∉ previous.names ∧ name ∈ result.report.added ∧ name ∉ result.report.failed) ∨
    (name ∉ previous.names ∧ name ∉ result.report.added ∧ name ∈ result.report.failed)
  names_ascend : result.catalog.names.Pairwise (· < ·)
  mem_names : ∀ name, name ∈ result.catalog.names ↔
    (name ∈ names ∧ name ∈ previous.names) ∨ name ∈ result.report.added
  get?_kept : ∀ name ∈ names, name ∈ previous.names →
    result.catalog.get? name = previous.get? name
  get?_added : ∀ name ∈ result.report.added, ∃ p,
    parameterOfAnswer name (answers name) = .ok p ∧
      result.catalog.get? name = some { p with name := name }
  total_eq : result.report.total = result.catalog.size
  size_eq : result.catalog.size =
    previous.size - result.report.removed.length + result.report.added.length
  removed_le : result.report.removed.length ≤ previous.size

variable {previous : Catalog} {names : List Text} {answers : Text → Answer}
  {name : Text}

/-! ## The result under given answers -/

theorem mem_newNames :
    name ∈ newNames previous names ↔ name ∈ names ∧ name ∉ previous.names := by
  rw [newNames, Merge.mem_newNames, mem_distinctSorted]
  exact Iff.rfl

theorem pairwise_newNames (previous : Catalog) (names : List Text) :
    (newNames previous names).Pairwise (· < ·) :=
  (pairwise_distinctSorted names).sublist List.filter_sublist

theorem isOk_outcomeOf_iff :
    (outcomeOf answers name).isOk = true ↔
      ∃ p, parameterOfAnswer name (answers name) = .ok p := by
  unfold outcomeOf detailOf
  cases parameterOfAnswer name (answers name) with
  | ok p => exact ⟨fun _ => ⟨p, rfl⟩, fun _ => rfl⟩
  | error failure => exact ⟨nofun, fun ⟨_, equal⟩ => nomatch equal⟩

theorem not_isOk_outcomeOf_iff :
    (!(outcomeOf answers name).isOk) = true ↔
      ∃ failure, parameterOfAnswer name (answers name) = .error failure := by
  unfold outcomeOf detailOf
  cases parameterOfAnswer name (answers name) with
  | ok p => exact ⟨nofun, fun ⟨_, equal⟩ => nomatch equal⟩
  | error failure => exact ⟨fun _ => ⟨failure, rfl⟩, fun _ => rfl⟩

theorem mem_removed_resultOf :
    name ∈ (resultOf previous names answers).report.removed ↔
      name ∈ previous.names ∧ name ∉ names := by
  change name ∈ (previous.names.filter fun name => name ∉ distinctSorted names) ↔ _
  rw [List.mem_filter, decide_eq_true_iff, mem_distinctSorted]

theorem mem_added_resultOf :
    name ∈ (resultOf previous names answers).report.added ↔
      (name ∈ names ∧ name ∉ previous.names) ∧
        ∃ p, parameterOfAnswer name (answers name) = .ok p := by
  change name ∈ (newNames previous names).filter (fun name => (outcomeOf answers name).isOk) ↔ _
  rw [List.mem_filter, mem_newNames, isOk_outcomeOf_iff]

theorem mem_failed_resultOf :
    name ∈ (resultOf previous names answers).report.failed ↔
      (name ∈ names ∧ name ∉ previous.names) ∧
        ∃ failure, parameterOfAnswer name (answers name) = .error failure := by
  change name ∈ (newNames previous names).filter (fun name => !(outcomeOf answers name).isOk) ↔ _
  rw [List.mem_filter, mem_newNames, not_isOk_outcomeOf_iff]

theorem get?_resultOf (listed : name ∈ names) :
    (resultOf previous names answers).catalog.get? name =
      (previous.get? name).or (outcomeOf answers name).toOption :=
  Merge.find?_parameters (name_of_outcomeOf answers) (mem_distinctSorted.mpr listed)

theorem get?_kept_resultOf (listed : name ∈ names) (known : name ∈ previous.names) :
    (resultOf previous names answers).catalog.get? name = previous.get? name := by
  rw [get?_resultOf listed, Option.or_of_isSome (previous.isSome_get?_iff.mpr known)]

theorem get?_added_resultOf (listed : name ∈ names) (new : name ∉ previous.names) :
    (resultOf previous names answers).catalog.get? name =
      (outcomeOf answers name).toOption := by
  have absent : previous.get? name = none := Merge.find?_name_eq_none new
  rw [get?_resultOf listed, absent, Option.none_or]

theorem mem_names_resultOf :
    name ∈ (resultOf previous names answers).catalog.names ↔
      (name ∈ names ∧ name ∈ previous.names) ∨
        name ∈ (resultOf previous names answers).report.added := by
  have entries : (resultOf previous names answers).catalog.names =
      (distinctSorted names).filter fun name =>
        (Merge.parameter? previous.parameters (outcomeOf answers) name).isSome :=
    Merge.map_name_parameters (name_of_outcomeOf answers)
  rw [entries, List.mem_filter, mem_distinctSorted, Merge.parameter?, Option.isSome_or,
    Bool.or_eq_true, mem_added_resultOf, ← isOk_outcomeOf_iff]
  change _ ∧ ((previous.get? name).isSome = true ∨ _) ↔ _
  rw [Catalog.isSome_get?_iff]
  have fetched : (outcomeOf answers name).toOption.isSome = true ↔
      (outcomeOf answers name).isOk = true := by
    cases outcomeOf answers name with
    | ok p => exact Iff.rfl
    | error failure => exact Iff.rfl
  rw [fetched]
  constructor
  · intro parts
    obtain ⟨listed, known | ok⟩ := parts
    · exact .inl ⟨listed, known⟩
    · by_cases known : name ∈ previous.names
      · exact .inl ⟨listed, known⟩
      · exact .inr ⟨⟨listed, known⟩, ok⟩
  · intro named
    rcases named with ⟨listed, known⟩ | ⟨⟨listed, -⟩, ok⟩
    · exact ⟨listed, .inl known⟩
    · exact ⟨listed, .inr ok⟩

/-- The names that are kept and those that are added make up the new catalog,
and the kept and the removed ones make up the old catalog. -/
theorem size_resultOf (previous : Catalog) (names : List Text)
    (answers : Text → Answer) :
    (resultOf previous names answers).catalog.size +
        (resultOf previous names answers).report.removed.length =
      previous.size + (resultOf previous names answers).report.added.length := by
  let result := resultOf previous names answers
  let kept := previous.names.filter fun name => name ∈ names
  have disjoint : ∀ first ∈ kept, ∀ second ∈ result.report.added, first ≠ second := by
    intro first inKept second inAdded same
    subst same
    exact (mem_added_resultOf.mp inAdded).1.2 (List.mem_filter.mp inKept).1
  have distinct : (kept ++ result.report.added).Nodup := by
    refine List.nodup_append.mpr ⟨?_, ?_, disjoint⟩
    · exact previous.nodup_names.sublist List.filter_sublist
    · exact ((pairwise_newNames previous names).imp Std.ne_of_lt).sublist List.filter_sublist
  have after : result.catalog.names.Perm (kept ++ result.report.added) := by
    rw [List.perm_ext_iff_of_nodup result.catalog.nodup_names distinct]
    intro name
    rw [List.mem_append, List.mem_filter, decide_eq_true_iff, and_comm]
    exact mem_names_resultOf
  have before : previous.names.length = kept.length + result.report.removed.length := by
    have removed : result.report.removed =
        previous.names.filter fun name => !decide (name ∈ names) := by
      change (previous.names.filter fun name => name ∉ distinctSorted names) = _
      apply List.filter_congr
      intro name _member
      rw [← decide_not]
      exact decide_eq_decide.mpr (not_congr mem_distinctSorted)
    rw [removed]
    exact List.length_eq_length_filter_add _
  have sizeAfter := after.length_eq
  rw [List.length_append] at sizeAfter
  simp only [Catalog.names, List.length_map] at before sizeAfter
  change result.catalog.parameters.length + result.report.removed.length =
    previous.parameters.length + result.report.added.length
  omega

/-- A listed name is known, or it is new and was fetched, or it is new and was
not. -/
theorem split_resultOf (listed : name ∈ names) :
    (name ∈ previous.names ∧ name ∉ (resultOf previous names answers).report.added ∧
      name ∉ (resultOf previous names answers).report.failed) ∨
    (name ∉ previous.names ∧ name ∈ (resultOf previous names answers).report.added ∧
      name ∉ (resultOf previous names answers).report.failed) ∨
    (name ∉ previous.names ∧ name ∉ (resultOf previous names answers).report.added ∧
      name ∈ (resultOf previous names answers).report.failed) := by
  rw [mem_added_resultOf, mem_failed_resultOf]
  by_cases known : name ∈ previous.names
  · exact .inl ⟨known, fun added => added.1.2 known, fun failed => failed.1.2 known⟩
  · right
    cases reply : parameterOfAnswer name (answers name) with
    | ok p =>
        refine .inl ⟨known, ⟨⟨listed, known⟩, p, rfl⟩, ?_⟩
        intro parts
        obtain ⟨-, failure, equal⟩ := parts
        cases equal
    | error failure =>
        refine .inr ⟨known, ?_, ⟨listed, known⟩, failure, rfl⟩
        intro parts
        obtain ⟨-, p, equal⟩ := parts
        cases equal

theorem removed_length_le (previous : Catalog) (names : List Text)
    (answers : Text → Answer) :
    (resultOf previous names answers).report.removed.length ≤ previous.size := by
  have shorter := (List.filter_sublist (l := previous.names)
    (p := fun name => name ∉ distinctSorted names)).length_le
  rwa [Catalog.names, List.length_map] at shorter

theorem bringsInLine_resultOf (previous : Catalog) (names : List Text)
    (answers : Text → Answer) :
    BringsInLine previous names answers (resultOf previous names answers) where
  removed_ascends := previous.ascending.sublist List.filter_sublist
  mem_removed _ := mem_removed_resultOf
  added_ascends := (pairwise_newNames previous names).sublist List.filter_sublist
  mem_added _ := mem_added_resultOf
  failed_ascends := (pairwise_newNames previous names).sublist List.filter_sublist
  mem_failed _ := mem_failed_resultOf
  split _ := split_resultOf
  names_ascend := (resultOf previous names answers).catalog.ascending
  mem_names _ := mem_names_resultOf
  get?_kept _ := get?_kept_resultOf
  get?_added name added := by
    obtain ⟨⟨listed, new⟩, p, fetched⟩ := mem_added_resultOf.mp added
    refine ⟨p, fetched, ?_⟩
    rw [get?_added_resultOf listed new, outcomeOf, detailOf, fetched]
    rfl
  total_eq := rfl
  size_eq := by
    have balance := size_resultOf previous names answers
    have bounded := removed_length_le previous names answers
    omega
  removed_le := removed_length_le previous names answers

/-! ## The result is determined -/

/-- A catalog is determined by what it answers to its names. -/
theorem parameters_eq_filterMap_get? (c : Catalog) :
    c.parameters = c.names.filterMap c.get? := by
  rw [Catalog.names, List.filterMap_map]
  have found : ∀ p ∈ c.parameters, c.get? p.name = some p := by
    intro p member
    have some := c.isSome_get?_iff.mpr (List.mem_map.mpr ⟨p, member, rfl⟩)
    obtain ⟨q, equal⟩ := Option.isSome_iff_exists.mp some
    have inCatalog := List.mem_of_find?_eq_some equal
    have sameName : q.name = p.name := by simpa using List.find?_some equal
    rw [equal, List.inj_on_of_nodup_map c.nodup_names inCatalog member sameName]
  have kept : c.parameters.filterMap (c.get? ∘ (·.name)) = c.parameters.filterMap some :=
    List.filterMap_congr found
  rw [kept, List.filterMap_some]

theorem catalog_eq_of_get? {c d : Catalog} (names : c.names = d.names)
    (same : ∀ name ∈ c.names, c.get? name = d.get? name) : c = d := by
  apply Catalog.eq_of_parameters_eq
  rw [parameters_eq_filterMap_get? c, parameters_eq_filterMap_get? d, ← names]
  exact List.filterMap_congr same

theorem eq_of_pairwise_of_mem_iff {first second : List Text}
    (firstAscends : first.Pairwise (· < ·)) (secondAscends : second.Pairwise (· < ·))
    (same : ∀ name, name ∈ first ↔ name ∈ second) : first = second := by
  have permutation : first.Perm second :=
    (List.perm_ext_iff_of_nodup (firstAscends.imp Std.ne_of_lt)
      (secondAscends.imp Std.ne_of_lt)).mpr same
  exact permutation.eq_of_pairwise
    (fun a b _ _ less greater => absurd greater (Std.not_gt_of_lt less))
    firstAscends secondAscends

theorem BringsInLine.unique {first second : CycleResult}
    (firstFits : BringsInLine previous names answers first)
    (secondFits : BringsInLine previous names answers second) : first = second := by
  have removed : first.report.removed = second.report.removed :=
    eq_of_pairwise_of_mem_iff firstFits.removed_ascends secondFits.removed_ascends
      fun name => (firstFits.mem_removed name).trans (secondFits.mem_removed name).symm
  have added : first.report.added = second.report.added :=
    eq_of_pairwise_of_mem_iff firstFits.added_ascends secondFits.added_ascends
      fun name => (firstFits.mem_added name).trans (secondFits.mem_added name).symm
  have failed : first.report.failed = second.report.failed :=
    eq_of_pairwise_of_mem_iff firstFits.failed_ascends secondFits.failed_ascends
      fun name => (firstFits.mem_failed name).trans (secondFits.mem_failed name).symm
  have catalog : first.catalog = second.catalog := by
    apply catalog_eq_of_get?
    · apply eq_of_pairwise_of_mem_iff firstFits.names_ascend secondFits.names_ascend
      intro name
      rw [firstFits.mem_names, secondFits.mem_names, added]
    · intro name member
      rcases (firstFits.mem_names name).mp member with ⟨listed, known⟩ | new
      · rw [firstFits.get?_kept name listed known, secondFits.get?_kept name listed known]
      · obtain ⟨p, fetched, firstEntry⟩ := firstFits.get?_added name new
        obtain ⟨q, fetchedAgain, secondEntry⟩ := secondFits.get?_added name (added ▸ new)
        rw [fetched] at fetchedAgain
        cases fetchedAgain
        rw [firstEntry, secondEntry]
  have total : first.report.total = second.report.total := by
    rw [firstFits.total_eq, secondFits.total_eq, catalog]
  obtain ⟨firstCatalog, ⟨_, _, _, _⟩⟩ := first
  obtain ⟨secondCatalog, ⟨_, _, _, _⟩⟩ := second
  cases catalog
  cases removed
  cases added
  cases failed
  cases total
  rfl

/-! ## The split -/

theorem isSettled_outcomeOf_iff :
    IsSettled (outcomeOf answers name) ↔ IsSettled (parameterOfAnswer name (answers name)) := by
  unfold IsSettled outcomeOf detailOf
  cases parameterOfAnswer name (answers name) with
  | ok p => exact ⟨nofun, nofun⟩
  | error failure => exact Iff.rfl

/-- A cycle succeeds exactly over a listing that can be read, followed by one
request for help on each new name in ascending order, each of which gives a
parameter or a failure that concerns its name only; and its result is the one
that brings the catalog in line with the listed names. -/
theorem talk_ends_iff_bringsInLine {previous : Catalog} {limit : Timeout}
    {exchanges : List Exchange} {result : CycleResult} :
    (talk previous limit).EndsWith exchanges (.ok result) ↔
      ∃ listing names answers, namesOfReply listing = .ok names ∧
        exchanges =
          ⟨.listing, .ok listing⟩ :: helpExchanges (newNames previous names) answers ∧
        (∀ name ∈ newNames previous names,
          IsSettled (parameterOfAnswer name (answers name))) ∧
        BringsInLine previous names answers result := by
  rw [endsWith_talk_ok_iff]
  simp only [isSettled_outcomeOf_iff]
  constructor
  · intro parts
    obtain ⟨listing, names, answers, decoded, exchanged, settled, rfl⟩ := parts
    exact ⟨listing, names, answers, decoded, exchanged, settled,
      bringsInLine_resultOf previous names answers⟩
  · intro parts
    obtain ⟨listing, names, answers, decoded, exchanged, settled, fits⟩ := parts
    exact ⟨listing, names, answers, decoded, exchanged, settled,
      fits.unique (bringsInLine_resultOf previous names answers)⟩

end Cycle
end Tunables
