import Mathlib.Data.List.Chain
import Tunables.Catalog
import Tunables.Cycle.Merge

/-!
# Lists in ascending order

The parameters of a catalog and the distinct names of a listing ascend strictly,
so sorting them again changes nothing, and such a list is determined by what it
holds.  The check of neighbours decides the order of the whole list, and it fails at
the first neighbours that do not ascend.
-/

namespace Tunables

/-! ## Sorting -/

/-- Items in order stay as they are when they are sorted. -/
theorem sortByText_of_pairwise {α : Type} {text : α → Text} {items : List α}
    (ascending : items.Pairwise fun a b => text a ≤ text b) :
    sortByText text items = items :=
  List.mergeSort_of_pairwise (ascending.imp fun ordered => decide_eq_true ordered)

theorem mem_sortByText {α : Type} {text : α → Text} {items : List α} {item : α} :
    item ∈ sortByText text items ↔ item ∈ items :=
  (perm_sortByText text items).mem_iff

theorem nodup_eraseDups (names : List Text) : names.eraseDups.Nodup := by
  cases names with
  | nil => exact List.nodup_nil
  | cons name rest =>
      rw [List.eraseDups_cons]
      refine List.nodup_cons.mpr ⟨?_, nodup_eraseDups (rest.filter fun other => !other == name)⟩
      simp
termination_by names.length
decreasing_by exact Nat.lt_succ_of_le (List.length_filter_le _ rest)

theorem mem_distinctSorted {names : List Text} {name : Text} :
    name ∈ distinctSorted names ↔ name ∈ names := by
  rw [distinctSorted, mem_sortByText, List.mem_eraseDups]

/-- The distinct names of a listing ascend strictly. -/
theorem pairwise_distinctSorted (names : List Text) :
    (distinctSorted names).Pairwise (· < ·) := by
  have ascending := pairwise_sortByText id names.eraseDups
  have distinct : (distinctSorted names).Nodup :=
    (perm_sortByText id names.eraseDups).nodup_iff.mpr (nodup_eraseDups names)
  refine (ascending.and distinct).imp ?_
  intro first second ⟨ordered, different⟩
  apply Std.not_le.mp
  intro reversed
  exact different (Std.le_antisymm ordered reversed)

/-! ## Strictly ascending lists -/

/-- Names that ascend strictly pass the check of neighbours. -/
theorem checkAscending_of_pairwise {names : List Text}
    (ascending : names.Pairwise (· < ·)) : checkAscending names = .ok () := by
  fun_induction checkAscending names with
  | case1 => rfl
  | case2 name => rfl
  | case3 current rest =>
      exact absurd (List.rel_of_pairwise_cons ascending List.mem_cons_self) Std.lt_irrefl
  | case4 previous current rest different greater =>
      exact absurd greater
        (Std.not_gt_of_lt (List.rel_of_pairwise_cons ascending List.mem_cons_self))
  | case5 previous current rest different notGreater ih =>
      exact ih (List.pairwise_cons.mp ascending).2

/-- Sorting parameters whose names ascend strictly changes nothing. -/
theorem sortByText_name_of_pairwise {parameters : List Parameter}
    (ascending : (parameters.map (·.name)).Pairwise (· < ·)) :
    sortByText (·.name) parameters = parameters :=
  sortByText_of_pairwise ((List.pairwise_map.mp ascending).imp Std.le_of_lt)

/-- A catalog is built from parameters that it holds when they are sorted. -/
theorem Catalog.ofParameters_of_sorted {parameters : List Parameter} {c : Catalog}
    (sorted : sortByText (·.name) parameters = c.parameters) :
    Catalog.ofParameters parameters = .ok c := by
  unfold Catalog.ofParameters
  simp only [sorted]
  split
  · rfl
  · next error failed =>
      rw [sorted, checkAscending_of_pairwise c.ascending] at failed
      cases failed

/-- Parameters whose names ascend strictly make a catalog as they are. -/
theorem Catalog.ofParameters_of_pairwise {parameters : List Parameter}
    (ascending : (parameters.map (·.name)).Pairwise (· < ·)) :
    Catalog.ofParameters parameters = .ok ⟨parameters, ascending⟩ :=
  Catalog.ofParameters_of_sorted (sortByText_name_of_pairwise ascending)

theorem Catalog.nodup_names (c : Catalog) : c.names.Nodup :=
  c.ascending.imp Std.ne_of_lt

theorem Catalog.eq_of_parameters_eq {c d : Catalog} (same : c.parameters = d.parameters) :
    c = d := by
  cases c
  cases d
  cases same
  rfl

theorem Catalog.isSome_get?_iff (c : Catalog) {name : Text} :
    (c.get? name).isSome = true ↔ name ∈ c.names := by
  rw [Catalog.get?, List.find?_isSome, Catalog.names, List.mem_map]
  simp only [beq_iff_eq]

/-! ## The first break -/

/-- Neighbours that do not ascend strictly, while all neighbours in front of them do. -/
def IsFirstBreak (names : List Text) (previous current : Text) : Prop :=
  ¬ previous < current ∧ ∃ before after, names = before ++ previous :: current :: after ∧
    (before ++ [previous]).IsChain (· < ·)

section

variable {first second previous current : Text} {rest names : List Text}

theorem not_isFirstBreak_of_length (short : names.length < 2) :
    ¬ IsFirstBreak names previous current := by
  rintro ⟨-, before, after, rfl, -⟩
  simp at short
  omega

theorem isFirstBreak_cons_cons_iff :
    IsFirstBreak (first :: second :: rest) previous current ↔
      ¬ first < second ∧ first = previous ∧ second = current ∨
        first < second ∧ IsFirstBreak (second :: rest) previous current := by
  constructor
  · rintro ⟨broken, before, after, same, ascending⟩
    match before with
    | [] =>
        cases same
        exact .inl ⟨broken, rfl, rfl⟩
    | [_] =>
        cases same
        exact .inr ⟨(List.isChain_cons_cons.mp ascending).1, broken, [], _, rfl,
          List.isChain_singleton _⟩
    | _ :: second :: before =>
        cases same
        obtain ⟨step, later⟩ := List.isChain_cons_cons.mp ascending
        exact .inr ⟨step, broken, second :: before, _, rfl, later⟩
  · rintro (⟨broken, rfl, rfl⟩ | ⟨step, broken, before, after, same, ascending⟩)
    · exact ⟨broken, [], rest, rfl, List.isChain_singleton _⟩
    · refine ⟨broken, first :: before, after, by rw [same]; rfl, ?_⟩
      cases before <;> cases same <;> exact List.isChain_cons_cons.mpr ⟨step, ascending⟩

theorem isFirstBreak_of_not_lt (broken : ¬ first < second) :
    IsFirstBreak (first :: second :: rest) previous current ↔
      first = previous ∧ second = current := by
  rw [isFirstBreak_cons_cons_iff, and_iff_right broken, or_iff_left fun later => broken later.1]

theorem isFirstBreak_of_lt (step : first < second) :
    IsFirstBreak (first :: second :: rest) previous current ↔
      IsFirstBreak (second :: rest) previous current := by
  rw [isFirstBreak_cons_cons_iff, and_iff_right step, or_iff_right fun here => here.1 step]

end

/-- The check of neighbours accepts names exactly if each one is less than all later ones.
Otherwise it fails at the first neighbours that do not ascend: with a duplicate if they are
equal, and with an unsorted pair if the first one is greater. -/
theorem checkAscending_characterization (names : List Text) :
    (checkAscending names = .ok () ↔ names.Pairwise (· < ·)) ∧
      ∀ error, checkAscending names = .error error ↔
        ∃ previous current, IsFirstBreak names previous current ∧
          (previous = current ∧ error = .duplicate current ∨
            current < previous ∧ error = .unsorted previous current) := by
  refine ⟨⟨pairwise_of_checkAscending, checkAscending_of_pairwise⟩, ?_⟩
  intro error
  fun_induction checkAscending names with
  | case1 =>
      apply iff_of_false
      · intro failed
        cases failed
      · rintro ⟨_, _, isFirst, -⟩
        exact absurd isFirst (not_isFirstBreak_of_length Nat.two_pos)
  | case2 name =>
      apply iff_of_false
      · intro failed
        cases failed
      · rintro ⟨_, _, isFirst, -⟩
        exact absurd isFirst (not_isFirstBreak_of_length Nat.one_lt_two)
  | case3 current rest =>
      simp only [isFirstBreak_of_not_lt Std.lt_irrefl]
      constructor
      · rintro ⟨⟩
        exact ⟨current, current, ⟨rfl, rfl⟩, .inl ⟨rfl, rfl⟩⟩
      · rintro ⟨_, _, ⟨rfl, rfl⟩, ⟨-, rfl⟩ | ⟨greater, -⟩⟩
        · rfl
        · exact absurd greater Std.lt_irrefl
  | case4 previous current rest different greater =>
      simp only [isFirstBreak_of_not_lt (Std.not_gt_of_lt greater)]
      constructor
      · rintro ⟨⟩
        exact ⟨previous, current, ⟨rfl, rfl⟩, .inr ⟨greater, rfl⟩⟩
      · rintro ⟨_, _, ⟨rfl, rfl⟩, ⟨equal, -⟩ | ⟨-, rfl⟩⟩
        · exact absurd equal different
        · rfl
  | case5 previous current rest different notGreater ih =>
      have step : previous < current :=
        Std.lt_of_le_of_ne (Std.not_lt.mp notGreater) different
      simp only [isFirstBreak_of_lt step, ih]

end Tunables
