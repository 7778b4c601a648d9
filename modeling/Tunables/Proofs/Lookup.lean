import Tunables.Proofs.Baseline
import Tunables.Proofs.Query
import Tunables.Proofs.Search

/-!
# Building a catalog and looking into it

Parameters make a catalog unless a name occurs twice, and then the least such
name is reported; in which order they are given does not matter.  A name has the
same parameter in the catalog whichever way it is looked up.
-/

namespace Tunables

/-- The least name that occurs more than once. -/
structure IsFirstRepeated (names : List Text) (name : Text) : Prop where
  repeated : 2 ≤ names.count name
  least : ∀ other, 2 ≤ names.count other → name ≤ other

theorem IsFirstRepeated.unique {names : List Text} {first second : Text}
    (isFirst : IsFirstRepeated names first) (isSecond : IsFirstRepeated names second) :
    first = second :=
  Std.le_antisymm (isFirst.least second isSecond.repeated)
    (isSecond.least first isFirst.repeated)

theorem IsFirstRepeated.not_nodup {names : List Text} {name : Text}
    (isFirst : IsFirstRepeated names name) : ¬ names.Nodup := by
  intro distinct
  have once := List.nodup_iff_count_le_one.mp distinct name
  exact absurd isFirst.repeated (Nat.not_le.mpr (Nat.lt_succ_of_le once))

theorem IsFirstRepeated.of_perm {names others : List Text} {name : Text}
    (same : names.Perm others) (isFirst : IsFirstRepeated names name) :
    IsFirstRepeated others name := by
  constructor
  · rw [← same.count_eq]
    exact isFirst.repeated
  · intro other repeated
    rw [← same.count_eq] at repeated
    exact isFirst.least other repeated

/-- In names that ascend, the first pair of equal neighbours is the least name that
occurs more than once, and no pair of neighbours descends. -/
theorem isFirstRepeated_of_checkAscending {names : List Text} {error : OrderError}
    (ordered : names.Pairwise (· ≤ ·)) (failed : checkAscending names = .error error) :
    ∃ name, error = .duplicate name ∧ IsFirstRepeated names name := by
  fun_induction checkAscending names with
  | case1 => cases failed
  | case2 name => cases failed
  | case3 current rest =>
      cases failed
      refine ⟨current, rfl, ?_, ?_⟩
      · simp
      · intro other repeated
        have member : other ∈ current :: current :: rest :=
          List.count_pos_iff.mp (Nat.lt_of_lt_of_le Nat.two_pos repeated)
        rcases List.mem_cons.mp member with rfl | later
        · exact Std.le_refl _
        · exact List.rel_of_pairwise_cons ordered later
  | case4 previous current rest different descends =>
      have ascends := List.rel_of_pairwise_cons ordered (List.mem_cons_self (a := current))
      exact absurd descends (Std.not_lt.mpr ascends)
  | case5 previous current rest different ascends ih =>
      obtain ⟨beforeAll, orderedRest⟩ := List.pairwise_cons.mp ordered
      obtain ⟨name, same, isFirst⟩ := ih orderedRest failed
      -- The first name stands alone: it is less than its neighbour and so than all others.
      have alone : previous ∉ current :: rest := by
        intro member
        rcases List.mem_cons.mp member with equal | later
        · exact different equal
        · have back := List.rel_of_pairwise_cons orderedRest later
          exact different (Std.le_antisymm (beforeAll current List.mem_cons_self) back)
      refine ⟨name, same, ?_, ?_⟩
      · exact Nat.le_trans isFirst.repeated List.count_le_count_cons
      · intro other repeated
        by_cases head : other = previous
        · subst head
          rw [List.count_cons_self, List.count_eq_zero.mpr alone] at repeated
          omega
        · rw [List.count_cons_of_ne (fun equal => head equal.symm)] at repeated
          exact isFirst.least other repeated

namespace Catalog

variable {parameters others : List Parameter} {c : Catalog} {name : Text}

/-! ## Building -/

theorem checkAscending_of_ofParameters {error : OrderError}
    (failed : ofParameters parameters = .error error) :
    checkAscending ((sortByText (·.name) parameters).map (·.name)) = .error error := by
  unfold ofParameters at failed
  dsimp only at failed
  split at failed
  · cases failed
  · next other checked =>
      cases failed
      exact checked

/-- The only way to fail is to be given a name twice, and the least such name is
reported. -/
theorem ofParameters_eq_error_iff {error : OrderError} :
    ofParameters parameters = .error error ↔
      ∃ name, error = .duplicate name ∧ IsFirstRepeated (parameters.map (·.name)) name := by
  have reported : ∀ {error : OrderError}, ofParameters parameters = .error error →
      ∃ name, error = .duplicate name ∧ IsFirstRepeated (parameters.map (·.name)) name := by
    intro error failed
    have ordered : ((sortByText (·.name) parameters).map (·.name)).Pairwise (· ≤ ·) :=
      List.pairwise_map.mpr (pairwise_sortByText _ _)
    obtain ⟨name, same, isFirst⟩ :=
      isFirstRepeated_of_checkAscending ordered (checkAscending_of_ofParameters failed)
    exact ⟨name, same, isFirst.of_perm ((perm_sortByText _ _).map _)⟩
  refine ⟨reported, ?_⟩
  rintro ⟨name, rfl, isFirst⟩
  cases built : ofParameters parameters with
  | ok c => exact absurd (ofParameters_eq_ok_iff.mp built).1 isFirst.not_nodup
  | error error =>
      obtain ⟨other, rfl, isOther⟩ := reported built
      rw [isOther.unique isFirst]

theorem exists_ofParameters_iff :
    (∃ c, ofParameters parameters = .ok c) ↔ (parameters.map (·.name)).Nodup := by
  constructor
  · rintro ⟨c, built⟩
    exact (ofParameters_eq_ok_iff.mp built).1
  · intro distinct
    cases built : ofParameters parameters with
    | ok c => exact ⟨c, rfl⟩
    | error error =>
        obtain ⟨name, -, isFirst⟩ := ofParameters_eq_error_iff.mp built
        exact absurd distinct isFirst.not_nodup

theorem ofParameters_congr_perm (same : parameters.Perm others) :
    ofParameters parameters = ofParameters others := by
  have sameNames := same.map (·.name)
  symm
  cases built : ofParameters parameters with
  | ok c =>
      obtain ⟨distinct, held⟩ := ofParameters_eq_ok_iff.mp built
      exact ofParameters_eq_ok_iff.mpr ⟨sameNames.nodup_iff.mp distinct, held.trans same⟩
  | error error =>
      obtain ⟨name, reported, isFirst⟩ := ofParameters_eq_error_iff.mp built
      exact ofParameters_eq_error_iff.mpr ⟨name, reported, isFirst.of_perm sameNames⟩

/-! ## Looking up -/

/-- Where no two names are the same, a scan finds the one parameter of a name. -/
theorem find?_name_eq_some_iff {found : List Parameter} {p : Parameter}
    (distinct : (found.map (·.name)).Nodup) :
    found.find? (·.name == name) = some p ↔ p ∈ found ∧ p.name = name := by
  constructor
  · intro here
    exact ⟨List.mem_of_find?_eq_some here, by simpa using List.find?_some here⟩
  · rintro ⟨member, rfl⟩
    cases here : found.find? (·.name == p.name) with
    | none => exact absurd (beq_self_eq_true p.name) (List.find?_eq_none.mp here p member)
    | some q =>
        have same : q.name = p.name := by simpa using List.find?_some here
        rw [List.inj_on_of_nodup_map distinct (List.mem_of_find?_eq_some here) member same]

theorem get?_eq_some_iff {p : Parameter} :
    c.get? name = some p ↔ p ∈ c.parameters ∧ p.name = name :=
  find?_name_eq_some_iff c.nodup_names

theorem lookup_map_name {found : List Parameter} :
    (found.map fun p => (p.name, p)).lookup name = found.find? (·.name == name) := by
  induction found with
  | nil => rfl
  | cons p rest ih =>
      by_cases same : name = p.name
      · simp [same]
      · have other : ¬ p.name = name := fun equal => same equal.symm
        have unequal : (name == p.name) = false := by simpa using same
        simp [List.lookup_cons, unequal, other, ih]

/-- The index has the parameters that stand in the catalog. -/
theorem lookup_index (c : Catalog) (name : Text) : c.index.lookup name = c.get? name := by
  have distinct : ((c.parameters.map fun p => (p.name, p)).map (·.1)).Nodup := by
    rw [List.map_map]
    exact c.nodup_names
  rw [index, Entries.ofPairs_of_nodup distinct, lookup_map_name]
  rfl

theorem filter_name (c : Catalog) (name : Text) :
    c.parameters.filter (·.name == name) = (c.get? name).toList := by
  have once : (c.parameters.filter (·.name == name)).Nodup :=
    (List.Nodup.of_map _ c.nodup_names).filter _
  have same : (c.parameters.filter (·.name == name)).Perm (c.get? name).toList := by
    rw [List.perm_ext_iff_of_nodup once (by cases c.get? name <;> simp)]
    intro p
    simp [get?_eq_some_iff]
  cases found : c.get? name with
  | none => simpa [found] using same
  | some p => simpa [found] using same

/-- A query for a name that is not blank has this name and nothing else. -/
theorem ofFilters_name (notBlank : Text.allBlank name = false) :
    Query.ofFilters [("name", .string name)] = .ok { Query.all with name := some name } := by
  rw [Query.ofFilters_eq_ok_iff, ← Query.asked_eq_some notBlank]
  exact ⟨rfl, rfl⟩

theorem satisfies_name {p : Parameter} (plain : isPattern name = false) :
    p.satisfies { Query.all with name := some name } = (p.name == name) := by
  simp [Parameter.satisfies, Query.all, Parameter.matchesName, plain]

theorem search_name (c : Catalog) (plain : isPattern name = false) :
    c.search { Query.all with name := some name } = (c.get? name).toList := by
  rw [search_eq_sortParameters_filter]
  simp only [satisfies_name plain, filter_name]
  cases c.get? name with
  | none => exact List.mergeSort_nil
  | some p => exact List.mergeSort_singleton p

/-- All ways of looking up a name in a catalog find the same. -/
structure FindsUnder (c : Catalog) (name : Text) (found : Option Parameter) : Prop where
  get : c.get? name = found
  indexed : c.index.lookup name = found
  contains : c.containsKey (.string name) = .ok found.isSome
  scanned : c.parameters.filter (·.name == name) = found.toList
  searched : Text.allBlank name = false → isPattern name = false →
    ∃ query, Query.ofFilters [("name", .string name)] = .ok query ∧ c.search query = found.toList

theorem findsUnder_get? (c : Catalog) (name : Text) : c.FindsUnder name (c.get? name) where
  get := rfl
  indexed := c.lookup_index name
  contains := rfl
  scanned := c.filter_name name
  searched := fun notBlank plain => ⟨_, ofFilters_name notBlank, c.search_name plain⟩

/-- Parameters make a catalog exactly when no two have the same name, and in every
order they come to the same.  The catalog holds the parameters in strictly ascending
order of their names, and whichever way a name is looked up, what is found is the
one parameter of this name or nothing.  Otherwise the least name that occurs twice
is reported, never a pair of names out of order. -/
theorem ofParameters_characterization (parameters : List Parameter) :
    ((∃ c, ofParameters parameters = .ok c) ↔ (parameters.map (·.name)).Nodup) ∧
    (∀ others, parameters.Perm others → ofParameters others = ofParameters parameters) ∧
    (∀ c, ofParameters parameters = .ok c →
      c.names.Pairwise (· < ·) ∧ c.parameters.Perm parameters ∧
      ∀ name, ∃ found, c.FindsUnder name found ∧
        ∀ p, found = some p ↔ p ∈ parameters ∧ p.name = name) ∧
    ∀ error, ofParameters parameters = .error error →
      ∃ name, error = .duplicate name ∧ IsFirstRepeated (parameters.map (·.name)) name := by
  refine ⟨exists_ofParameters_iff, fun others same => (ofParameters_congr_perm same).symm, ?_,
    fun error failed => ofParameters_eq_error_iff.mp failed⟩
  intro c built
  have held := (ofParameters_eq_ok_iff.mp built).2
  refine ⟨c.ascending, held, ?_⟩
  intro name
  refine ⟨c.get? name, c.findsUnder_get? name, ?_⟩
  intro p
  rw [get?_eq_some_iff, held.mem_iff]

end Catalog
end Tunables
