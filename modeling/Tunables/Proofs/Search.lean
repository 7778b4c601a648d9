import Mathlib.Data.List.Basic
import Tunables.Proofs.NameOrder
import Tunables.Search

/-!
# What a search finds

A search keeps the parameters that satisfy every filter of its query, orders them
by the sort field, and leaves ties in the order of their names.  Stopping at a
plain name saves work and changes nothing.
-/

namespace Tunables

/-! ## Stable sorting -/

section Stability

variable {α : Type} {le : α → α → Bool} {items : List α}

/-- Sorting keeps the order among items of which none has to stand in front of
another. -/
theorem filter_mergeSort {tied : α → Bool}
    (trans : ∀ a b c, le a b = true → le b c = true → le a c = true)
    (total : ∀ a b, (le a b || le b a) = true)
    (alike : ∀ a b, tied a = true → tied b = true → le a b = true) :
    (items.mergeSort le).filter tied = items.filter tied := by
  have ordered : (items.filter tied).Pairwise fun a b => le a b = true := by
    apply List.Pairwise.imp_of_mem (R := fun _ _ => True)
    · intro a b first second _
      exact alike a b (List.mem_filter.mp first).2 (List.mem_filter.mp second).2
    · exact List.pairwise_of_forall fun _ _ => trivial
  have inside : (items.filter tied).Sublist ((items.mergeSort le).filter tied) := by
    have kept := (List.sublist_mergeSort trans total ordered List.filter_sublist).filter tied
    simpa only [List.filter_filter, Bool.and_self] using kept
  have sameLength := ((List.mergeSort_perm items le).filter tied).length_eq
  exact (inside.eq_of_length sameLength.symm).symm

end Stability

/-- How a result stands to a later one: their keys ascend or descend as the query
says, and with equal keys their names ascend. -/
def Query.Ranks (query : Query) (p q : Parameter) : Prop :=
  (match query.order with
    | .ascending => query.sort.key p ≤ query.sort.key q
    | .descending => query.sort.key q ≤ query.sort.key p) ∧
  (query.sort.key p = query.sort.key q → p.name < q.name)

/-- Sorted by a key, parameters whose names ascend keep this order among those
with the same key. -/
theorem pairwise_mergeSort_key (before : Text → Text → Bool) {key : Parameter → Text}
    {parameters : List Parameter}
    (trans : ∀ a b c, before a b = true → before b c = true → before a c = true)
    (total : ∀ a b, (before a b || before b a) = true)
    (ascending : (parameters.map (·.name)).Pairwise (· < ·)) :
    (parameters.mergeSort fun p q => before (key p) (key q)).Pairwise fun p q =>
      before (key p) (key q) = true ∧ (key p = key q → p.name < q.name) := by
  have keysTrans : ∀ p q r : Parameter, before (key p) (key q) = true →
      before (key q) (key r) = true → before (key p) (key r) = true :=
    fun _ _ _ => trans _ _ _
  have keysTotal : ∀ p q : Parameter, (before (key p) (key q) || before (key q) (key p)) = true :=
    fun _ _ => total _ _
  apply (List.pairwise_mergeSort keysTrans keysTotal parameters).and
  rw [List.pairwise_iff_forall_sublist]
  intro p q pair tied
  have alike : ∀ r s : Parameter, (key r == key q) = true → (key s == key q) = true →
      before (key r) (key s) = true := by
    intro r s first second
    rw [beq_iff_eq.mp first, beq_iff_eq.mp second]
    simpa using total (key q) (key q)
  have both : [p, q].filter (key · == key q) = [p, q] := by simp [tied]
  have inOrder := pair.filter (key · == key q)
  rw [filter_mergeSort keysTrans keysTotal alike, both] at inOrder
  exact List.pairwise_iff_forall_sublist.mp (List.pairwise_map.mp ascending)
    (inOrder.trans List.filter_sublist)

theorem pairwise_sortParameters {parameters : List Parameter} (query : Query)
    (ascending : (parameters.map (·.name)).Pairwise (· < ·)) :
    (sortParameters query.sort query.order parameters).Pairwise query.Ranks := by
  unfold sortParameters Query.Ranks
  cases query.order with
  | ascending =>
      refine (pairwise_mergeSort_key (fun a b => a ≤ b) ?_ ?_ ascending).imp ?_
      · simpa using fun a b c => Std.le_trans (a := a) (b := b) (c := c)
      · simpa using fun a b => Std.le_total (a := a) (b := b)
      · simp
  | descending =>
      refine (pairwise_mergeSort_key (fun a b => b ≤ a) ?_ ?_ ascending).imp ?_
      · simpa using fun a b c first second => Std.le_trans (a := c) (b := b) (c := a) second first
      · simpa using fun a b => Std.le_total (a := b) (b := a)
      · simp

theorem perm_sortParameters (field : SortField) (order : SortOrder)
    (parameters : List Parameter) :
    (sortParameters field order parameters).Perm parameters := by
  cases order with
  | ascending => exact perm_sortByText _ _
  | descending => exact List.mergeSort_perm _ _

/-! ## Axes without a filter -/

namespace Parameter

@[simp]
theorem matchesService_none (p : Parameter) : p.matchesService none = true :=
  rfl

@[simp]
theorem matchesLevel_none (p : Parameter) : p.matchesLevel none = true :=
  rfl

@[simp]
theorem matchesType_none (p : Parameter) : p.matchesType none = true :=
  rfl

@[simp]
theorem matchesName_none (p : Parameter) : p.matchesName none = true :=
  rfl

@[simp]
theorem matchesFullText_none (p : Parameter) : p.matchesFullText none = true :=
  rfl

end Parameter

/-! ## Scanning -/

section Scanning

variable {parameters : List Parameter} {query : Query} {name : Text}

theorem Parameter.satisfies_iff {p : Parameter} :
    p.satisfies query = true ↔
      p.matchesService query.service = true ∧ p.matchesLevel query.level = true ∧
        p.matchesType query.type = true ∧ p.matchesName query.name = true ∧
        p.matchesFullText (query.fullText.map Text.lower) = true := by
  simp only [satisfies, Bool.and_eq_true, and_assoc]

theorem Query.exactName?_eq_some_iff :
    query.exactName? = some name ↔ query.name = some name ∧ isPattern name = false := by
  rw [exactName?, Option.filter_eq_some_iff, Bool.not_eq_true']

/-- A query for a plain name is satisfied under this name only. -/
theorem name_of_satisfies (isExact : query.exactName? = some name) {p : Parameter}
    (satisfied : p.satisfies query = true) : p.name = name := by
  obtain ⟨wanted, plain⟩ := Query.exactName?_eq_some_iff.mp isExact
  have matched := (Parameter.satisfies_iff.mp satisfied).2.2.2.1
  rw [wanted] at matched
  simpa [Parameter.matchesName, plain] using matched

/-- Names that differ from each other belong to one parameter each, so nothing is
missed behind the first parameter of a plain name. -/
theorem found_scanForName (distinct : (parameters.map (·.name)).Nodup)
    (isExact : query.exactName? = some name) :
    (scanForName query name parameters).found = parameters.filter (·.satisfies query) := by
  induction parameters with
  | nil => rfl
  | cons p rest ih =>
      obtain ⟨alone, restDistinct⟩ := List.nodup_cons.mp distinct
      by_cases here : p.name = name
      · have nothingLater : rest.filter (·.satisfies query) = [] := by
          rw [List.filter_eq_nil_iff]
          intro q member satisfied
          have same := (name_of_satisfies isExact satisfied).trans here.symm
          exact alone (List.mem_map.mpr ⟨q, member, same⟩)
        rw [scanForName, if_pos here, List.filter_cons, nothingLater]
      · have refused : ¬ p.satisfies query = true :=
          fun satisfied => here (name_of_satisfies isExact satisfied)
        rw [List.filter_cons, if_neg refused, scanForName, if_neg here]
        exact ih restDistinct

theorem examined_scanForName :
    (scanForName query name parameters).examined =
      if name ∈ parameters.map (·.name) then (parameters.map (·.name)).idxOf name + 1
      else parameters.length := by
  induction parameters with
  | nil => rfl
  | cons p rest ih =>
      by_cases here : p.name = name
      · simp [scanForName, here, List.idxOf_cons_self]
      · have other : ¬ name = p.name := fun same => here same.symm
        simp only [scanForName, if_neg here, ih, List.map_cons, List.mem_cons, other, false_or,
          List.idxOf_cons_ne _ here, List.length_cons]
        split
        · rfl
        · rfl

/-- What stands behind the first parameter of a plain name is not looked at. -/
theorem scanForName_take_append (present : name ∈ parameters.map (·.name))
    (others : List Parameter) :
    scanForName query name
        (parameters.take ((parameters.map (·.name)).idxOf name + 1) ++ others) =
      scanForName query name parameters := by
  induction parameters with
  | nil => cases present
  | cons p rest ih =>
      by_cases here : p.name = name
      · simp [scanForName, here, List.idxOf_cons_self]
      · have later : name ∈ rest.map (·.name) :=
          (List.mem_cons.mp present).resolve_left fun same => here same.symm
        rw [List.map_cons, List.idxOf_cons_ne _ here, List.take_succ_cons, List.cons_append,
          scanForName, scanForName, if_neg here, if_neg here, ih later]

end Scanning

namespace Catalog

variable (c : Catalog) (query : Query)

/-- The plain scan that looks at every parameter finds the same. -/
theorem search_eq_sortParameters_filter :
    c.search query =
      sortParameters query.sort query.order (c.parameters.filter (·.satisfies query)) := by
  unfold Catalog.search Tunables.search searchExamined
  cases exactName : query.exactName? with
  | none => rfl
  | some name =>
      exact congrArg (sortParameters query.sort query.order)
        (found_scanForName c.nodup_names exactName)

theorem examined_searchExamined :
    (searchExamined c.parameters query).examined =
      match query.exactName? with
      | some name => if name ∈ c.names then c.names.idxOf name + 1 else c.size
      | none => c.size := by
  unfold searchExamined
  cases query.exactName? with
  | none => rfl
  | some name => exact examined_scanForName

theorem mem_search {p : Parameter} :
    p ∈ c.search query ↔ p ∈ c.parameters ∧ p.satisfies query = true := by
  rw [search_eq_sortParameters_filter, (perm_sortParameters _ _ _).mem_iff, List.mem_filter]

theorem pairwise_search : (c.search query).Pairwise query.Ranks := by
  rw [search_eq_sortParameters_filter]
  exact pairwise_sortParameters query (c.ascending.sublist (List.filter_sublist.map _))

end Catalog

theorem Query.Ranks.irrefl {query : Query} {p : Parameter} : ¬ query.Ranks p p :=
  fun ranked => Std.lt_irrefl (ranked.2 rfl)

theorem Query.Ranks.asymm {query : Query} {p q : Parameter} (forth : query.Ranks p q) :
    ¬ query.Ranks q p := by
  intro back
  have tied : query.sort.key p = query.sort.key q := by
    have first := forth.1
    have second := back.1
    cases direction : query.order with
    | ascending =>
        rw [direction] at first second
        exact Std.le_antisymm first second
    | descending =>
        rw [direction] at first second
        exact Std.le_antisymm second first
  exact Std.not_gt_of_lt (forth.2 tied) (back.2 tied.symm)

/-- A ranking of results names each of them once. -/
theorem nodup_of_pairwise_ranks {query : Query} {found : List Parameter}
    (ranked : found.Pairwise query.Ranks) : found.Nodup :=
  ranked.imp fun {p q} (forth : query.Ranks p q) (same : p = q) =>
    Query.Ranks.irrefl (same ▸ forth)

/-- A search finds exactly the parameters that satisfy the filters on all five
axes, each once, in the order that the query asks for, with ties in ascending
order of the names; there is only one such list.  It is what a scan of all
parameters gives, although a search for a plain name takes no parameter behind
the one with this name. -/
theorem Catalog.search_characterization (c : Catalog) (query : Query) :
    (∀ found : List Parameter, found = c.search query ↔
      found.Pairwise query.Ranks ∧
      ∀ p, p ∈ found ↔ p ∈ c.parameters ∧
        p.matchesService query.service = true ∧ p.matchesLevel query.level = true ∧
        p.matchesType query.type = true ∧ p.matchesName query.name = true ∧
        p.matchesFullText (query.fullText.map Text.lower) = true) ∧
    (c.search query).Nodup ∧
    c.search query =
      sortParameters query.sort query.order (scanAll query c.parameters).found ∧
    (searchExamined c.parameters query).examined =
      (match query.exactName? with
      | some name => if name ∈ c.names then c.names.idxOf name + 1 else c.size
      | none => c.size) ∧
    ∀ name others, query.exactName? = some name → name ∈ c.names →
      searchExamined (c.parameters.take (c.names.idxOf name + 1) ++ others) query =
        searchExamined c.parameters query := by
  refine ⟨?_, nodup_of_pairwise_ranks (c.pairwise_search query),
    c.search_eq_sortParameters_filter query, c.examined_searchExamined query, ?_⟩
  · intro found
    constructor
    · intro same
      subst same
      refine ⟨c.pairwise_search query, ?_⟩
      intro p
      rw [c.mem_search, Parameter.satisfies_iff]
    · intro parts
      obtain ⟨ranked, complete⟩ := parts
      have permutation : found.Perm (c.search query) := by
        rw [List.perm_ext_iff_of_nodup (nodup_of_pairwise_ranks ranked)
          (nodup_of_pairwise_ranks (c.pairwise_search query))]
        intro p
        rw [complete, c.mem_search, Parameter.satisfies_iff]
      exact permutation.eq_of_pairwise (fun p q _ _ forth back => absurd back forth.asymm)
        ranked (c.pairwise_search query)
  · intro name others exactName present
    simp only [searchExamined, exactName]
    rw [show c.names = c.parameters.map (·.name) from rfl,
      scanForName_take_append present others]

end Tunables
