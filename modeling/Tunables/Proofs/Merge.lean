import Mathlib.Data.List.Basic
import Mathlib.Data.List.TakeWhile
import Tunables.Proofs.NameOrder
import Tunables.Proofs.Talk

/-!
# What a merge amounts to

A merge walks through parameters and names side by side.  What comes out of the
walk can be said name by name: a parameter whose name is listed is kept, a name
without a parameter is asked for once, and a parameter without a listed name is
dropped.
-/

namespace Tunables

/-! ## One new name -/

/-- The parameter in the answer to a request for help on a name, as the answer
has it. -/
def parameterOfAnswer (name : Text) : Answer → Except Failure Parameter
  | .error fault => .error (.fault fault)
  | .ok bytes => parameterOfReply name bytes

/-- The parameter in the answer to a request for help on a name, under the name
that was asked for. -/
def detailOf (name : Text) (answer : Answer) : Except Failure Parameter :=
  (parameterOfAnswer name answer).map fun p => { p with name := name }

/-- A request for help that succeeded, or failed in a way that concerns one name
only. -/
def IsSettled (outcome : Except Failure Parameter) : Prop :=
  ∀ failure, outcome = .error failure → failure.isKnown = true

theorem name_of_detailOf {name : Text} {answer : Answer} {p : Parameter}
    (fetched : detailOf name answer = .ok p) : p.name = name := by
  unfold detailOf at fetched
  cases reply : parameterOfAnswer name answer with
  | error failure =>
      rw [reply] at fetched
      cases fetched
  | ok answered =>
      rw [reply] at fetched
      cases fetched
      rfl

/-- What is done with a reply: its parameter is kept under the name asked for. -/
def keepReply (name : Text) :
    Except Failure Parameter → Talk (Except Failure Parameter)
  | .error failure => .done (.error failure)
  | .ok p => keepName name p

theorem endsWith_keepReply_iff {name : Text} {reply outcome : Except Failure Parameter}
    {exchanges : List Exchange} :
    (keepReply name reply).EndsWith exchanges outcome ↔
      exchanges = [] ∧ outcome = reply.map fun p => { p with name := name } := by
  cases reply with
  | error failure => exact Talk.endsWith_done_iff
  | ok p =>
      simp only [keepReply, keepName]
      by_cases same : p.name = name
      · rw [if_pos same, ← same]
        exact Talk.endsWith_done_iff
      · rw [if_neg same]
        exact Talk.endsWith_say_iff.trans Talk.endsWith_done_iff

theorem fetchDetail_eq (name : Text) :
    fetchDetail name =
      .ask (.help name) fun answer => keepReply name (parameterOfAnswer name answer) := by
  unfold fetchDetail
  congr 1
  funext answer
  cases answer with
  | error fault => rfl
  | ok bytes =>
      simp only [parameterOfAnswer]
      cases parameterOfReply name bytes with
      | error failure => rfl
      | ok p => rfl

/-- A request for help is one command, and its outcome is what the answer says. -/
theorem endsWith_fetchDetail_iff {name : Text} {exchanges : List Exchange}
    {outcome : Except Failure Parameter} :
    (fetchDetail name).EndsWith exchanges outcome ↔
      ∃ answer, exchanges = [⟨.help name, answer⟩] ∧ outcome = detailOf name answer := by
  rw [fetchDetail_eq, Talk.endsWith_ask_iff]
  constructor
  · intro parts
    obtain ⟨answer, later, rfl, ends⟩ := parts
    obtain ⟨rfl, rfl⟩ := endsWith_keepReply_iff.mp ends
    exact ⟨answer, rfl, rfl⟩
  · intro parts
    obtain ⟨answer, rfl, rfl⟩ := parts
    exact ⟨answer, [], rfl, endsWith_keepReply_iff.mpr ⟨rfl, rfl⟩⟩

namespace Merge

/-- What a merge does with a new name: a parameter is added, a failure is passed
over. -/
def settle (name : Text) : Except Failure Parameter → Merge → Merge
  | .ok p => add name p
  | .error _ => skip name

end Merge

/-- A new name is asked for once; the merge goes on unless the failure is of a
kind that stops it. -/
theorem endsWith_mergeNew_ok_iff {name : Text} {exchanges : List Exchange}
    {change : Merge → Merge} :
    (mergeNew fetchDetail name).EndsWith exchanges (.ok change) ↔
      ∃ answer, exchanges = [⟨.help name, answer⟩] ∧ IsSettled (detailOf name answer) ∧
        change = Merge.settle name (detailOf name answer) := by
  unfold mergeNew
  rw [Talk.endsWith_bind_iff]
  constructor
  · intro parts
    obtain ⟨first, outcome, second, rfl, asked, settled⟩ := parts
    obtain ⟨answer, rfl, rfl⟩ := endsWith_fetchDetail_iff.mp asked
    refine ⟨answer, ?_⟩
    cases fetched : detailOf name answer with
    | ok p =>
        rw [fetched] at settled
        obtain ⟨rfl, equal⟩ := Talk.endsWith_done_iff.mp settled
        cases equal
        refine ⟨rfl, ?_, rfl⟩
        intro failure failed
        cases failed
    | error failure =>
        rw [fetched] at settled
        dsimp only at settled
        split at settled
        · next known =>
            obtain ⟨rfl, equal⟩ := Talk.endsWith_done_iff.mp (Talk.endsWith_say_iff.mp settled)
            cases equal
            refine ⟨rfl, ?_, rfl⟩
            intro other same
            cases same
            exact known
        · have stopped := (Talk.endsWith_done_iff.mp settled).2
          cases stopped
  · intro parts
    obtain ⟨answer, rfl, settled, rfl⟩ := parts
    refine ⟨[⟨.help name, answer⟩], detailOf name answer, [], rfl,
      endsWith_fetchDetail_iff.mpr ⟨answer, rfl, rfl⟩, ?_⟩
    cases fetched : detailOf name answer with
    | ok p => exact .done _
    | error failure =>
        dsimp only
        rw [if_pos (settled failure fetched)]
        exact .say (.done _)

/-! ## The merge, name by name -/

namespace Merge

/-- The names that are asked for: those that no parameter at hand has. -/
def newNames (base : List Parameter) (names : List Text) : List Text :=
  names.filter fun name => name ∉ base.map (·.name)

/-- The parameter that a name has after a merge: the one at hand, or else the one
that was fetched. -/
def parameter? (base : List Parameter) (outcome : Text → Except Failure Parameter)
    (name : Text) : Option Parameter :=
  (base.find? (·.name == name)).or (outcome name).toOption

/-- The merge of parameters with names, given what comes of each request for
help. -/
def ofOutcomes (base : List Parameter) (names : List Text)
    (outcome : Text → Except Failure Parameter) : Merge where
  parameters := names.filterMap (parameter? base outcome)
  added := (newNames base names).filter fun name => (outcome name).isOk
  removed := (base.map (·.name)).filter fun name => name ∉ names
  failed := (newNames base names).filter fun name => !(outcome name).isOk

variable {base gone rest : List Parameter} {names : List Text} {name : Text}
  {outcome : Text → Except Failure Parameter}

theorem mem_newNames : name ∈ newNames base names ↔ name ∈ names ∧ name ∉ base.map (·.name) := by
  simp [newNames]

theorem find?_name_eq_none (absent : name ∉ base.map (·.name)) :
    base.find? (·.name == name) = none := by
  rw [List.find?_eq_none]
  intro p member same
  exact absent (List.mem_map.mpr ⟨p, member, beq_iff_eq.mp same⟩)

theorem ofOutcomes_nil : ofOutcomes base [] outcome = dropping base := by
  simp [ofOutcomes, newNames, dropping]

/-- Parameters whose names are not listed are dropped. -/
theorem newNames_append (unlisted : ∀ name ∈ names, name ∉ gone.map (·.name)) :
    newNames (gone ++ rest) names = newNames rest names := by
  apply List.filter_congr
  intro name member
  simp only [List.map_append, List.mem_append, not_or, unlisted name member, not_false_iff,
    true_and]

theorem ofOutcomes_append (unlisted : ∀ name ∈ names, name ∉ gone.map (·.name)) :
    ofOutcomes (gone ++ rest) names outcome = (ofOutcomes rest names outcome).drop gone := by
  have entries : names.filterMap (parameter? (gone ++ rest) outcome) =
      names.filterMap (parameter? rest outcome) := by
    apply List.filterMap_congr
    intro name member
    rw [parameter?, List.find?_append, find?_name_eq_none (unlisted name member), Option.none_or]
    rfl
  have dropped : (gone.map (·.name)).filter (fun name => name ∉ names) = gone.map (·.name) := by
    rw [List.filter_eq_self]
    intro name member
    exact decide_eq_true fun listed => unlisted name listed member
  simp only [ofOutcomes, drop, newNames_append unlisted, entries, List.map_append,
    List.filter_append, dropped]

/-- A name at hand is not asked for. -/
theorem newNames_cons_of_mem (known : name ∈ base.map (·.name)) :
    newNames base (name :: names) = newNames base names :=
  List.filter_cons_of_neg (by simpa using known)

theorem newNames_cons_of_not_mem (new : name ∉ base.map (·.name)) :
    newNames base (name :: names) = name :: newNames base names :=
  List.filter_cons_of_pos (by simpa using new)

theorem newNames_keep {p : Parameter} (once : p.name ∉ names) :
    newNames (p :: rest) (p.name :: names) = newNames rest names := by
  rw [newNames_cons_of_mem List.mem_cons_self]
  have unlisted : ∀ name ∈ names, name ∉ [p].map (·.name) := by
    intro name member same
    rw [List.map_singleton, List.mem_singleton] at same
    exact once (same ▸ member)
  exact newNames_append unlisted

/-- A parameter whose name is listed is kept. -/
theorem ofOutcomes_keep {p : Parameter} (once : p.name ∉ names)
    (alone : p.name ∉ rest.map (·.name)) :
    ofOutcomes (p :: rest) (p.name :: names) outcome =
      (ofOutcomes rest names outcome).keep p := by
  have unlisted : ∀ name ∈ names, name ∉ [p].map (·.name) := by
    intro name member same
    rw [List.map_singleton, List.mem_singleton] at same
    exact once (same ▸ member)
  have first : parameter? (p :: rest) outcome p.name = some p := by
    simp [parameter?]
  have entries : names.filterMap (parameter? (p :: rest) outcome) =
      names.filterMap (parameter? rest outcome) :=
    congrArg parameters (ofOutcomes_append unlisted)
  have removed : ((p :: rest).map (·.name)).filter (fun name => name ∉ p.name :: names) =
      (rest.map (·.name)).filter fun name => name ∉ names := by
    rw [List.map_cons, List.filter_cons_of_neg (by simp)]
    apply List.filter_congr
    intro name member
    have other : name ≠ p.name := fun same => alone (same ▸ member)
    simp [other]
  simp only [ofOutcomes, keep, newNames_keep once, removed, entries, List.filterMap_cons_some first]

/-- A name without a parameter is settled as its request for help comes out. -/
theorem ofOutcomes_settle (new : name ∉ base.map (·.name)) :
    ofOutcomes base (name :: names) outcome =
      settle name (outcome name) (ofOutcomes base names outcome) := by
  have removed : (base.map (·.name)).filter (fun other => other ∉ name :: names) =
      (base.map (·.name)).filter fun other => other ∉ names := by
    apply List.filter_congr
    intro other member
    have different : other ≠ name := fun same => new (same ▸ member)
    simp [different]
  have entry : parameter? base outcome name = (outcome name).toOption := by
    rw [parameter?, find?_name_eq_none new, Option.none_or]
  unfold ofOutcomes
  rw [removed, newNames_cons_of_not_mem new, List.filterMap_cons, entry]
  cases fetched : outcome name with
  | ok p =>
      have ok : (outcome name).isOk = true := by rw [fetched]; rfl
      simp [settle, add, Except.toOption, ok]
  | error failure =>
      have notOk : (outcome name).isOk = false := by rw [fetched]; rfl
      simp [settle, skip, Except.toOption, notOk]

/-- Only the outcomes for new names matter. -/
theorem ofOutcomes_congr {other : Text → Except Failure Parameter}
    (agree : ∀ name ∈ newNames base names, outcome name = other name) :
    ofOutcomes base names outcome = ofOutcomes base names other := by
  have entries : names.filterMap (parameter? base outcome) =
      names.filterMap (parameter? base other) := by
    apply List.filterMap_congr
    intro name member
    by_cases known : name ∈ base.map (·.name)
    · obtain ⟨p, inBase, rfl⟩ := List.mem_map.mp known
      have found : (base.find? (·.name == p.name)).isSome :=
        List.find?_isSome.mpr ⟨p, inBase, beq_self_eq_true p.name⟩
      rw [parameter?, parameter?, Option.or_of_isSome found, Option.or_of_isSome found]
    · rw [parameter?, parameter?, agree name (mem_newNames.mpr ⟨member, known⟩)]
  have added : (newNames base names).filter (fun name => (outcome name).isOk) =
      (newNames base names).filter fun name => (other name).isOk :=
    List.filter_congr fun name new => by rw [agree name new]
  have failed : (newNames base names).filter (fun name => !(outcome name).isOk) =
      (newNames base names).filter fun name => !(other name).isOk :=
    List.filter_congr fun name new => by rw [agree name new]
  simp only [ofOutcomes, entries, added, failed]

end Merge

/-! ## The walk -/

section Walk

variable {base rest : List Parameter} {names : List Text} {name : Text}

/-- Names that are not smaller than a name belong to no parameter in front of it. -/
theorem not_mem_takeWhile (ascending : (name :: names).Pairwise (· < ·)) :
    ∀ other ∈ name :: names, other ∉ (base.takeWhile (·.name < name)).map (·.name) := by
  intro other listed member
  obtain ⟨p, taken, rfl⟩ := List.mem_map.mp member
  have less : p.name < name := by simpa using List.mem_takeWhile_imp taken
  rcases List.mem_cons.mp listed with equal | later
  · exact Std.lt_irrefl (equal ▸ less)
  · exact Std.not_gt_of_lt less (List.rel_of_pairwise_cons ascending later)

/-- What is smaller than the first of ascending names has no say in what is asked for. -/
theorem newNames_dropWhile (ascending : (name :: names).Pairwise (· < ·)) :
    Merge.newNames (base.dropWhile (·.name < name)) (name :: names) =
      Merge.newNames base (name :: names) := by
  have whole := List.takeWhile_append_dropWhile (p := fun p : Parameter => p.name < name)
    (l := base)
  conv => right; rw [← whole]
  exact (Merge.newNames_append (not_mem_takeWhile ascending)).symm

/-- In ascending parameters a name stands in front of those that are not smaller,
or nowhere among them. -/
theorem head_dropWhile_eq_or_not_mem (name : Text)
    (ascending : (base.map (·.name)).Pairwise (· < ·)) :
    (∃ p tail, base.dropWhile (·.name < name) = p :: tail ∧ p.name = name) ∨
      name ∉ (base.dropWhile (·.name < name)).map (·.name) := by
  cases split : base.dropWhile (·.name < name) with
  | nil => exact .inr List.not_mem_nil
  | cons p tail =>
      by_cases same : p.name = name
      · exact .inl ⟨p, tail, rfl, same⟩
      · right
        have notLess : ¬ p.name < name := by
          have stopped := List.head?_dropWhile_not (fun q : Parameter => q.name < name) base
          rw [split] at stopped
          simpa using stopped
        have less : name < p.name :=
          Std.lt_of_le_of_ne (Std.not_lt.mp notLess) fun equal => same equal.symm
        have ordered : ((p :: tail).map (·.name)).Pairwise (· < ·) :=
          ascending.sublist ((split ▸ List.dropWhile_sublist _).map _)
        intro member
        rcases List.mem_cons.mp member with equal | later
        · exact same equal.symm
        · exact Std.not_gt_of_lt less (List.rel_of_pairwise_cons ordered later)

theorem mergeSorted_kept {fetch : FetchDetail} {p : Parameter}
    (split : base.dropWhile (·.name < name) = p :: rest) (same : p.name = name) :
    mergeSorted fetch base (name :: names) =
      (mergeSorted fetch rest names).map
        (Except.map fun m => (m.keep p).drop (base.takeWhile (·.name < name))) := by
  simp only [mergeSorted, split, if_pos same]

theorem mergeSorted_new {fetch : FetchDetail}
    (new : name ∉ (base.dropWhile (·.name < name)).map (·.name)) :
    mergeSorted fetch base (name :: names) =
      (mergeNew fetch name).andThen fun change =>
        (mergeSorted fetch (base.dropWhile (·.name < name)) names).map
          (Except.map fun m => (change m).drop (base.takeWhile (·.name < name))) := by
  cases split : base.dropWhile (·.name < name) with
  | nil => simp only [mergeSorted, split]
  | cons p tail =>
      rw [split] at new
      have different : ¬ p.name = name := by
        intro same
        exact new (same ▸ List.mem_cons_self)
      simp only [mergeSorted, split, if_neg different]

/-- What a merge without names has, and what keeping a parameter and asking for a new name
leave as it is, every merge has. -/
theorem mergeSorted_of_parts {fetch : FetchDetail}
    {property : Talk (Except Failure Merge) → Prop} (done : ∀ m, property (.done (.ok m)))
    (mapped : ∀ merged change, property merged → property (merged.map (Except.map change)))
    (asked : ∀ name next, (∀ change, property (next change)) →
      property ((mergeNew fetch name).andThen next))
    (base : List Parameter) (names : List Text) : property (mergeSorted fetch base names) := by
  induction names generalizing base with
  | nil => exact done _
  | cons name names ih =>
      unfold mergeSorted
      dsimp only
      split
      · exact asked name _ fun change => mapped _ _ (ih [])
      · next p rest _ =>
          split
          · exact mapped _ _ (ih rest)
          · exact asked name _ fun change => mapped _ _ (ih (p :: rest))

theorem endsWith_askNew_iff {gone : List Parameter} {merged : Talk (Except Failure Merge)}
    {exchanges : List Exchange} {m : Merge} :
    ((mergeNew fetchDetail name).andThen fun change =>
        merged.map (Except.map fun m => (change m).drop gone)).EndsWith exchanges (.ok m) ↔
      ∃ answer later inner, exchanges = ⟨.help name, answer⟩ :: later ∧
        IsSettled (detailOf name answer) ∧ merged.EndsWith later (.ok inner) ∧
        m = (Merge.settle name (detailOf name answer) inner).drop gone := by
  rw [Talk.endsWith_andThen_ok_iff]
  constructor
  · intro parts
    obtain ⟨first, change, second, rfl, asked, mergedLater⟩ := parts
    obtain ⟨answer, rfl, settled, rfl⟩ := endsWith_mergeNew_ok_iff.mp asked
    obtain ⟨inner, ends, rfl⟩ := Talk.endsWith_mapOk_iff.mp mergedLater
    exact ⟨answer, second, inner, rfl, settled, ends, rfl⟩
  · intro parts
    obtain ⟨answer, later, inner, rfl, settled, ends, rfl⟩ := parts
    exact ⟨[⟨.help name, answer⟩], _, later, rfl,
      endsWith_mergeNew_ok_iff.mpr ⟨answer, rfl, settled, rfl⟩,
      Talk.endsWith_mapOk_iff.mpr ⟨inner, ends, rfl⟩⟩

end Walk

/-- The requests for help on names, with the answers to them. -/
def helpExchanges (names : List Text) (answers : Text → Answer) : List Exchange :=
  names.map fun name => ⟨.help name, answers name⟩

/-- What comes of the requests for help under given answers. -/
def outcomeOf (answers : Text → Answer) (name : Text) : Except Failure Parameter :=
  detailOf name (answers name)

theorem helpExchanges_cons_update {names : List Text} {name : Text}
    (once : name ∉ names) (answers : Text → Answer) (answer : Answer) :
    helpExchanges (name :: names) (Function.update answers name answer) =
      ⟨.help name, answer⟩ :: helpExchanges names answers := by
  rw [helpExchanges, List.map_cons, Function.update_self]
  apply congrArg (List.cons _)
  apply List.map_congr_left
  intro other member
  have different : other ≠ name := fun same => once (same ▸ member)
  rw [Function.update_of_ne different]

theorem outcomeOf_update_self (answers : Text → Answer) (name : Text)
    (answer : Answer) :
    outcomeOf (Function.update answers name answer) name = detailOf name answer := by
  rw [outcomeOf, Function.update_self]

theorem outcomeOf_update_of_ne {name other : Text} (different : other ≠ name)
    (answers : Text → Answer) (answer : Answer) :
    outcomeOf (Function.update answers name answer) other = outcomeOf answers other := by
  rw [outcomeOf, Function.update_of_ne different, outcomeOf]

/-- A merge of ascending lists asks for help on each new name once, in ascending
order, and what it comes to can be said name by name. -/
theorem endsWith_mergeSorted_ok_iff {base : List Parameter} {names : List Text}
    {exchanges : List Exchange} {m : Merge}
    (baseAscends : (base.map (·.name)).Pairwise (· < ·))
    (namesAscend : names.Pairwise (· < ·)) :
    (mergeSorted fetchDetail base names).EndsWith exchanges (.ok m) ↔
      ∃ answers : Text → Answer,
        exchanges = helpExchanges (Merge.newNames base names) answers ∧
        (∀ name ∈ Merge.newNames base names, IsSettled (outcomeOf answers name)) ∧
        m = Merge.ofOutcomes base names (outcomeOf answers) := by
  induction names generalizing base exchanges m with
  | nil =>
      simp only [mergeSorted, Talk.endsWith_done_iff, Except.ok.injEq, Merge.ofOutcomes_nil]
      constructor
      · intro parts
        obtain ⟨rfl, rfl⟩ := parts
        have unasked : ∀ name ∈ Merge.newNames base [],
            IsSettled (outcomeOf (fun _ => .error .deadline) name) := by
          intro name new
          cases (Merge.mem_newNames.mp new).1
        exact ⟨fun _ => .error .deadline, rfl, unasked, rfl⟩
      · intro parts
        obtain ⟨answers, rfl, -, rfl⟩ := parts
        exact ⟨rfl, rfl⟩
  | cons name names ih =>
      obtain ⟨nameFirst, restAscends⟩ := List.pairwise_cons.mp namesAscend
      have once : name ∉ names := fun member => Std.lt_irrefl (nameFirst name member)
      -- The walk cuts `base` in two: what is smaller than `name` is gone for good.
      have whole := List.takeWhile_append_dropWhile (p := fun p : Parameter => p.name < name)
        (l := base)
      have unlisted : ∀ other ∈ name :: names,
          other ∉ (base.takeWhile (·.name < name)).map (·.name) :=
        not_mem_takeWhile namesAscend
      have merged : ∀ outcome, Merge.ofOutcomes base (name :: names) outcome =
          (Merge.ofOutcomes (base.dropWhile (·.name < name)) (name :: names) outcome).drop
            (base.takeWhile (·.name < name)) := by
        intro outcome
        conv => left; rw [← whole]
        exact Merge.ofOutcomes_append unlisted
      have tailAscends : ((base.dropWhile (·.name < name)).map (·.name)).Pairwise (· < ·) :=
        baseAscends.sublist ((List.dropWhile_sublist _).map _)
      rw [← newNames_dropWhile namesAscend]
      simp only [merged]
      rcases head_dropWhile_eq_or_not_mem name baseAscends with ⟨p, tail, split, same⟩ | new
      · subst same
        rw [split, List.map_cons, List.pairwise_cons] at tailAscends
        have alone : p.name ∉ tail.map (·.name) :=
          fun member => Std.lt_irrefl (tailAscends.1 p.name member)
        rw [mergeSorted_kept split rfl, Talk.endsWith_mapOk_iff, split,
          Merge.newNames_keep once]
        simp only [Merge.ofOutcomes_keep once alone]
        constructor
        · intro parts
          obtain ⟨inner, ends, rfl⟩ := parts
          obtain ⟨answers, rfl, settled, rfl⟩ := (ih tailAscends.2 restAscends).mp ends
          exact ⟨answers, rfl, settled, rfl⟩
        · intro parts
          obtain ⟨answers, rfl, settled, rfl⟩ := parts
          exact ⟨_, (ih tailAscends.2 restAscends).mpr ⟨answers, rfl, settled, rfl⟩, rfl⟩
      · rw [mergeSorted_new new, endsWith_askNew_iff, Merge.newNames_cons_of_not_mem new]
        simp only [Merge.ofOutcomes_settle new]
        have unasked : name ∉ Merge.newNames (base.dropWhile (·.name < name)) names :=
          fun member => once (Merge.mem_newNames.mp member).1
        constructor
        · intro parts
          obtain ⟨answer, later, inner, rfl, settled, ends, rfl⟩ := parts
          obtain ⟨answers, rfl, laterSettled, rfl⟩ := (ih tailAscends restAscends).mp ends
          have there : ∀ other ∈ Merge.newNames (base.dropWhile (·.name < name)) names,
              outcomeOf (Function.update answers name answer) other = outcomeOf answers other := by
            intro other member
            have different : other ≠ name := fun same => unasked (same ▸ member)
            exact outcomeOf_update_of_ne different answers answer
          refine ⟨Function.update answers name answer,
            (helpExchanges_cons_update unasked answers answer).symm, ?_, ?_⟩
          · intro other member
            rcases List.mem_cons.mp member with rfl | laterMember
            · rw [outcomeOf_update_self]
              exact settled
            · rw [there other laterMember]
              exact laterSettled other laterMember
          · rw [outcomeOf_update_self, Merge.ofOutcomes_congr there]
        · intro parts
          obtain ⟨answers, rfl, settled, rfl⟩ := parts
          refine ⟨answers name, helpExchanges _ answers, _, rfl,
            settled name List.mem_cons_self, ?_, rfl⟩
          exact (ih tailAscends restAscends).mpr ⟨answers, rfl,
            fun other member => settled other (List.mem_cons_of_mem name member), rfl⟩

end Tunables
