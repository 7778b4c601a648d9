import Tunables.Text

/-!
# Names in order

Names are ordered by code point.  A list of names is checked by looking at
neighbours only, which decides the order of the whole list.
-/

namespace Tunables

/-- How two neighbouring names break the strict order. -/
inductive OrderError where
  | duplicate (name : Text)
  | unsorted (previous current : Text)
  deriving DecidableEq, Repr

/-- The wording of names out of order. -/
def OrderError.message : OrderError → Text
  | .duplicate name => "Duplicate parameter name '" ++ name ++ "'"
  | .unsorted previous current =>
      "Parameter names not sorted: '" ++ previous ++ "' > '" ++ current ++ "'"

/-- Checks that names ascend strictly, from neighbour to neighbour. -/
def checkAscending : List Text → Except OrderError Unit
  | [] => .ok ()
  | [_] => .ok ()
  | previous :: current :: rest =>
      if previous = current then .error (.duplicate current)
      else if current < previous then .error (.unsorted previous current)
      else checkAscending (current :: rest)

/-- Names whose neighbours ascend strictly ascend strictly as a whole. -/
theorem pairwise_of_checkAscending {names : List Text}
    (checked : checkAscending names = .ok ()) : names.Pairwise (· < ·) := by
  fun_induction checkAscending names with
  | case1 => exact .nil
  | case2 name => exact List.pairwise_singleton _ _
  | case3 => simp at checked
  | case4 previous current rest different greater => simp at checked
  | case5 previous current rest different notGreater ih =>
      have ascending := ih checked
      have step : previous < current := by
        apply Classical.byContradiction
        intro notLess
        exact different (Std.le_antisymm (Std.not_lt.mp notGreater)
          (Std.not_lt.mp notLess))
      refine List.pairwise_cons.mpr ⟨fun name member => ?_, ascending⟩
      rcases List.mem_cons.mp member with rfl | later
      · exact step
      · exact Std.lt_trans step ((List.pairwise_cons.mp ascending).1 name later)

/-- Sorts by a text that belongs to each item; items with the same text keep
their order. -/
def sortByText {α : Type} (text : α → Text) (items : List α) : List α :=
  items.mergeSort fun a b => text a ≤ text b

/-- Sorting loses nothing and adds nothing. -/
theorem perm_sortByText {α : Type} (text : α → Text) (items : List α) :
    (sortByText text items).Perm items :=
  List.mergeSort_perm items _

/-- Sorted items ascend, each against all later ones. -/
theorem pairwise_sortByText {α : Type} (text : α → Text) (items : List α) :
    (sortByText text items).Pairwise fun a b => text a ≤ text b := by
  have ascending :
      (sortByText text items).Pairwise fun a b => decide (text a ≤ text b) = true := by
    apply List.pairwise_mergeSort
    · intro a b c first second
      rw [decide_eq_true_eq] at first second ⊢
      exact Std.le_trans first second
    · intro a b
      rw [Bool.or_eq_true, decide_eq_true_eq, decide_eq_true_eq]
      exact Std.le_total
  exact ascending.imp fun ordered => of_decide_eq_true ordered

end Tunables
