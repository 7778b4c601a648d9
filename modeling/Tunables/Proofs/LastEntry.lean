import Mathlib.Data.List.Find
import Tunables.Entries

/-!
# The last entry of a name

Among entries that are looked up from the end, the last one under certain names decides.
Entries under other names do not matter for it.
-/

namespace Tunables

/-- The last value given under certain names. -/
def lastWhere {α : Type} (p : Text → Bool) (entries : List (Text × α)) : Option α :=
  (entries.reverse.find? fun entry => p entry.1).map (·.2)

section
variable {α : Type} {p q : Text → Bool} {entries others : List (Text × α)} {key : Text}

theorem lastWhere_append (p : Text → Bool) (entries others : List (Text × α)) :
    lastWhere p (entries ++ others) = (lastWhere p others).or (lastWhere p entries) := by
  simp only [lastWhere, List.reverse_append, List.find?_append, Option.map_or]

theorem lastWhere_map (p : Text → Bool) (rename : Text → Text)
    (entries : List (Text × α)) :
    lastWhere p (entries.map fun entry => (rename entry.1, entry.2)) =
      lastWhere (fun name => p (rename name)) entries := by
  rw [lastWhere, lastWhere, ← List.map_reverse, List.find?_map, Option.map_map]
  rfl

theorem lastWhere_filter (selects : ∀ name, p name = true → q name = true)
    (entries : List (Text × α)) :
    lastWhere p (entries.filter fun entry => q entry.1) = lastWhere p entries := by
  unfold lastWhere
  rw [← List.filter_reverse, List.find?_filter]
  apply congrArg
  apply List.find?_congr
  intro entry _
  rw [Bool.eq_iff_iff, decide_eq_true_iff, and_iff_right_iff_imp]
  exact selects entry.1

theorem lastWhere_eq_of_filter_eq (selects : ∀ name, p name = true → q name = true)
    (same : (entries.filter fun entry => q entry.1) = others.filter fun entry => q entry.1) :
    lastWhere p entries = lastWhere p others := by
  rw [← lastWhere_filter selects entries, same, lastWhere_filter selects]

theorem lastWhere_congr (agree : ∀ name ∈ entries.map (·.1), p name = q name) :
    lastWhere p entries = lastWhere q entries := by
  unfold lastWhere
  apply congrArg
  apply List.find?_congr
  intro entry member
  exact agree entry.1 (List.mem_map_of_mem (List.mem_reverse.mp member))

theorem lastWhere_eq_none_iff :
    lastWhere p entries = none ↔ ∀ name ∈ entries.map (·.1), p name = false := by
  simp [lastWhere]

theorem lookup_reverse_eq_lastWhere (key : Text) (entries : List (Text × α)) :
    entries.reverse.lookup key = lastWhere (· == key) entries := by
  unfold lastWhere
  induction entries.reverse with
  | nil => rfl
  | cons entry rest ih =>
      obtain ⟨first, value⟩ := entry
      by_cases same : key = first
      · simp [same]
      · have other : (key == first) = false := by simpa using same
        have others : ¬ first = key := fun equal => same equal.symm
        simp [List.lookup_cons, other, others, ih]

theorem mem_keys_iff_lookup : key ∈ entries.map (·.1) ↔ (entries.lookup key).isSome = true := by
  simp only [List.lookup_isSome_iff, List.mem_map, beq_iff_eq, @eq_comm _ key]

theorem lookup_reverse_of_nodup (distinct : (entries.map (·.1)).Nodup) (key : Text) :
    entries.reverse.lookup key = entries.lookup key := by
  induction entries with
  | nil => rfl
  | cons entry rest ih =>
      obtain ⟨first, value⟩ := entry
      obtain ⟨alone, later⟩ := List.nodup_cons.mp distinct
      rw [List.reverse_cons, List.lookup_append, ih later]
      by_cases same : key = first
      · have absent : rest.lookup key = none := by
          rw [← Option.not_isSome_iff_eq_none, ← mem_keys_iff_lookup, same]
          exact alone
        rw [absent]
        simp [same]
      · have other : (key == first) = false := by simpa using same
        simp [List.lookup_cons, other]

/-- A name that occurs among pairs has its last value in the entries made from them. -/
theorem lastWhere_ofPairs {pairs : List (Text × α)}
    (single : ∀ name ∈ pairs.map (·.1), p name = (name == key)) :
    lastWhere p (Entries.ofPairs pairs) = lastWhere p pairs := by
  have singleEntry : ∀ name ∈ (Entries.ofPairs pairs).map (·.1), p name = (name == key) := by
    intro name member
    rw [mem_keys_iff_lookup, Entries.lookup_ofPairs, ← mem_keys_iff_lookup, List.map_reverse,
      List.mem_reverse] at member
    exact single name member
  rw [lastWhere_congr singleEntry, lastWhere_congr single, ← lookup_reverse_eq_lastWhere,
    ← lookup_reverse_eq_lastWhere, lookup_reverse_of_nodup (Entries.nodup_keys_ofPairs pairs),
    Entries.lookup_ofPairs]

end

end Tunables
