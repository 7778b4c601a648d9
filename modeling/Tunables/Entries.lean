import Tunables.Text

/-!
# Entries with keys

Entries keep the order in which their keys were first set.  Setting a key again
changes its value and not its place, so in entries made from pairs no key stands
twice, and each has the last value that it is paired with.
-/

namespace Tunables.Entries

def set {α : Type} (key : Text) (value : α) : List (Text × α) → List (Text × α)
  | [] => [(key, value)]
  | entry :: rest =>
      if entry.1 == key then (key, value) :: rest else entry :: set key value rest

/-- Setting a key keeps the keys that are there; a new key comes last. -/
theorem keys_set {α : Type} (key : Text) (value : α) (entries : List (Text × α)) :
    (set key value entries).map (·.1) =
      if key ∈ entries.map (·.1) then entries.map (·.1) else entries.map (·.1) ++ [key] := by
  induction entries with
  | nil => rfl
  | cons entry rest ih =>
      by_cases same : entry.1 = key
      · simp [set, same]
      · have other : ¬ key = entry.1 := fun equal => same equal.symm
        by_cases later : key ∈ rest.map (·.1)
        · simp only [set, same, beq_iff_eq, if_false, List.map_cons, ih, if_pos later]
          rw [if_pos (List.mem_cons_of_mem _ later)]
        · have absent : key ∉ entry.1 :: rest.map (·.1) := by
            simp only [List.mem_cons, not_or]
            exact ⟨other, later⟩
          simp only [set, same, beq_iff_eq, if_false, List.map_cons, ih, if_neg later,
            if_neg absent, List.cons_append]

/-- A new key comes last. -/
theorem set_of_not_mem {α : Type} {key : Text} {entries : List (Text × α)}
    (absent : key ∉ entries.map (·.1)) (value : α) :
    set key value entries = entries ++ [(key, value)] := by
  induction entries with
  | nil => rfl
  | cons entry rest ih =>
      rw [List.map_cons, List.mem_cons, not_or] at absent
      have other : (entry.1 == key) = false := by simpa using Ne.symm absent.1
      rw [set, other, if_neg Bool.false_ne_true, ih absent.2, List.cons_append]

/-- A key has the value that it was set to. -/
theorem lookup_set_self {α : Type} (key : Text) (value : α)
    (entries : List (Text × α)) : (set key value entries).lookup key = some value := by
  induction entries with
  | nil => simp [set]
  | cons entry rest ih =>
      obtain ⟨first, kept⟩ := entry
      by_cases same : first = key
      · simp [set, same]
      · have other : (key == first) = false := by
          simpa using fun equal : key = first => same equal.symm
        simp [set, same, List.lookup_cons, other, ih]

/-- Setting a key leaves the values of other keys as they are. -/
theorem lookup_set_of_ne {α : Type} {key other : Text} (different : other ≠ key)
    (value : α) (entries : List (Text × α)) :
    (set key value entries).lookup other = entries.lookup other := by
  have unequal : (other == key) = false := by simpa using different
  induction entries with
  | nil => simp [set, List.lookup_cons, unequal]
  | cons entry rest ih =>
      obtain ⟨first, kept⟩ := entry
      by_cases same : first = key
      · simp [set, same, List.lookup_cons, unequal]
      · simp [set, same, List.lookup_cons, ih]

/-- Setting a key changes the value of this key only. -/
theorem lookup_set {α : Type} (key other : Text) (value : α)
    (entries : List (Text × α)) :
    (set key value entries).lookup other =
      if other = key then some value else entries.lookup other := by
  by_cases same : other = key
  · rw [if_pos same, same]
    exact lookup_set_self key value entries
  · rw [if_neg same]
    exact lookup_set_of_ne same value entries

/-- Entries from pairs in the order written: a repeated key keeps its first place
and its last value. -/
def ofPairs {α : Type} (pairs : List (Text × α)) : List (Text × α) :=
  pairs.foldl (fun entries pair => set pair.1 pair.2 entries) []

/-- Setting a key makes no key stand twice. -/
theorem nodup_keys_set {α : Type} (key : Text) (value : α)
    {entries : List (Text × α)} (distinct : (entries.map (·.1)).Nodup) :
    ((set key value entries).map (·.1)).Nodup := by
  rw [keys_set]
  by_cases present : key ∈ entries.map (·.1)
  · rw [if_pos present]
    exact distinct
  · rw [if_neg present, List.nodup_append]
    refine ⟨distinct, List.nodup_cons.mpr ⟨List.not_mem_nil, List.nodup_nil⟩, ?_⟩
    intro first inEntries second isKey equal
    rw [List.mem_singleton] at isKey
    exact present (isKey ▸ equal ▸ inEntries)

/-- No key stands twice in entries made from pairs. -/
theorem nodup_keys_ofPairs {α : Type} (pairs : List (Text × α)) :
    ((ofPairs pairs).map (·.1)).Nodup := by
  suffices general : ∀ entries : List (Text × α), (entries.map (·.1)).Nodup →
      ((pairs.foldl (fun kept pair => set pair.1 pair.2 kept) entries).map (·.1)).Nodup from
    general [] List.nodup_nil
  induction pairs with
  | nil =>
      intro entries distinct
      exact distinct
  | cons pair rest ih =>
      intro entries distinct
      exact ih _ (nodup_keys_set pair.1 pair.2 distinct)

/-- Pairs in which no key stands twice are the entries made from them. -/
theorem ofPairs_of_nodup {α : Type} {pairs : List (Text × α)}
    (distinct : (pairs.map (·.1)).Nodup) : ofPairs pairs = pairs := by
  suffices general : ∀ entries : List (Text × α), ((entries ++ pairs).map (·.1)).Nodup →
      pairs.foldl (fun kept pair => set pair.1 pair.2 kept) entries = entries ++ pairs from
    general [] distinct
  clear distinct
  induction pairs with
  | nil =>
      intro entries _
      exact (List.append_nil entries).symm
  | cons pair rest ih =>
      intro entries distinct
      have absent : pair.1 ∉ entries.map (·.1) := by
        rw [List.map_append, List.map_cons, List.nodup_append] at distinct
        intro present
        exact distinct.2.2 pair.1 present pair.1 List.mem_cons_self rfl
      rw [List.foldl_cons, set_of_not_mem absent, ih]
      · rw [List.append_assoc, List.singleton_append]
      · rwa [List.append_assoc, List.singleton_append]

/-- In entries made from pairs a key has the last value that it is paired with. -/
theorem lookup_ofPairs {α : Type} (pairs : List (Text × α)) (key : Text) :
    (ofPairs pairs).lookup key = pairs.reverse.lookup key := by
  suffices general : ∀ entries : List (Text × α),
      (pairs.foldl (fun kept pair => set pair.1 pair.2 kept) entries).lookup key =
        (pairs.reverse.lookup key).or (entries.lookup key) by
    have whole := general []
    rw [List.lookup_nil, Option.or_none] at whole
    exact whole
  induction pairs with
  | nil =>
      intro entries
      rfl
  | cons pair rest ih =>
      obtain ⟨first, value⟩ := pair
      intro entries
      rw [List.foldl_cons, ih, lookup_set, List.reverse_cons, List.lookup_append,
        Option.or_assoc]
      apply congrArg (Option.or (rest.reverse.lookup key))
      by_cases same : key = first
      · simp [same]
      · have other : (key == first) = false := by simpa using same
        simp [List.lookup_cons, same, other]

end Tunables.Entries
