import Tunables.Proofs.JsonText

/-!
# Objects read back

The reader takes an object from the front of its text if it takes the values of the
members from the front of theirs.  It gives the object with the surrogate pairs of all
texts joined, and keys that become the same by this share a place.
-/

namespace Tunables.Json

variable {fuel : Nat} {rest : List CodePoint}

/-- The reader takes a value from the front of its text, whatever stands behind it, and
joins its surrogate pairs.  Fuel for each character is enough. -/
def ReadsBack (v : Json) : Prop :=
  ∀ (fuel : Nat) (rest : List CodePoint), v.chars.length ≤ fuel →
    readValue fuel (skipSpacing (v.chars.map .char ++ rest)) = .ok (v.joined, rest)

theorem readsBack_string (text : Text) : (string text).ReadsBack := by
  intro fuel rest enough
  cases fuel with
  | zero => exact absurd enough (by simp [chars, stringChars])
  | succ fuel =>
      rw [chars, map_stringChars_append]
      change (readString _).map _ = _
      rw [readString_flatMap]
      rfl

/-! ## Members -/

/-- What the reader makes of the text behind an entry: the object ends or has further
entries. -/
def readAfterEntry (fuel : Nat) (entry : Text × Json) (text : List CodePoint) :
    Reading (List (Text × Json)) :=
  match skipSpacing text with
  | .char '}' :: after => .ok ([entry], after)
  | .char ',' :: after =>
      (readEntries fuel (skipSpacing after)).map
        fun (entries, others) => (entry :: entries, others)
  | others => faultAt .expectingComma others

theorem readEntries_entryChars {entry : Text × Json} (value : entry.2.ReadsBack)
    (enough : (entryChars entry).length ≤ fuel) :
    readEntries (fuel + 1) ((entryChars entry).map .char ++ rest) =
      readAfterEntry fuel (joinedEntry entry) rest := by
  have fueled : entry.2.chars.length ≤ fuel := by
    simp only [entryChars, List.length_append] at enough
    omega
  have colon : skipSpacing (": ".toList.map .char ++ (entry.2.chars.map .char ++ rest)) =
      .char ':' :: .char ' ' :: (entry.2.chars.map .char ++ rest) := rfl
  have space : skipSpacing (.char ' ' :: (entry.2.chars.map .char ++ rest)) =
      skipSpacing (entry.2.chars.map .char ++ rest) := rfl
  rw [entryChars, List.map_append, List.map_append, List.append_assoc, List.append_assoc,
    map_stringChars_append, readEntries]
  simp only [readString_flatMap, colon, space, value fuel rest fueled]
  rfl

theorem readEntries_row {entries : Members} (some : entries ≠ [])
    (each : ∀ entry ∈ entries, entry.2.ReadsBack)
    (enough : (row entryChars entries).length < fuel) :
    readEntries fuel ((row entryChars entries).map .char ++ .char '}' :: rest) =
      .ok (joinedEntries entries, rest) := by
  induction entries generalizing fuel with
  | nil => exact absurd rfl some
  | cons entry entries induction =>
      obtain ⟨fuel, rfl⟩ := Nat.exists_eq_add_one.mpr (Nat.zero_lt_of_lt enough)
      have value : entry.2.ReadsBack := each entry List.mem_cons_self
      have fueled : (entryChars entry).length ≤ fuel := by
        rw [row, List.length_append] at enough
        omega
      rw [row, List.map_append, List.append_assoc]
      cases entries with
      | nil => exact readEntries_entryChars value fueled
      | cons next others =>
          have remaining : (row entryChars (next :: others)).length < fuel := by
            rw [row, further_cons, List.length_append, List.length_cons, List.length_cons] at enough
            omega
          have read := induction (List.cons_ne_nil next others)
            (fun other member => each other (List.mem_cons_of_mem entry member)) remaining
          rw [further_cons, List.map_cons, List.map_cons, List.cons_append, List.cons_append,
            readEntries_entryChars value fueled]
          -- The reader skips the comma and the space in front of the next key.
          change (readEntries fuel ((row entryChars (next :: others)).map .char ++
            .char '}' :: rest)).map _ = _
          rw [read]
          rfl

/-! ## Objects -/

variable {members : Members}

theorem readValue_object (each : ∀ entry ∈ members, entry.2.ReadsBack)
    (enough : (object members).chars.length ≤ fuel) :
    readValue fuel (skipSpacing ((object members).chars.map .char ++ rest)) =
      .ok (object (Members.ofEntries (joinedEntries members)), rest) := by
  have shape : (object members).chars = '{' :: row entryChars members ++ ['}'] := by
    rw [chars, entriesChars_eq_row]
  rw [shape, List.length_append, List.length_cons, List.length_singleton] at enough
  obtain ⟨fuel, rfl⟩ := Nat.exists_eq_add_one.mpr (Nat.zero_lt_of_lt enough)
  rw [shape, List.map_append, List.map_cons, List.map_singleton, List.cons_append,
    List.cons_append, List.append_assoc, List.singleton_append]
  cases members with
  | nil => rfl
  | cons entry others =>
      change (readEntries fuel ((row entryChars (entry :: others)).map .char ++
        .char '}' :: rest)).map _ = _
      rw [readEntries_row (List.cons_ne_nil entry others) each (by omega)]
      rfl

/-- The text of an object is read as the object of its joined members. -/
theorem read_write_object (each : ∀ entry ∈ members, entry.2.ReadsBack) :
    read (object members).write = .ok (object (Members.ofEntries (joinedEntries members))) := by
  have value := @readValue_object (2 * ((object members).chars.map CodePoint.char).length + 2) []
    members each (by rw [List.length_map]; omega)
  rw [List.append_nil] at value
  -- The text starts with a brace, so there is no byte order mark to refuse.
  rw [read, write, Text.toList_ofString, String.toList_ofList]
  change (readDocument ((object members).chars.map .char)).mapError _ = _
  rw [readDocument, value]
  rfl

end Tunables.Json
