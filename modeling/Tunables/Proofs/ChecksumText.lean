import Tunables.Proofs.JsonText
import Tunables.Proofs.RoundTrip

/-!
# The text behind a checksum determines the catalog

The text that stands for records in their checksum has its members in the order of
keys.  A parameter is read back from its record in that order too, and a text is the
text of one value only, up to surrogate pairs.  So catalogs with the same text are the
same, unless a text in one has a surrogate pair where the other has the character that the
pair encodes.
-/

namespace Tunables

/-! ## Members in order -/

namespace Json

variable {entries rest : Members} {entry : Text × Json} {key : Text}

theorem get?_insertByKey (absent : Members.get? rest entry.1 = none) (key : Text) :
    Members.get? (insertByKey entry rest) key =
      if entry.1 = key then some entry.2 else Members.get? rest key := by
  induction rest with
  | nil => exact Members.get?_cons entry [] key
  | cons next rest induction =>
      rw [insertByKey]
      split
      · exact Members.get?_cons entry (next :: rest) key
      · -- The entry goes behind `next`, which has another key because the key is new.
        rw [Members.get?_cons] at absent ⊢
        split at absent
        · cases absent
        · next different =>
            rw [induction absent, Members.get?_cons]
            by_cases same : entry.1 = key
            · rw [if_pos same, if_pos same, if_neg (same ▸ different)]
            · rw [if_neg same, if_neg same]

/-- In order each key has its value, with the members of that in order too. -/
theorem get?_sortKeysInEntries (distinct : (entries.map (·.1)).Nodup) (key : Text) :
    Members.get? (sortKeysInEntries entries) key = (Members.get? entries key).map sortKeys := by
  induction entries generalizing key with
  | nil => rfl
  | cons entry entries induction =>
      obtain ⟨alone, later⟩ := List.nodup_cons.mp distinct
      obtain ⟨first, value⟩ := entry
      have absent : Members.get? (sortKeysInEntries entries) first = none := by
        rw [induction later, Members.get?_eq_none_of_not_mem alone]
        rfl
      rw [sortKeysInEntries, @get?_insertByKey _ (first, value.sortKeys) absent, Members.get?_cons,
        induction later]
      split <;> rfl

theorem insertByKey_perm (entry : Text × Json) (rest : List (Text × Json)) :
    (insertByKey entry rest).Perm (entry :: rest) := by
  induction rest with
  | nil => exact .refl _
  | cons next rest ih =>
      rw [insertByKey]
      split
      · exact .refl _
      · exact (ih.cons next).trans (.swap entry next rest)

/-- No pair of surrogates is in the keys of some entries. -/
def HasJoinedKeys (entries : List (Text × Json)) : Prop :=
  ∀ entry ∈ entries, entry.1.joined = entry.1

theorem hasJoinedKeys_sortKeysInEntries (joinedKeys : HasJoinedKeys entries) :
    HasJoinedKeys (sortKeysInEntries entries) := by
  induction entries with
  | nil => exact joinedKeys
  | cons first rest ih =>
      obtain ⟨key, value⟩ := first
      obtain ⟨joinedKey, later⟩ := List.forall_mem_cons.mp joinedKeys
      intro entry member
      rcases List.mem_cons.mp ((insertByKey_perm _ _).subset member) with rfl | inRest
      · exact joinedKey
      · exact ih later entry inRest

theorem map_joinedEntry_insertByKey (joinedKey : entry.1.joined = entry.1)
    (joinedKeys : HasJoinedKeys rest) :
    (insertByKey entry rest).map joinedEntry =
      insertByKey (joinedEntry entry) (rest.map joinedEntry) := by
  induction rest with
  | nil => rfl
  | cons next rest ih =>
      obtain ⟨nextKey, later⟩ := List.forall_mem_cons.mp joinedKeys
      have keys : (joinedEntry entry).1 = entry.1 ∧ (joinedEntry next).1 = next.1 :=
        ⟨joinedKey, nextKey⟩
      rw [insertByKey, List.map_cons, insertByKey, keys.1, keys.2]
      split
      · rfl
      · rw [List.map_cons, ih later]

/-- Entries that keep their keys are joined before or after they are put in order. -/
theorem joinedEntries_sortKeysInEntries (joinedKeys : HasJoinedKeys entries)
    (each : ∀ entry ∈ entries, entry.2.sortKeys.joined = entry.2.joined.sortKeys) :
    joinedEntries (sortKeysInEntries entries) = sortKeysInEntries (joinedEntries entries) := by
  induction entries with
  | nil => rfl
  | cons first rest ih =>
      obtain ⟨key, value⟩ := first
      obtain ⟨joinedKey, later⟩ := List.forall_mem_cons.mp joinedKeys
      obtain ⟨joinedValue, laterValues⟩ := List.forall_mem_cons.mp each
      have sorted := ih later laterValues
      rw [joinedEntries_eq_map] at sorted
      rw [sortKeysInEntries, joinedEntries_eq_map,
        @map_joinedEntry_insertByKey _ (key, value.sortKeys) joinedKey
          (hasJoinedKeys_sortKeysInEntries later), sorted, joinedEntries, sortKeysInEntries,
        joinedEntry, joinedValue]

theorem sortKeysInItems_eq_map (items : List Json) : sortKeysInItems items = items.map sortKeys := by
  induction items with
  | nil => rfl
  | cons item items induction => rw [sortKeysInItems, induction, List.map_cons]

end Json

/-! ## Records in order -/

namespace Parameter

variable {p : Parameter} {key : Text} {value : Json}

theorem sortKeys_textsToJson (texts : List Text) :
    (textsToJson texts).sortKeys = textsToJson texts := by
  have unchanged : Json.sortKeys ∘ Json.string = Json.string := by
    funext text
    rfl
  rw [textsToJson, Json.sortKeys, Json.sortKeysInItems_eq_map, List.map_map, unchanged]

theorem sortKeys_toJson (scalar : Scalar) : scalar.toJson.sortKeys = scalar.toJson := by
  unfold Scalar.toJson
  cases scalar.content with
  | none => rfl
  | some content => cases content <;> rfl

theorem sortKeys_boundToJson (bound : Bound) : bound.toJson.sortKeys = bound.toJson := by
  cases bound <;> rfl

/-- No field of a record has members of its own. -/
theorem sortKeys_of_mem_recordMembers (member : (key, value) ∈ p.recordMembers) :
    value.sortKeys = value := by
  have unchanged : ∀ entry ∈ p.recordMembers, entry.2.sortKeys = entry.2 := by
    simp [recordMembers, Json.sortKeys, sortKeys_textsToJson, sortKeys_toJson,
      sortKeys_boundToJson]
  exact unchanged (key, value) member

/-- In the sorted record of a parameter each member has its value. -/
theorem get?_sortKeysInEntries_recordMembers (member : (key, value) ∈ p.recordMembers) :
    Members.get? (Json.sortKeysInEntries p.recordMembers) key = some value := by
  rw [Json.get?_sortKeysInEntries (by simp [recordMembers]), get?_recordMembers member,
    Option.map_some, sortKeys_of_mem_recordMembers member]

theorem ofRecord_sortKeys_toRecord (plain : p.HasPlainScalars) :
    ofRecord p.toRecord.sortKeys = .ok p := by
  rw [toRecord, Json.sortKeys, ofRecord_eq_ok_iff]
  exact ⟨_, rfl, isReadFrom_of_holds plain get?_sortKeysInEntries_recordMembers⟩

end Parameter

/-! ## Joined parameters -/

/-- A content with the surrogate pairs of its text joined. -/
def ScalarContent.joined : ScalarContent → ScalarContent
  | .text value => .text value.joined
  | other => other

def Scalar.joined (s : Scalar) : Scalar :=
  ⟨s.kind, s.content.map ScalarContent.joined⟩

theorem Scalar.toJson_joined (s : Scalar) : s.joined.toJson = s.toJson.joined := by
  obtain ⟨kind, content⟩ := s
  cases content with
  | none => rfl
  | some content => cases content <;> rfl

theorem Scalar.ofJson_joined (value : Json) : ofJson value.joined = (ofJson value).joined := by
  cases value with
  | bool truth => cases truth <;> simp [Json.joined, ofJson, ofText, joined, ScalarContent.joined]
  | null | int | real | string | array | object => rfl

theorem Scalar.IsPlain.joined {s : Scalar} (plain : s.IsPlain) : s.joined.IsPlain := by
  rw [IsPlain, toJson_joined, ofJson_joined, plain]

theorem Bound.joined_toJson (bound : Bound) : bound.toJson.joined = bound.toJson := by
  cases bound <;> rfl

namespace Parameter

variable {p q : Parameter}

/-- A parameter with the surrogate pairs of its texts joined. -/
def joined (p : Parameter) : Parameter where
  name := p.name.joined
  valueType := p.valueType.joined
  level := p.level.joined
  description := p.description.joined
  longDescription := p.longDescription.joined
  default := p.default.joined
  daemonDefault := p.daemonDefault.joined
  tags := p.tags.map Text.joined
  services := p.services.map Text.joined
  seeAlso := p.seeAlso.map Text.joined
  enumValues := p.enumValues.map Text.joined
  min := p.min
  max := p.max
  canUpdateAtRuntime := p.canUpdateAtRuntime
  flags := p.flags.map Text.joined

theorem joined_textsToJson (texts : List Text) :
    (textsToJson texts).joined = textsToJson (texts.map Text.joined) := by
  rw [textsToJson, textsToJson, Json.joined, Json.joinedItems_eq_map, List.map_map, List.map_map]
  rfl

theorem joinedEntries_recordMembers (p : Parameter) :
    Json.joinedEntries p.recordMembers = p.joined.recordMembers := by
  simp [recordMembers, Json.joinedEntries, Json.joined, joined, joined_textsToJson,
    Scalar.toJson_joined, Bound.joined_toJson]

theorem hasJoinedKeys_recordMembers (p : Parameter) : Json.HasJoinedKeys p.recordMembers := by
  simp [Json.HasJoinedKeys, recordMembers]

/-- The sorted record of a joined parameter is the joined sorted record. -/
theorem joined_sortKeys_toRecord (p : Parameter) :
    p.toRecord.sortKeys.joined = p.joined.toRecord.sortKeys := by
  have each : ∀ entry ∈ p.recordMembers, entry.2.sortKeys.joined = entry.2.joined.sortKeys := by
    rintro ⟨key, value⟩ member
    have image : (key.joined, value.joined) ∈ p.joined.recordMembers := by
      rw [← joinedEntries_recordMembers, Json.joinedEntries_eq_map]
      exact List.mem_map_of_mem member
    rw [sortKeys_of_mem_recordMembers member, sortKeys_of_mem_recordMembers image]
  rw [toRecord, toRecord, Json.sortKeys, Json.sortKeys, Json.joined,
    Json.joinedEntries_sortKeysInEntries p.hasJoinedKeys_recordMembers each,
    joinedEntries_recordMembers]

theorem HasPlainScalars.joined (plain : p.HasPlainScalars) : p.joined.HasPlainScalars :=
  ⟨plain.1.joined, plain.2.joined⟩

end Parameter

namespace Catalog

variable {c d : Catalog}

/-- Every parameter of a catalog was read from a record. -/
def IsOfRecords (c : Catalog) : Prop :=
  ∀ p ∈ c.parameters, ∃ record, Parameter.ofRecord record = .ok p

theorem reads_sortKeys (origin : c.IsOfRecords) :
    Parameter.Reads (c.parameters.map fun p => p.joined.toRecord.sortKeys)
      (c.parameters.map Parameter.joined) := by
  rw [Parameter.Reads, List.forall₂_map_left_iff, List.forall₂_map_right_iff, List.forall₂_same]
  intro p member
  obtain ⟨record, read⟩ := origin p member
  exact Parameter.ofRecord_sortKeys_toRecord (Parameter.hasPlainScalars_of_ofRecord read).joined

theorem joined_sortKeys_records (c : Catalog) :
    (Json.array c.records).sortKeys.joined =
      .array (c.parameters.map fun p => p.joined.toRecord.sortKeys) := by
  rw [Json.sortKeys, Json.joined, Json.joinedItems_eq_map, Json.sortKeysInItems_eq_map, records,
    List.map_map, List.map_map]
  exact congrArg Json.array (List.map_congr_left fun p _ => p.joined_sortKeys_toRecord)

theorem checksumText_eq_iff_records (c d : Catalog) :
    checksumText (.array c.records) = checksumText (.array d.records) ↔
      (c.parameters.map fun p => p.joined.toRecord.sortKeys) =
        d.parameters.map fun p => p.joined.toRecord.sortKeys := by
  rw [checksumText, checksumText, Json.writeSorted, Json.writeSorted, Json.write_eq_write_iff,
    joined_sortKeys_records, joined_sortKeys_records, Json.array.injEq]

/-- A catalog of one parameter with a description. -/
def ofDescription (description : Text) : Catalog :=
  ⟨[{ Parameter.named "a" with description }], List.pairwise_singleton _ _⟩

theorem isOfRecords_ofDescription (description : Text) :
    (ofDescription description).IsOfRecords := by
  intro p member
  rw [ofDescription, List.mem_singleton] at member
  have plain : p.HasPlainScalars := member ▸ ⟨rfl, rfl⟩
  exact ⟨p.toRecord, Parameter.ofRecord_toRecord plain⟩

/-- A catalog of one parameter with the default value of a record. -/
def ofDefault (value : Json) : Catalog :=
  ⟨[{ Parameter.named "a" with default := .ofJson value }], List.pairwise_singleton _ _⟩

theorem isOfRecords_ofDefault (value : Json) : (ofDefault value).IsOfRecords := by
  intro p member
  rw [ofDefault, List.mem_singleton] at member
  have plain : p.HasPlainScalars := member ▸ ⟨Scalar.isPlain_ofJson value, rfl⟩
  exact ⟨p.toRecord, Parameter.ofRecord_toRecord plain⟩

end Catalog
end Tunables
