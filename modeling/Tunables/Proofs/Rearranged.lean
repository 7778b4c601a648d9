import Mathlib.Data.List.Find
import Mathlib.Data.List.Perm.Basic
import Tunables.Proofs.Baseline

/-!
# Datasets in another order

Fields are found by their keys, and the parameters of a catalog are sorted.  So the
order of records and of their members says nothing, and neither do members under
keys that no field goes by.
-/

namespace Tunables

/-! ## The fields of a record -/

namespace Parameter

/-- The keys that the fields of a parameter go by; two of them go by two keys each. -/
def recordKeys : List Text :=
  ["name", "type", "level", "desc", "description", "long_desc", "long_description", "default",
    "daemon_default", "tags", "services", "see_also", "enum_values", "min", "max",
    "can_update_at_runtime", "flags"]

/-- The members under these keys. -/
def fieldMembers (members : Members) : Members :=
  members.filter fun member => recordKeys.contains member.1

/-- Members that have the same value under every key that a field goes by. -/
def Agree (members others : Members) : Prop :=
  ∀ key ∈ recordKeys, members.get? key = others.get? key

variable {members others : Members} {key longKey : Text}

theorem get?_fieldMembers (known : key ∈ recordKeys) :
    (fieldMembers members).get? key = members.get? key := by
  unfold Members.get? fieldMembers
  rw [List.find?_filter]
  apply congrArg (Option.map _)
  apply List.find?_congr
  intro member _
  by_cases same : member.1 = key
  · subst same
    simp [known]
  · simp [same]

/-- When no key stands twice the order of members says nothing. -/
theorem get?_eq_of_perm (distinct : (members.map (·.1)).Nodup) (same : members.Perm others) :
    members.get? key = others.get? key := by
  unfold Members.get?
  rw [List.find?_eq_find?_of_perm same]
  rintro first ⟨inMembers, firstKey⟩ second ⟨alsoInMembers, secondKey⟩
  rw [beq_iff_eq] at firstKey secondKey
  exact List.inj_on_of_nodup_map distinct inMembers alsoInMembers
    (firstKey.trans secondKey.symm)

theorem agree_of_perm (distinct : (members.map (·.1)).Nodup)
    (same : (fieldMembers members).Perm (fieldMembers others)) : Agree members others := by
  intro key known
  have fieldsDistinct : ((fieldMembers members).map (·.1)).Nodup :=
    distinct.sublist (List.filter_sublist.map _)
  calc members.get? key
      = (fieldMembers members).get? key := (get?_fieldMembers known).symm
    _ = (fieldMembers others).get? key := get?_eq_of_perm fieldsDistinct same
    _ = others.get? key := get?_fieldMembers known

theorem readName_congr (same : members.get? "name" = others.get? "name") :
    readName members = readName others := by
  rw [readName, readName, same]

theorem readText_congr (same : members.get? key = others.get? key) :
    readText key members = readText key others := by
  rw [readText, readText, same]

theorem readAliasedText_congr (same : members.get? key = others.get? key)
    (sameLong : members.get? longKey = others.get? longKey) :
    readAliasedText key longKey members = readAliasedText key longKey others := by
  unfold readAliasedText
  rw [same]
  split
  · exact readText_congr same
  · exact readText_congr sameLong

theorem readScalar_congr (same : members.get? key = others.get? key) :
    readScalar key members = readScalar key others := by
  rw [readScalar, readScalar, same]

theorem readTexts_congr (same : members.get? key = others.get? key) :
    readTexts key members = readTexts key others := by
  rw [readTexts, readTexts, same]

theorem readBound_congr (same : members.get? key = others.get? key) :
    readBound key members = readBound key others := by
  rw [readBound, readBound, same]

theorem readTruth_congr (same : members.get? key = others.get? key) :
    readTruth key members = readTruth key others := by
  rw [readTruth, readTruth, same]

/-- A parameter is read from its fields alone. -/
theorem Agree.ofRecord_eq (agree : Agree members others) :
    ofRecord (.object members) = ofRecord (.object others) := by
  have fields : readFields members = readFields others := by
    funext min max
    unfold readFields
    rw [readName_congr (agree _ (by simp [recordKeys])),
      readText_congr (agree "type" (by simp [recordKeys])),
      readText_congr (agree "level" (by simp [recordKeys])),
      readAliasedText_congr (agree "desc" (by simp [recordKeys]))
        (agree "description" (by simp [recordKeys])),
      readAliasedText_congr (agree "long_desc" (by simp [recordKeys]))
        (agree "long_description" (by simp [recordKeys])),
      readScalar_congr (agree "default" (by simp [recordKeys])),
      readScalar_congr (agree "daemon_default" (by simp [recordKeys])),
      readTexts_congr (agree "tags" (by simp [recordKeys])),
      readTexts_congr (agree "services" (by simp [recordKeys])),
      readTexts_congr (agree "see_also" (by simp [recordKeys])),
      readTexts_congr (agree "enum_values" (by simp [recordKeys])),
      readTruth_congr (agree "can_update_at_runtime" (by simp [recordKeys])),
      readTexts_congr (agree "flags" (by simp [recordKeys]))]
  unfold ofRecord
  dsimp only
  rw [readBound_congr (agree "min" (by simp [recordKeys])),
    readBound_congr (agree "max" (by simp [recordKeys])), fields]

/-- Whether a record is well-formed depends on its fields alone. -/
theorem Agree.admits_iff (agree : Agree members others) :
    Schema.helpRecord.Admits (.object members) ↔ Schema.helpRecord.Admits (.object others) := by
  simp [Schema.helpRecord, Schema.Admits, HasRequired, MembersAdmit, Json.member?,
    JsonType.admits, agree "name" (by simp [recordKeys]), agree "type" (by simp [recordKeys]),
    agree "level" (by simp [recordKeys]), agree "tags" (by simp [recordKeys]),
    agree "services" (by simp [recordKeys]),
    agree "can_update_at_runtime" (by simp [recordKeys])]

end Parameter

/-- Two values are one record to a reader: they are equal, or they are objects with the
same members under the keys that fields go by, in any order and among any others. -/
inductive Json.IsSameRecord : Json → Json → Prop where
  | refl (value : Json) : IsSameRecord value value
  | object {members others : Members} (distinct : (members.map (·.1)).Nodup)
      (otherDistinct : (others.map (·.1)).Nodup)
      (same : (Parameter.fieldMembers members).Perm (Parameter.fieldMembers others)) :
      IsSameRecord (.object members) (.object others)

namespace Json.IsSameRecord

variable {record other : Json}

theorem symm (same : IsSameRecord record other) : IsSameRecord other record := by
  cases same with
  | refl => exact .refl _
  | object distinct otherDistinct same => exact .object otherDistinct distinct same.symm

theorem ofRecord_eq (same : IsSameRecord record other) :
    Parameter.ofRecord record = Parameter.ofRecord other := by
  cases same with
  | refl => rfl
  | object distinct _ same => exact (Parameter.agree_of_perm distinct same).ofRecord_eq

theorem admits_iff (same : IsSameRecord record other) :
    Schema.helpRecord.Admits record ↔ Schema.helpRecord.Admits other := by
  cases same with
  | refl => rfl
  | object distinct _ same => exact (Parameter.agree_of_perm distinct same).admits_iff

end Json.IsSameRecord

/-! ## The records of a dataset -/

/-- The second records are the first ones in another order, and each of them may have its
members in another order and other members besides those of its fields. -/
def IsRearranged (records others : List Json) : Prop :=
  ∃ reordered, records.Perm reordered ∧ List.Forall₂ Json.IsSameRecord reordered others

namespace IsRearranged

variable {records others : List Json} {parameters : List Parameter}

theorem symm (rearranged : IsRearranged records others) : IsRearranged others records := by
  obtain ⟨reordered, permuted, same⟩ := rearranged
  have back : List.Forall₂ Json.IsSameRecord others reordered :=
    same.flip.imp fun _ _ => Json.IsSameRecord.symm
  have swapped := List.forall₂_comp_perm_eq_perm_comp_forall₂ (r := Json.IsSameRecord)
  exact (congrFun (congrFun swapped others) records).mp ⟨reordered, back, permuted.symm⟩

theorem admits (rearranged : IsRearranged records others)
    (admitted : ∀ record ∈ records, Schema.helpRecord.Admits record) :
    ∀ record ∈ others, Schema.helpRecord.Admits record := by
  obtain ⟨reordered, permuted, same⟩ := rearranged
  have wellFormed : ∀ record ∈ reordered, Schema.helpRecord.Admits record :=
    fun record member => admitted record (permuted.mem_iff.mpr member)
  clear permuted
  induction same with
  | nil => nofun
  | cons first _ ih =>
      rw [List.forall_mem_cons] at wellFormed ⊢
      exact ⟨first.admits_iff.mp wellFormed.1, ih wellFormed.2⟩

/-- Rearranged records give the same parameters in another order. -/
theorem reads (rearranged : IsRearranged records others)
    (reads : Parameter.Reads records parameters) :
    ∃ reordered, Parameter.Reads others reordered ∧ reordered.Perm parameters := by
  obtain ⟨between, permuted, same⟩ := rearranged
  obtain ⟨reordered, readsBetween, sameParameters⟩ := List.perm_comp_forall₂ permuted.symm reads
  refine ⟨reordered, ?_, sameParameters⟩
  clear permuted sameParameters
  induction same generalizing reordered with
  | nil => exact readsBetween
  | cons first _ ih =>
      obtain ⟨p, rest, read, readsRest, rfl⟩ := List.forall₂_cons_left_iff.mp readsBetween
      exact .cons (first.ofRecord_eq ▸ read) (ih rest readsRest)

end IsRearranged

namespace Baseline

variable {document other : Document} {records others : List Json} {c : Catalog}

theorem load_of_rearranged (content : document.content = .ok (.array records))
    (otherContent : other.content = .ok (.array others)) (rearranged : IsRearranged records others)
    (loaded : load document = .ok c) : load other = .ok c := by
  obtain ⟨given, parameters, sameContent, admitted, reads, distinct, same⟩ :=
    load_eq_ok_iff.mp loaded
  cases content.symm.trans sameContent
  obtain ⟨reordered, otherReads, sameParameters⟩ := rearranged.reads reads
  refine load_eq_ok_iff.mpr ⟨others, reordered, otherContent, rearranged.admits admitted,
    otherReads, ?_, same.trans sameParameters.symm⟩
  exact (sameParameters.map _).nodup_iff.mpr distinct

/-- A dataset is loaded exactly when it is loaded with its records and their members in
any other order and with any other members besides those of fields, and it is loaded as
a catalog with the same records and the same checksum. -/
theorem load_rearranged (content : document.content = .ok (.array records))
    (otherContent : other.content = .ok (.array others))
    (rearranged : IsRearranged records others) :
    ((∃ c, load document = .ok c) ↔ ∃ d, load other = .ok d) ∧
      ∀ c d, load document = .ok c → load other = .ok d →
        c.records = d.records ∧ c.checksum = d.checksum := by
  constructor
  · constructor
    · rintro ⟨c, loaded⟩
      exact ⟨c, load_of_rearranged content otherContent rearranged loaded⟩
    · rintro ⟨d, loaded⟩
      exact ⟨d, load_of_rearranged otherContent content rearranged.symm loaded⟩
  · intro c d loaded otherLoaded
    have again := load_of_rearranged content otherContent rearranged loaded
    cases again.symm.trans otherLoaded
    exact ⟨rfl, rfl⟩

/-- Of two records the second one has both names of a field and a member that is ignored;
then the records change places, and so do their members. -/
theorem load_rearranged_pair :
    let first : List Json :=
      [.object [("name", .string "a")],
        .object [("name", .string "b"), ("desc", .string "short"), ("unit", .null),
          ("description", .string "long")]]
    let second : List Json :=
      [.object [("description", .string "long"), ("desc", .string "short"),
          ("name", .string "b")],
        .object [("origin", .int 1), ("name", .string "a")]]
    let c : Catalog :=
      ⟨[.named "a", { Parameter.named "b" with description := "short" }], by decide⟩
    IsRearranged first second ∧ load (.value (.array first)) = .ok c ∧
      ∃ d, load (.value (.array second)) = .ok d ∧ c.checksum = d.checksum := by
  intro first second c
  have rearranged : IsRearranged first second := by
    refine ⟨first.reverse, (List.reverse_perm first).symm, .cons ?_ (.cons ?_ .nil)⟩
    · refine .object (by decide) (by decide) ?_
      exact (List.reverse_perm _).symm
    · exact .object (by decide) (by decide) (.refl _)
  have loaded : load (.value (.array first)) = .ok c := by
    refine load_eq_ok_iff.mpr ⟨first, c.parameters, rfl, ?_, .cons rfl (.cons rfl .nil), by decide,
      .refl _⟩
    simp [first, Schema.helpRecord, Schema.Admits, HasRequired, MembersAdmit, Json.member?,
      Members.get?, JsonType.admits]
  have content (records : List Json) :
      (Document.value (.array records)).content = .ok (.array records) := rfl
  obtain ⟨exists_iff, same⟩ := load_rearranged (content first) (content second) rearranged
  obtain ⟨d, otherLoaded⟩ := exists_iff.mp ⟨c, loaded⟩
  exact ⟨rearranged, loaded, d, otherLoaded, (same c d loaded otherLoaded).2⟩

end Baseline
end Tunables
