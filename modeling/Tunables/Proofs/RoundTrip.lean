import Tunables.Proofs.Baseline
import Tunables.Proofs.Cycle
import Tunables.Proofs.Fetch

/-!
# Records that are loaded again

The records of a catalog that was itself read from records are a dataset, and the
catalog loaded from it is the same one.
-/

namespace Tunables
namespace Catalog

/-- A catalog whose parameters were read from records: loaded from a dataset or a
file, or brought in line with a cluster from such a catalog. -/
inductive IsRead : Catalog → Prop where
  | loaded {document : Document} {c : Catalog} : Baseline.load document = .ok c → IsRead c
  | file {tree : FileTree} {file : BaselineFile} {c : Catalog} :
      (file.read tree).value = .ok c → IsRead c
  | reconciled {previous : Catalog} {limit : Timeout} {exchanges : List Exchange}
      {result : CycleResult} : IsRead previous →
      (Cycle.talk previous limit).EndsWith exchanges (.ok result) → IsRead result.catalog

variable {c : Catalog}

theorem hasPlainScalars_of_load {document : Document} (loaded : Baseline.load document = .ok c) :
    ∀ p ∈ c.parameters, p.HasPlainScalars := by
  obtain ⟨records, parameters, -, -, reads, -, same⟩ := Baseline.load_eq_ok_iff.mp loaded
  intro p member
  obtain ⟨record, read⟩ := reads.exists_record (same.subset member)
  exact Parameter.hasPlainScalars_of_ofRecord read

theorem hasPlainScalars_bundled : ∀ p ∈ bundled.parameters, p.HasPlainScalars := by
  change ∀ p ∈ bundledParameters, p.HasPlainScalars
  unfold Parameter.HasPlainScalars Scalar.IsPlain
  decide +kernel

theorem hasPlainScalars_of_read {tree : FileTree} {file : BaselineFile}
    (read : (file.read tree).value = .ok c) : ∀ p ∈ c.parameters, p.HasPlainScalars := by
  cases file with
  | bundled =>
      cases read
      exact hasPlainScalars_bundled
  | located path =>
      simp only [BaselineFile.read] at read
      cases found : tree.read (BaselineFile.place tree (.located path)) with
      | error cause => simp [found] at read
      | ok bytes =>
          rw [found] at read
          exact hasPlainScalars_of_load read

theorem hasPlainScalars_of_outcomeOf {answers : Text → Answer} {name : Text} {p : Parameter}
    (fetched : outcomeOf answers name = .ok p) : p.HasPlainScalars := by
  unfold outcomeOf detailOf at fetched
  cases answer : answers name with
  | error fault =>
      rw [answer] at fetched
      cases fetched
  | ok bytes =>
      simp only [answer, parameterOfAnswer] at fetched
      cases given : parameterOfReply name bytes with
      | error failure =>
          rw [given] at fetched
          cases fetched
      | ok q =>
          rw [given] at fetched
          cases fetched
          obtain ⟨record, -, -, read⟩ := exists_record_of_parameterOfReply given
          have plain : q.HasPlainScalars := Parameter.hasPlainScalars_of_ofRecord read
          exact plain

/-- What a cycle keeps or fetches has scalars that JSON can give. -/
theorem hasPlainScalars_resultOf {previous : Catalog} {names : List Text}
    {answers : Text → Answer} (plain : ∀ p ∈ previous.parameters, p.HasPlainScalars) :
    ∀ p ∈ (Cycle.resultOf previous names answers).catalog.parameters, p.HasPlainScalars := by
  intro p member
  obtain ⟨name, -, entry⟩ := List.mem_filterMap.mp member
  rcases Option.or_eq_some_iff.mp entry with kept | ⟨-, fetched⟩
  · exact plain p (List.mem_of_find?_eq_some kept)
  · cases outcome : outcomeOf answers name with
    | error failure =>
        rw [outcome] at fetched
        cases fetched
    | ok q =>
        rw [outcome] at fetched
        cases fetched
        exact hasPlainScalars_of_outcomeOf outcome

theorem IsRead.hasPlainScalars (read : c.IsRead) : ∀ p ∈ c.parameters, p.HasPlainScalars := by
  induction read with
  | loaded loaded => exact hasPlainScalars_of_load loaded
  | file read => exact hasPlainScalars_of_read read
  | reconciled _ ends ih =>
      obtain ⟨listing, names, answers, -, -, -, rfl⟩ := Cycle.endsWith_talk_ok_iff.mp ends
      exact hasPlainScalars_resultOf ih

theorem reads_records (plain : ∀ p ∈ c.parameters, p.HasPlainScalars) :
    Parameter.Reads c.records c.parameters := by
  rw [Parameter.Reads, records, List.forall₂_map_left_iff, List.forall₂_same]
  intro p member
  exact Parameter.ofRecord_toRecord (plain p member)

theorem admits_of_mem_records {record : Json} (member : record ∈ c.records) :
    Schema.helpRecord.Admits record := by
  obtain ⟨p, -, rfl⟩ := List.mem_map.mp member
  exact p.helpRecord_admits_toRecord

/-- The records of a catalog that was read from records are well-formed, and they
are loaded as the same catalog. -/
theorem load_records (c : Catalog) (read : c.IsRead) :
    (∀ record ∈ c.records, Schema.helpRecord.Admits record) ∧
      Baseline.load (.value (.array c.records)) = .ok c := by
  refine ⟨fun record member => admits_of_mem_records member, ?_⟩
  rw [Baseline.load_eq_ok_iff]
  exact ⟨c.records, c.parameters, rfl, fun record member => admits_of_mem_records member,
    reads_records read.hasPlainScalars, c.nodup_names, .refl _⟩

theorem isRead_bundled : bundled.IsRead :=
  @IsRead.file .empty .bundled _ rfl

theorem load_records_bundled :
    bundled.IsRead ∧ (∀ record ∈ bundled.records, Schema.helpRecord.Admits record) ∧
      Baseline.load (.value (.array bundled.records)) = .ok bundled :=
  ⟨isRead_bundled, load_records bundled isRead_bundled⟩

end Catalog
end Tunables
