import Mathlib.Data.List.Forall2
import Mathlib.Data.List.Nodup
import Tunables.Baseline
import Tunables.Proofs.NameOrder
import Tunables.Proofs.Record

/-!
# What a dataset is loaded as

A dataset becomes a catalog when every record has the right structure and gives a
parameter, and no name occurs twice.  Otherwise the load fails with an error of
its own, except for a bound that is too large: the first record without a
parameter decides which of the two it is.
-/

namespace Tunables

/-- The parameters that records give, one by one. -/
def Parameter.Reads (records : List Json) (parameters : List Parameter) : Prop :=
  List.Forall₂ (fun record p => Parameter.ofRecord record = .ok p) records parameters

/-- A dataset of well-formed records, of which the first that gives no parameter has
a bound that is too large. -/
def Document.StopsAtBound (document : Document) : Prop :=
  ∃ before record after, document.content = .ok (.array (before ++ record :: after)) ∧
    (∀ other ∈ before ++ record :: after, Schema.helpRecord.Admits other) ∧
    (∀ earlier ∈ before, ∃ p, Parameter.ofRecord earlier = .ok p) ∧ record.HasHugeBound

namespace Parameter

variable {records : List Json} {parameters : List Parameter}

theorem ofRecords_eq_ok_iff : ofRecords records = .ok parameters ↔ Reads records parameters := by
  unfold Reads
  induction records generalizing parameters with
  | nil => simp [ofRecords, eq_comm]
  | cons record rest ih =>
      rw [List.forall₂_cons_left_iff, ofRecords]
      cases read : ofRecord record with
      | error error => simp
      | ok p =>
          dsimp only
          cases later : ofRecords rest with
          | error error => simp [Except.map, ← ih, later]
          | ok others => simp [Except.map, ← ih, later, @eq_comm _ parameters]

theorem Reads.exists_record {p : Parameter} (reads : Reads records parameters)
    (member : p ∈ parameters) : ∃ record, ofRecord record = .ok p := by
  induction reads with
  | nil => cases member
  | cons read _ ih =>
      rcases List.mem_cons.mp member with rfl | later
      · exact ⟨_, read⟩
      · exact ih later

/-- Records are refused for the first one that gives no parameter. -/
theorem ofRecords_eq_error_iff {error : RecordError} :
    ofRecords records = .error error ↔
      ∃ before record after, records = before ++ record :: after ∧
        (∀ earlier ∈ before, ∃ p, ofRecord earlier = .ok p) ∧ ofRecord record = .error error := by
  induction records with
  | nil => simp [ofRecords]
  | cons first rest ih =>
      rw [ofRecords]
      constructor
      · intro refused
        cases read : ofRecord first with
        | error cause =>
            rw [read] at refused
            cases refused
            exact ⟨[], first, rest, rfl, nofun, read⟩
        | ok p =>
            rw [read] at refused
            cases later : ofRecords rest with
            | ok others =>
                rw [later] at refused
                cases refused
            | error cause =>
                rw [later] at refused
                cases refused
                obtain ⟨before, record, after, rfl, readable, broken⟩ := ih.mp later
                refine ⟨first :: before, record, after, rfl, ?_, broken⟩
                intro earlier member
                rcases List.mem_cons.mp member with rfl | inBefore
                · exact ⟨p, read⟩
                · exact readable earlier inBefore
      · intro parts
        obtain ⟨before, record, after, split, readable, broken⟩ := parts
        cases before with
        | nil =>
            cases split
            rw [broken]
        | cons head before =>
            rw [List.cons_append, List.cons.injEq] at split
            obtain ⟨rfl, rfl⟩ := split
            obtain ⟨p, read⟩ := readable first List.mem_cons_self
            have later : ofRecords (before ++ record :: after) = .error error :=
              ih.mpr ⟨before, record, after, rfl,
                fun earlier member => readable earlier (List.mem_cons_of_mem first member), broken⟩
            rw [read, later]
            rfl

end Parameter

namespace Catalog

theorem parameters_of_ofParameters {parameters : List Parameter} {c : Catalog}
    (built : ofParameters parameters = .ok c) :
    c.parameters = sortByText (·.name) parameters := by
  unfold ofParameters at built
  dsimp only at built
  split at built
  · cases built
    rfl
  · cases built

/-- A catalog is built from parameters with distinct names, and holds just them. -/
theorem ofParameters_eq_ok_iff {parameters : List Parameter} {c : Catalog} :
    ofParameters parameters = .ok c ↔
      (parameters.map (·.name)).Nodup ∧ c.parameters.Perm parameters := by
  have sorted := perm_sortByText (·.name) parameters
  constructor
  · intro built
    have same : c.parameters.Perm parameters := parameters_of_ofParameters built ▸ sorted
    exact ⟨(same.map _).nodup_iff.mp c.nodup_names, same⟩
  · intro parts
    obtain ⟨distinct, same⟩ := parts
    apply ofParameters_of_sorted
    have ordered : c.parameters.Pairwise fun p q => p.name ≤ q.name :=
      (List.pairwise_map.mp c.ascending).imp Std.le_of_lt
    -- Two parameters with the same name are the same one, since no name occurs twice.
    refine (sorted.trans same.symm).eq_of_pairwise ?_ (pairwise_sortByText _ _) ordered
    intro p q inSorted inCatalog forth back
    have named : p.name = q.name := Std.le_antisymm forth back
    exact List.inj_on_of_nodup_map distinct (sorted.subset inSorted) (same.subset inCatalog) named

end Catalog

namespace Baseline

variable {records : List Json} {document : Document}

theorem dataset_check_eq_ok_iff :
    Schema.dataset.check (.array records) = .ok () ↔
      ∀ record ∈ records, Schema.helpRecord.Admits record := by
  rw [Schema.check_eq_ok_iff, Schema.dataset, Schema.arrayOf_admits_iff]

theorem ofRecords_eq_ok_iff {c : Catalog} :
    ofRecords records = .ok c ↔ ∃ parameters, Parameter.Reads records parameters ∧
      (parameters.map (·.name)).Nodup ∧ c.parameters.Perm parameters := by
  unfold ofRecords Catalog.ofRecords
  cases read : Parameter.ofRecords records with
  | error error =>
      have refused (parameters : List Parameter) : ¬ Parameter.Reads records parameters := by
        intro reads
        rw [Parameter.ofRecords_eq_ok_iff.mpr reads] at read
        cases read
      cases error <;> simp [refused]
  | ok parameters =>
      have unique (others : List Parameter) :
          Parameter.Reads records others ↔ others = parameters := by
        rw [← Parameter.ofRecords_eq_ok_iff, read, Except.ok.injEq, eq_comm]
      simp only [unique, exists_eq_left, ← Catalog.ofParameters_eq_ok_iff]
      cases Catalog.ofParameters parameters with
      | error error => simp [Except.mapError]
      | ok built => simp [Except.mapError]

theorem ofRecords_eq_bound_iff {error : BoundError} :
    ofRecords records = .error (.bound error) ↔
      Parameter.ofRecords records = .error (.bound error) := by
  unfold ofRecords Catalog.ofRecords
  cases Parameter.ofRecords records with
  | error error => cases error <;> simp [LoadFailure.malformed]
  | ok parameters =>
      dsimp only
      cases Catalog.ofParameters parameters with
      | error error => simp [Except.mapError, LoadFailure.malformed]
      | ok built => simp [Except.mapError]

theorem ofJson_array_of_admits
    (admitted : ∀ record ∈ records, Schema.helpRecord.Admits record) :
    ofJson (.array records) = ofRecords records := by
  simp only [ofJson, dataset_check_eq_ok_iff.mpr admitted]

theorem ofJson_array_of_not_admits
    (rejected : ¬ ∀ record ∈ records, Schema.helpRecord.Admits record) :
    ∃ violation, ofJson (.array records) = .error (.malformed (.structure violation)) := by
  cases checked : Schema.dataset.check (.array records) with
  | ok passed => exact absurd (dataset_check_eq_ok_iff.mp checked) rejected
  | error violation => exact ⟨violation, by simp only [ofJson, checked]⟩

/-- A dataset becomes a catalog when it is an array of records of the right
structure that give parameters with distinct names; the catalog holds just these. -/
theorem load_eq_ok_iff {c : Catalog} :
    load document = .ok c ↔ ∃ records parameters, document.content = .ok (.array records) ∧
      (∀ record ∈ records, Schema.helpRecord.Admits record) ∧
      Parameter.Reads records parameters ∧ (parameters.map (·.name)).Nodup ∧
      c.parameters.Perm parameters := by
  unfold load
  cases document.content with
  | error cause => simp
  | ok dataset =>
      cases dataset with
      | array records =>
          by_cases admitted : ∀ record ∈ records, Schema.helpRecord.Admits record
          · simp only [ofJson_array_of_admits admitted, ofRecords_eq_ok_iff, Except.ok.injEq,
              Json.array.injEq, exists_and_left, exists_eq_left']
            exact ⟨fun parts => ⟨admitted, parts⟩, And.right⟩
          · obtain ⟨violation, refused⟩ := ofJson_array_of_not_admits admitted
            simp [refused, admitted]
      | null | bool | int | real | string | object => simp [ofJson]

/-- A bound that is too large escapes from a load when nothing was wrong before it. -/
theorem load_eq_bound_iff {error : BoundError} :
    load document = .error (.bound error) ↔ document.StopsAtBound := by
  unfold load Document.StopsAtBound
  cases document.content with
  | error cause => simp
  | ok dataset =>
      cases dataset with
      | array records =>
          dsimp only
          by_cases admitted : ∀ record ∈ records, Schema.helpRecord.Admits record
          · rw [ofJson_array_of_admits admitted, ofRecords_eq_bound_iff,
              Parameter.ofRecords_eq_error_iff]
            constructor
            · intro parts
              obtain ⟨before, record, after, rfl, readable, broken⟩ := parts
              exact ⟨before, record, after, rfl, admitted, readable,
                Parameter.ofRecord_eq_bound_iff.mp broken⟩
            · intro parts
              obtain ⟨before, record, after, same, -, readable, huge⟩ := parts
              cases same
              exact ⟨before, record, after, rfl, readable,
                Parameter.ofRecord_eq_bound_iff.mpr huge⟩
          · obtain ⟨violation, refused⟩ := ofJson_array_of_not_admits admitted
            rw [refused]
            constructor
            · intro escaped
              cases escaped
            · intro parts
              obtain ⟨before, record, after, same, allAdmitted, -⟩ := parts
              cases same
              exact absurd allAdmitted admitted
      | null | bool | int | real | string | object => simp [ofJson]

theorem load_settled_iff :
    ((∃ c, load document = .ok c) ∨ ∃ error, load document = .error (.baseline error)) ↔
      ¬ document.StopsAtBound := by
  rw [← @load_eq_bound_iff _ .tooLarge]
  cases load document with
  | ok c => simp
  | error failure =>
      cases failure with
      | baseline error => simp
      | bound error => cases error; simp

/-- A load gives a catalog or fails with an error of its own, unless it stops at a
bound that is too large; a catalog comes of an array of well-formed records with
distinct names, and holds their parameters in ascending order. -/
theorem load_outcomes (document : Document) :
    (((∃ c, load document = .ok c) ∨ ∃ error, load document = .error (.baseline error)) ↔
      ¬ document.StopsAtBound) ∧
    ∀ c, load document = .ok c ↔ c.names.Pairwise (· < ·) ∧ ∃ records parameters,
      document.content = .ok (.array records) ∧
      (∀ record ∈ records, Schema.helpRecord.Admits record) ∧
      Parameter.Reads records parameters ∧ (parameters.map (·.name)).Nodup ∧
      c.parameters.Perm parameters := by
  refine ⟨load_settled_iff, fun c => ?_⟩
  rw [← load_eq_ok_iff]
  exact ⟨fun loaded => ⟨c.ascending, loaded⟩, And.right⟩

/-- A dataset of one record with the lower bound `10 ^ 310`. -/
def hugeBoundDataset : Document :=
  .value (.array [.object [("name", .string "a"), ("min", .int ((10 ^ 155) ^ 2))]])

theorem stopsAtBound_hugeBoundDataset : hugeBoundDataset.StopsAtBound := by
  refine ⟨[], _, [], rfl, ?_, nofun, "min", ?_, (10 ^ 155) ^ 2, rfl, ?_⟩
  · simp [Schema.helpRecord, Schema.Admits, HasRequired, MembersAdmit, Json.member?,
      Members.get?, JsonType.admits]
  · decide
  · decide +kernel

theorem hugeBoundDataset_escapes :
    ¬ ((∃ c, load hugeBoundDataset = .ok c) ∨
      ∃ error, load hugeBoundDataset = .error (.baseline error)) := by
  rw [load_settled_iff, not_not]
  exact stopsAtBound_hugeBoundDataset

end Baseline
end Tunables
