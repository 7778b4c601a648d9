import Tunables.Proofs.ChecksumText
import Tunables.Proofs.Equality
import Tunables.Proofs.Store

/-!
# Checksums of equal catalogs

Equality compares numbers by value, a checksum sees how they are written.  The two
differ where one catalog writes a number as a whole number and the other with a point,
and where a zero has another sign.  Equal catalogs without such a number are one and
the same.
-/

namespace Tunables

/-! ## Equal numbers that are written differently -/

/-- Two zeros of different signs. -/
def Binary64.OppositeZeros (x y : Binary64) : Prop :=
  x.isZero = true ∧ y.isZero = true ∧ x ≠ y

theorem Binary64.AgreeUpToZeroSign.eq_iff {x y : Binary64} (agree : x.AgreeUpToZeroSign y) :
    x = y ↔ ¬ x.OppositeZeros y := by
  constructor
  · rintro same ⟨_, _, different⟩
    exact different same
  · intro signs
    rcases agree with same | ⟨first, second⟩
    · exact same
    · by_contra different
      exact signs ⟨first, second, different⟩

/-- One content is a whole number and the other one a double, or they are zeros of
different signs. -/
inductive ScalarContent.WrittenApart : ScalarContent → ScalarContent → Prop where
  | whole {n : Int} {x : Binary64} : WrittenApart (.int n) (.real x)
  | point {n : Int} {x : Binary64} : WrittenApart (.real x) (.int n)
  | zeros {x y : Binary64} : x.OppositeZeros y → WrittenApart (.real x) (.real y)

theorem ScalarContent.eq_iff_of_sameAs {a b : ScalarContent} (same : a.sameAs b = true) :
    a = b ↔ ¬ a.WrittenApart b := by
  cases a with
  | int m =>
      cases b with
      | int n => exact iff_of_true (congrArg int (beq_iff_eq.mp same)) nofun
      | real y => exact iff_of_false nofun (not_not_intro .whole)
      | text t => cases same
  | real x =>
      cases b with
      | int n => exact iff_of_false nofun (not_not_intro .point)
      | real y =>
          have agree := normal_real_eq_iff.mp (sameAs_iff.mp same)
          rw [real.injEq, agree.eq_iff, not_iff_not]
          constructor
          · exact .zeros
          · rintro ⟨⟩
            assumption
      | text t => cases same
  | text s =>
      cases b with
      | int n => cases same
      | real y => cases same
      | text t => exact iff_of_true (congrArg text (beq_iff_eq.mp same)) nofun

/-- The contents of two scalars are written apart. -/
def Scalar.WrittenApart (s t : Scalar) : Prop :=
  ∃ a ∈ s.content, ∃ b ∈ t.content, a.WrittenApart b

theorem Scalar.eq_iff_of_sameAs {s t : Scalar} (same : s.sameAs t = true) :
    s = t ↔ ¬ s.WrittenApart t := by
  obtain ⟨kind, content⟩ := s
  obtain ⟨otherKind, otherContent⟩ := t
  cases content <;> cases otherContent <;>
    simp_all [sameAs, WrittenApart, ScalarContent.eq_iff_of_sameAs]

/-- Two bounds are zeros of different signs. -/
def Bound.WrittenApart (a b : Bound) : Prop :=
  ∃ x ∈ a, ∃ y ∈ b, x.OppositeZeros y

theorem Bound.eq_iff_of_sameAs {a b : Bound} (same : sameAs a b = true) :
    a = b ↔ ¬ WrittenApart a b := by
  cases a with
  | none =>
      cases b with
      | none => simp [WrittenApart]
      | some y => cases same
  | some x =>
      cases b with
      | none => cases same
      | some y => simp [WrittenApart, (Binary64.beq_or_numEq_iff.mp same).eq_iff]

namespace Parameter

variable {p q : Parameter}

/-- A number of a parameter is written apart from that of the other parameter. -/
def WrittenApart (p q : Parameter) : Prop :=
  p.default.WrittenApart q.default ∨ p.daemonDefault.WrittenApart q.daemonDefault ∨
    Bound.WrittenApart p.min q.min ∨ Bound.WrittenApart p.max q.max

theorem sameAs_numbers (same : p.sameAs q = true) :
    p.default.sameAs q.default = true ∧ p.daemonDefault.sameAs q.daemonDefault = true ∧
      Bound.sameAs p.min q.min = true ∧ Bound.sameAs p.max q.max = true := by
  simp only [sameAs, Bool.and_eq_true] at same
  tauto

/-- Equal parameters have the same texts and lists, so their numbers decide. -/
theorem eq_iff_numbers_of_sameAs (same : p.sameAs q = true) :
    p = q ↔ p.default = q.default ∧ p.daemonDefault = q.daemonDefault ∧
      p.min = q.min ∧ p.max = q.max := by
  simp only [sameAs, Bool.and_eq_true, beq_iff_eq] at same
  rw [Parameter.mk.injEq]
  tauto

theorem eq_iff_of_sameAs (same : p.sameAs q = true) : p = q ↔ ¬ p.WrittenApart q := by
  obtain ⟨default, daemonDefault, min, max⟩ := sameAs_numbers same
  rw [eq_iff_numbers_of_sameAs same, Scalar.eq_iff_of_sameAs default,
    Scalar.eq_iff_of_sameAs daemonDefault, Bound.eq_iff_of_sameAs min, Bound.eq_iff_of_sameAs max]
  simp only [WrittenApart, not_or]

end Parameter

/-! ## Equal parameters with the same record -/

theorem Scalar.eq_of_toJson_eq {s t : Scalar} (same : s.sameAs t = true)
    (written : s.joined.toJson = t.joined.toJson) : s = t := by
  obtain ⟨kind, content⟩ := s
  obtain ⟨otherKind, otherContent⟩ := t
  have kinds : kind = otherKind := by
    simp only [sameAs, Bool.and_eq_true, beq_iff_eq] at same
    exact same.1
  have contents : content = otherContent := by
    cases content with
    | none =>
        cases otherContent with
        | none => rfl
        | some b => cases b <;> cases written
    | some a =>
        cases otherContent with
        | none => cases a <;> cases written
        | some b =>
            have equal : a.sameAs b = true := by
              simp only [sameAs, Bool.and_eq_true] at same
              exact same.2
            cases a with
            | int m =>
                cases b <;> cases written
                rfl
            | real x =>
                cases b <;> cases written
                rfl
            | text value =>
                cases b with
                | int n => cases equal
                | real y => cases equal
                | text other => rw [beq_iff_eq.mp equal]
  rw [kinds, contents]

theorem Bound.eq_of_toJson_eq {a b : Bound} (written : a.toJson = b.toJson) : a = b := by
  cases a <;> cases b <;> cases written <;> rfl

namespace Parameter

variable {p q : Parameter}

/-- A record in the order of keys tells the numbers of equal parameters apart. -/
theorem eq_of_sortKeys_toRecord (same : p.sameAs q = true)
    (written : p.joined.toRecord.sortKeys = q.joined.toRecord.sortKeys) : p = q := by
  have members : Json.sortKeysInEntries p.joined.recordMembers =
      Json.sortKeysInEntries q.joined.recordMembers :=
    Json.object.inj written
  have field (key : Text) {value other : Json} (first : (key, value) ∈ p.joined.recordMembers)
      (second : (key, other) ∈ q.joined.recordMembers) : value = other := by
    have found := get?_sortKeysInEntries_recordMembers first
    rw [members, get?_sortKeysInEntries_recordMembers second] at found
    exact (Option.some.inj found).symm
  have default : p.default.joined.toJson = q.default.joined.toJson :=
    field "default" (by simp [recordMembers, joined]) (by simp [recordMembers, joined])
  have daemonDefault : p.daemonDefault.joined.toJson = q.daemonDefault.joined.toJson :=
    field "daemon_default" (by simp [recordMembers, joined]) (by simp [recordMembers, joined])
  have min : p.min.toJson = q.min.toJson :=
    field "min" (by simp [recordMembers, joined]) (by simp [recordMembers, joined])
  have max : p.max.toJson = q.max.toJson :=
    field "max" (by simp [recordMembers, joined]) (by simp [recordMembers, joined])
  obtain ⟨defaultSame, daemonDefaultSame, -, -⟩ := sameAs_numbers same
  exact (eq_iff_numbers_of_sameAs same).mpr
    ⟨Scalar.eq_of_toJson_eq defaultSame default,
      Scalar.eq_of_toJson_eq daemonDefaultSame daemonDefault,
      Bound.eq_of_toJson_eq min, Bound.eq_of_toJson_eq max⟩

end Parameter

/-! ## Equal catalogs with the same text -/

namespace Catalog

variable {c d : Catalog}

/-- A number of a catalog is written apart from the one in its place. -/
def WrittenApart (c d : Catalog) : Prop :=
  ∃ p q, (p, q) ∈ c.parameters.zip d.parameters ∧ p.WrittenApart q

theorem eq_iff_of_sameAs (same : c.sameAs d = true) : c = d ↔ ¬ c.WrittenApart d := by
  obtain ⟨sizes, pairs⟩ := List.forall₂_iff_zip.mp (sameAs_iff_forall₂.mp same)
  have parameters : c = d ↔ c.parameters = d.parameters := ⟨congrArg _, eq_of_parameters_eq⟩
  rw [parameters, ← List.forall₂_eq_eq_eq, List.forall₂_iff_zip, and_iff_right sizes]
  constructor
  · rintro equal ⟨p, q, place, apart⟩
    exact (Parameter.eq_iff_of_sameAs (pairs place)).mp (equal place) apart
  · intro together p q place
    exact (Parameter.eq_iff_of_sameAs (pairs place)).mpr fun apart => together ⟨p, q, place, apart⟩

/-- Equal catalogs with the same text behind their checksums are the same. -/
theorem eq_of_checksumText_eq (same : c.sameAs d = true)
    (texts : checksumText (.array c.records) = checksumText (.array d.records)) : c = d := by
  rw [checksumText_eq_iff_records, ← List.forall₂_eq_eq_eq, List.forall₂_map_left_iff,
    List.forall₂_map_right_iff] at texts
  have equal : List.Forall₂ (· = ·) c.parameters d.parameters :=
    List.Forall₂.mp (fun _ _ => Parameter.eq_of_sortKeys_toRecord) (sameAs_iff_forall₂.mp same)
      texts
  exact eq_of_parameters_eq (by rwa [List.forall₂_eq_eq_eq] at equal)

/-- Equal catalogs have the same text behind their checksums exactly if no number of one is
written apart from the number in its place in the other.  Then they have the same
checksum, and at every moment of a store a commit of one on top of the other keeps it. -/
theorem checksumText_eq_iff_of_sameAs (c d : Catalog) (same : c.sameAs d = true) :
    (checksumText (.array c.records) = checksumText (.array d.records) ↔ ¬ c.WrittenApart d) ∧
    (¬ c.WrittenApart d →
      c.checksum = d.checksum ∧
      ∀ (first : Commit) (actions : List StoreAction) (commits : List Commit) (now : Store)
        (source : CatalogSource),
        (Store.ofCatalog first.1 first.2).Passes actions commits now → now.current = c →
          (now.commit d source).metadata.checksum = now.metadata.checksum) := by
  refine ⟨?_, ?_⟩
  · rw [← eq_iff_of_sameAs same]
    constructor
    · exact eq_of_checksumText_eq same
    · intro one
      rw [one]
  · intro together
    have one := (eq_iff_of_sameAs same).mpr together
    refine ⟨congrArg checksum one, ?_⟩
    intro first actions commits now source passes current
    rw [passes.publishes.checksum, current, one]
    rfl

/-- A double zero is written as itself, so the commit of an equal catalog keeps the
checksum; a whole zero is written apart from it. -/
theorem checksumText_eq_iff_of_sameAs_zeros :
    let whole := ofDefault (.int 0)
    let point := ofDefault (.real .zero)
    ((Store.ofCatalog point .baseline).commit point .cluster).metadata.checksum =
        (Store.ofCatalog point .baseline).metadata.checksum ∧
      checksumText (.array whole.records) ≠ checksumText (.array point.records) := by
  intro whole point
  have itself : point.sameAs point = true := by decide +kernel
  have same : whole.sameAs point = true := by decide +kernel
  have together : ¬ point.WrittenApart point := (eq_iff_of_sameAs itself).mp rfl
  have apart : whole.WrittenApart point :=
    ⟨_, _, List.mem_singleton_self _, .inl ⟨.int 0, rfl, .real .zero, rfl, .whole⟩⟩
  have kept := ((checksumText_eq_iff_of_sameAs point point itself).2 together).2
  exact ⟨kept (point, .baseline) [] [] (.ofCatalog point .baseline) .cluster .here rfl,
    fun texts => (checksumText_eq_iff_of_sameAs whole point same).1.mp texts apart⟩

/-- The digest behind a checksum, from the characters of the sorted records. -/
theorem checksum_eq_hexText_chars (c : Catalog) :
    c.checksum = Digest.hexText (Digest.sha256
      ((Json.array c.records).sortKeys.chars.flatMap String.utf8EncodeChar)) := by
  rw [checksum, Tunables.checksum, checksumText, Json.writeSorted, Json.write, Text.Utf8.encode,
    String.toList_ofList]

/-- A whole zero and a zero with a point make equal catalogs with different checksums, so
the commit of the one on top of the other changes the checksum. -/
theorem checksum_of_zeros_ne :
    let whole := ofDefault (.int 0)
    let point := ofDefault (.real .zero)
    whole.sameAs point = true ∧ whole.checksum ≠ point.checksum ∧
      ((Store.ofCatalog whole .baseline).commit point .cluster).metadata.checksum ≠
        (Store.ofCatalog whole .baseline).metadata.checksum := by
  intro whole point
  have digests : whole.checksum ≠ point.checksum := by
    -- Both digests are computed, from lists of characters because texts evaluate slowly.
    rw [checksum_eq_hexText_chars, checksum_eq_hexText_chars, Digest.hexText, Digest.hexText, Ne,
      String.ofList_inj]
    decide +kernel
  exact ⟨by decide +kernel, digests, digests.symm⟩

end Catalog

end Tunables
