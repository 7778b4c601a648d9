import Tunables.Proofs.Merge
import Tunables.Proofs.Record

/-!
# What an answer gives

A reply to a request for help gives a parameter, or it fails in one of four ways.
Three of them are known and concern the one name; a bound that is too large is not.
-/

namespace Tunables

/-- An answer that gives no parameter: the command failed, or the reply is not JSON,
has the wrong structure, or is no valid record. -/
inductive GivesNoParameter : Answer → Prop where
  | failed (fault : Fault) : GivesNoParameter (.error fault)
  | undecodable {bytes : Text.Bytes} {cause : Json.ReadError} :
      Json.readBytes bytes = .error cause → GivesNoParameter (.ok bytes)
  | malformed {bytes : Text.Bytes} {record : Json} :
      Json.readBytes bytes = .ok record → ¬ Schema.helpRecord.Admits record →
      GivesNoParameter (.ok bytes)
  | invalid {bytes : Text.Bytes} {record : Json} :
      Json.readBytes bytes = .ok record → (¬ ∃ p, Parameter.ofRecord record = .ok p) →
      GivesNoParameter (.ok bytes)

/-- A reply with a well-formed record that has a bound that is too large. -/
def GivesHugeBound (answer : Answer) : Prop :=
  ∃ bytes record, answer = .ok bytes ∧ Json.readBytes bytes = .ok record ∧
    Schema.helpRecord.Admits record ∧ record.HasHugeBound

/-- What can become of a reply. -/
inductive Understood (bytes : Text.Bytes) : Except Failure Parameter → Prop where
  | undecodable {cause : Json.ReadError} {error : ReplyError} :
      Json.readBytes bytes = .error cause → Understood bytes (.error (.reply error))
  | malformed {record : Json} {error : ReplyError} :
      Json.readBytes bytes = .ok record → ¬ Schema.helpRecord.Admits record →
      Understood bytes (.error (.reply error))
  | invalid {record : Json} {rejection : Rejection} {error : ReplyError} :
      Json.readBytes bytes = .ok record → Schema.helpRecord.Admits record →
      Parameter.ofRecord record = .error (.invalid rejection) →
      Understood bytes (.error (.reply error))
  | bound {record : Json} {error : BoundError} :
      Json.readBytes bytes = .ok record → Schema.helpRecord.Admits record →
      Parameter.ofRecord record = .error (.bound error) →
      Understood bytes (.error (.bound error))
  | given {record : Json} {p : Parameter} :
      Json.readBytes bytes = .ok record → Schema.helpRecord.Admits record →
      Parameter.ofRecord record = .ok p → Understood bytes (.ok p)

variable {name : Text} {bytes : Text.Bytes} {answer : Answer}

theorem understood_parameterOfReply (name : Text) (bytes : Text.Bytes) :
    Understood bytes (parameterOfReply name bytes) := by
  simp only [parameterOfReply, Document.decodeReply, Document.decode]
  cases decoded : Json.readBytes bytes with
  | error cause => exact .undecodable decoded
  | ok record =>
      simp only [Except.mapError, checkReply]
      cases checked : Schema.helpRecord.check record with
      | error violation =>
          refine .malformed decoded ?_
          rw [← Schema.check_eq_ok_iff, checked]
          exact nofun
      | ok passed =>
          have admitted := Schema.check_eq_ok_iff.mp checked
          dsimp only
          cases read : Parameter.ofRecord record with
          | ok p => exact .given decoded admitted read
          | error error =>
              cases error with
              | invalid rejection => exact .invalid decoded admitted read
              | bound error => exact .bound decoded admitted read

/-- The parameter of a reply is that of a well-formed record. -/
theorem exists_record_of_parameterOfReply {p : Parameter}
    (given : parameterOfReply name bytes = .ok p) :
    ∃ record, Json.readBytes bytes = .ok record ∧ Schema.helpRecord.Admits record ∧
      Parameter.ofRecord record = .ok p := by
  have understood := understood_parameterOfReply name bytes
  rw [given] at understood
  cases understood with
  | given decoded admitted read => exact ⟨_, decoded, admitted, read⟩

theorem GivesNoParameter.not_ok {p : Parameter} (bad : GivesNoParameter answer) :
    parameterOfAnswer name answer ≠ .ok p := by
  intro given
  cases bad with
  | failed fault => cases given
  | undecodable failed =>
      obtain ⟨record, decoded, -, -⟩ := exists_record_of_parameterOfReply given
      rw [decoded] at failed
      cases failed
  | malformed decoded rejected =>
      obtain ⟨record, again, admitted, -⟩ := exists_record_of_parameterOfReply given
      rw [again] at decoded
      cases decoded
      exact rejected admitted
  | invalid decoded invalid =>
      obtain ⟨record, again, -, read⟩ := exists_record_of_parameterOfReply given
      rw [again] at decoded
      cases decoded
      exact invalid ⟨p, read⟩

theorem givesNoParameter_of_error {failure : Failure}
    (failed : parameterOfAnswer name answer = .error failure) : GivesNoParameter answer := by
  cases answer with
  | error fault => exact .failed fault
  | ok bytes =>
      have understood := understood_parameterOfReply name bytes
      rw [show parameterOfReply name bytes = .error failure from failed] at understood
      cases understood with
      | undecodable decoded => exact .undecodable decoded
      | malformed decoded rejected => exact .malformed decoded rejected
      | invalid decoded _ read => exact .invalid decoded (by simp [read])
      | bound decoded _ read => exact .invalid decoded (by simp [read])

/-- An answer fails just when it gives no parameter. -/
theorem exists_error_iff_givesNoParameter :
    (∃ failure, parameterOfAnswer name answer = .error failure) ↔ GivesNoParameter answer := by
  constructor
  · intro failed
    obtain ⟨failure, equal⟩ := failed
    exact givesNoParameter_of_error equal
  · intro bad
    cases reply : parameterOfAnswer name answer with
    | ok p => exact absurd reply bad.not_ok
    | error failure => exact ⟨failure, rfl⟩

theorem parameterOfReply_of_givesHugeBound (huge : GivesHugeBound (.ok bytes)) :
    parameterOfReply name bytes = .error (.bound .tooLarge) := by
  obtain ⟨_, record, same, decoded, admitted, hugeBound⟩ := huge
  cases same
  have checked := Schema.check_eq_ok_iff.mpr admitted
  have refused : Parameter.ofRecord record = .error (.bound .tooLarge) :=
    Parameter.ofRecord_eq_bound_iff.mpr hugeBound
  simp only [parameterOfReply, Document.decodeReply, Document.decode, decoded, Except.mapError,
    checkReply, checked, refused]

/-- A reply settles a name unless its record has a bound that is too large. -/
theorem isSettled_parameterOfReply_iff :
    IsSettled (parameterOfReply name bytes) ↔ ¬ GivesHugeBound (.ok bytes) := by
  constructor
  · intro settled huge
    cases settled _ (parameterOfReply_of_givesHugeBound huge)
  · intro fine failure failed
    have understood := understood_parameterOfReply name bytes
    rw [failed] at understood
    cases understood with
    | undecodable => rfl
    | malformed => rfl
    | invalid => rfl
    | bound decoded admitted read =>
        exact absurd ⟨bytes, _, rfl, decoded, admitted, Parameter.ofRecord_eq_bound_iff.mp read⟩
          fine

end Tunables
