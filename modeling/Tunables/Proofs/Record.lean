import Tunables.Parameter.Record
import Tunables.Proofs.Bound
import Tunables.Proofs.Schema

/-!
# Reading and writing help records

A help record is read field by field, and a bound that is too large is refused
before the fields are looked at.  What is written is read back as it was, as long
as the scalars are such as JSON can give.
-/

namespace Tunables

/-- A bound of a record is a whole number that is too large for a double. -/
def Json.HasHugeBound (record : Json) : Prop :=
  ∃ key ∈ ["min", "max"], ∃ n, record.member? key = some (.int n) ∧
    Binary64.overflowLimit ≤ n.natAbs

namespace Members

theorem get?_cons (entry : Text × Json) (rest : Members) (key : Text) :
    Members.get? (entry :: rest) key =
      if entry.1 = key then some entry.2 else rest.get? key := by
  unfold Members.get?
  by_cases same : entry.1 = key
  · rw [List.find?_cons_of_pos (by simpa using same), if_pos same]
    rfl
  · rw [List.find?_cons_of_neg (by simpa using same), if_neg same]

theorem get?_eq_none_of_not_mem {members : Members} {key : Text}
    (absent : key ∉ members.map (·.1)) : members.get? key = none := by
  rw [Members.get?, Option.map_eq_none_iff, List.find?_eq_none]
  intro entry member
  have different : entry.1 ≠ key := by
    rintro rfl
    exact absent (List.mem_map_of_mem member)
  simpa using different

end Members

namespace Collected

variable {α β : Type}

@[simp] theorem done_inj {x y : α} : Collected.done x = Collected.done y ↔ x = y := by
  constructor
  · intro same
    cases same
    rfl
  · exact congrArg Collected.done

/-- An application succeeds when the function and the argument were read. -/
theorem apply_eq_done_iff {function : Collected (α → β)} {argument : Collected α} {result : β} :
    function.apply argument = .done result ↔
      ∃ f x, function = .done f ∧ argument = .done x ∧ f x = result := by
  constructor
  · intro applied
    cases function with
    | error errors => cases argument <;> cases applied
    | ok f =>
        cases argument with
        | error more => cases applied
        | ok x => exact ⟨f, x, rfl, rfl, done_inj.mp applied⟩
  · intro parts
    obtain ⟨f, x, rfl, rfl, rfl⟩ := parts
    rfl

end Collected

namespace Parameter

variable {members : Members} {record : Json} {key : Text} {p : Parameter}

/-- The fields of a parameter are what is read from the members of an object. -/
structure IsReadFrom (members : Members) (p : Parameter) : Prop where
  name : readName members = .done p.name
  valueType : readText "type" members = .done p.valueType
  level : readText "level" members = .done p.level
  description : readAliasedText "desc" "description" members = .done p.description
  longDescription :
    readAliasedText "long_desc" "long_description" members = .done p.longDescription
  default : readScalar "default" members = p.default
  daemonDefault : readScalar "daemon_default" members = p.daemonDefault
  tags : readTexts "tags" members = .done p.tags
  services : readTexts "services" members = .done p.services
  seeAlso : readTexts "see_also" members = .done p.seeAlso
  enumValues : readTexts "enum_values" members = .done p.enumValues
  min : readBound "min" members = .ok p.min
  max : readBound "max" members = .ok p.max
  canUpdateAtRuntime : readTruth "can_update_at_runtime" members = .done p.canUpdateAtRuntime
  flags : readTexts "flags" members = .done p.flags

theorem isReadFrom_of_readFields {min max : Bound}
    (lower : readBound "min" members = .ok min) (upper : readBound "max" members = .ok max)
    (fields : readFields members min max = .done p) : p.IsReadFrom members := by
  simp only [readFields, Collected.apply_eq_done_iff, Collected.done_inj, exists_and_left,
    ↓existsAndEq, true_and, and_true] at fields
  obtain ⟨_, _, _, _, _, _, _, _, _, _, ⟨⟨⟨⟨⟨⟨⟨⟨⟨name, valueType⟩, level⟩, description⟩,
    longDescription⟩, tags⟩, services⟩, seeAlso⟩, enumValues⟩, canUpdateAtRuntime⟩, _, flags,
    rfl⟩ := fields
  exact ⟨name, valueType, level, description, longDescription, rfl, rfl, tags, services,
    seeAlso, enumValues, lower, upper, canUpdateAtRuntime, flags⟩

theorem IsReadFrom.readFields (fields : p.IsReadFrom members) :
    readFields members p.min p.max = .done p := by
  simp only [Parameter.readFields, fields.name, fields.valueType, fields.level,
    fields.description, fields.longDescription, fields.default, fields.daemonDefault,
    fields.tags, fields.services, fields.seeAlso, fields.enumValues,
    fields.canUpdateAtRuntime, fields.flags]
  rfl

/-- A record gives a parameter when all its fields can be read. -/
theorem ofRecord_eq_ok_iff :
    ofRecord record = .ok p ↔ ∃ members, record = .object members ∧ p.IsReadFrom members := by
  constructor
  · intro read
    cases record with
    | object members =>
        refine ⟨members, rfl, ?_⟩
        cases lower : readBound "min" members with
        | error error => simp [ofRecord, lower] at read
        | ok min =>
            cases upper : readBound "max" members with
            | error error => simp [ofRecord, lower, upper] at read
            | ok max =>
                simp only [ofRecord, lower, upper] at read
                cases fields : readFields members min max with
                | error errors =>
                    rw [fields] at read
                    cases read
                | ok q =>
                    rw [fields] at read
                    cases read
                    exact isReadFrom_of_readFields lower upper fields
    | null | bool | int | real | string | array => cases read
  · intro parts
    obtain ⟨members, rfl, fields⟩ := parts
    simp only [ofRecord, fields.min, fields.max, fields.readFields]
    rfl

theorem readBound_eq_error_iff {error : BoundError} :
    readBound key members = .error error ↔
      ∃ n, members.get? key = some (.int n) ∧ Binary64.overflowLimit ≤ n.natAbs := by
  unfold readBound
  cases members.get? key with
  | none => simp
  | some value => simp [Bound.ofJson_eq_error_iff]

/-- A record is refused for a bound when one of its bounds is too large, whatever
else is wrong with it. -/
theorem ofRecord_eq_bound_iff {error : BoundError} :
    ofRecord record = .error (.bound error) ↔ record.HasHugeBound := by
  cases record with
  | object members =>
      simp only [Json.HasHugeBound, Json.member?, List.mem_cons, List.not_mem_nil, or_false,
        exists_eq_or_imp, exists_eq_left, ← @readBound_eq_error_iff _ _ error]
      cases lower : readBound "min" members with
      | error first => simp [ofRecord, lower]
      | ok min =>
          cases upper : readBound "max" members with
          | error second => simp [ofRecord, lower, upper]
          | ok max =>
              simp only [ofRecord, lower, upper]
              cases readFields members min max with
              | error errors => simp [Collected.finish, Except.mapError]
              | ok q => simp [Collected.finish, Except.mapError]
  | null | bool | int | real | string | array => simp [ofRecord, Json.HasHugeBound, Json.member?]

/-! ## Written and read back -/

theorem get?_of_mem {value : Json} (distinct : (members.map (·.1)).Nodup)
    (member : (key, value) ∈ members) : members.get? key = some value := by
  induction members with
  | nil => cases member
  | cons entry rest ih =>
      obtain ⟨alone, later⟩ := List.nodup_cons.mp distinct
      rw [Members.get?_cons]
      rcases List.mem_cons.mp member with rfl | inRest
      · rw [if_pos rfl]
      · have different : entry.1 ≠ key := by
          rintro rfl
          exact alone (List.mem_map.mpr ⟨(entry.1, value), inRest, rfl⟩)
        rw [if_neg different]
        exact ih later inRest

/-- In the record of a parameter each member has its value. -/
theorem get?_recordMembers {value : Json} (member : (key, value) ∈ p.recordMembers) :
    p.recordMembers.get? key = some value := by
  refine get?_of_mem ?_ member
  simp [recordMembers]

theorem readName_of_get? {name : Text} (found : members.get? "name" = some (.string name)) :
    readName members = .done name := by
  rw [readName, found]

theorem readText_of_get? {text : Text} (found : members.get? key = some (.string text)) :
    readText key members = .done text := by
  rw [readText, found]

theorem readAliasedText_of_get? {longKey text : Text}
    (found : members.get? key = some (.string text)) :
    readAliasedText key longKey members = .done text := by
  rw [readAliasedText, found]
  exact readText_of_get? found

theorem ofItems_readTextItem (texts : List Text) (position : Nat) :
    Collected.ofItems (readTextItem key) position (texts.map Json.string) = .done texts := by
  induction texts generalizing position with
  | nil => rfl
  | cons text rest ih =>
      rw [List.map_cons, Collected.ofItems, ih]
      rfl

theorem readTexts_of_get? {texts : List Text}
    (found : members.get? key = some (textsToJson texts)) :
    readTexts key members = .done texts := by
  rw [readTexts, found]
  exact ofItems_readTextItem texts 0

theorem readTruth_of_get? {truth : Bool} (found : members.get? key = some (.bool truth)) :
    readTruth key members = .done truth := by
  rw [readTruth, found]
  rfl

theorem readBound_of_get? {bound : Bound} (found : members.get? key = some bound.toJson) :
    readBound key members = .ok bound := by
  rw [readBound, found]
  cases bound with
  | none => rfl
  | some value => rfl

end Parameter

/-- A scalar that some JSON value gives: what it holds goes with its kind. -/
def Scalar.IsPlain (s : Scalar) : Prop :=
  Scalar.ofJson s.toJson = s

theorem Scalar.isPlain_ofJson (value : Json) : (Scalar.ofJson value).IsPlain := by
  cases value <;> rfl

namespace Parameter

variable {members : Members} {record : Json} {key : Text} {p : Parameter}

/-- Both default values are scalars that JSON can give. -/
def HasPlainScalars (p : Parameter) : Prop :=
  p.default.IsPlain ∧ p.daemonDefault.IsPlain

theorem readScalar_of_get? {scalar : Scalar} (plain : scalar.IsPlain)
    (found : members.get? key = some scalar.toJson) : readScalar key members = scalar := by
  rw [readScalar, found]
  exact plain

theorem isPlain_readScalar (key : Text) (members : Members) :
    (readScalar key members).IsPlain := by
  unfold readScalar
  cases members.get? key with
  | none => rfl
  | some value => exact Scalar.isPlain_ofJson value

theorem hasPlainScalars_of_ofRecord (read : ofRecord record = .ok p) : p.HasPlainScalars := by
  obtain ⟨members, -, fields⟩ := ofRecord_eq_ok_iff.mp read
  exact ⟨fields.default ▸ isPlain_readScalar _ _,
    fields.daemonDefault ▸ isPlain_readScalar _ _⟩

/-- A parameter is read from members that hold all it writes, in any order and among
others. -/
theorem isReadFrom_of_holds (plain : p.HasPlainScalars)
    (holds : ∀ {key : Text} {value : Json}, (key, value) ∈ p.recordMembers →
      members.get? key = some value) :
    p.IsReadFrom members where
  name := readName_of_get? (holds (by simp [recordMembers]))
  valueType := readText_of_get? (holds (by simp [recordMembers]))
  level := readText_of_get? (holds (by simp [recordMembers]))
  description := readAliasedText_of_get? (holds (by simp [recordMembers]))
  longDescription := readAliasedText_of_get? (holds (by simp [recordMembers]))
  default := readScalar_of_get? plain.1 (holds (by simp [recordMembers]))
  daemonDefault := readScalar_of_get? plain.2 (holds (by simp [recordMembers]))
  tags := readTexts_of_get? (holds (by simp [recordMembers]))
  services := readTexts_of_get? (holds (by simp [recordMembers]))
  seeAlso := readTexts_of_get? (holds (by simp [recordMembers]))
  enumValues := readTexts_of_get? (holds (by simp [recordMembers]))
  min := readBound_of_get? (holds (by simp [recordMembers]))
  max := readBound_of_get? (holds (by simp [recordMembers]))
  canUpdateAtRuntime := readTruth_of_get? (holds (by simp [recordMembers]))
  flags := readTexts_of_get? (holds (by simp [recordMembers]))

theorem isReadFrom_recordMembers (plain : p.HasPlainScalars) :
    p.IsReadFrom p.recordMembers :=
  isReadFrom_of_holds plain get?_recordMembers

/-- A parameter is read back from its record. -/
theorem ofRecord_toRecord (plain : p.HasPlainScalars) : ofRecord p.toRecord = .ok p :=
  ofRecord_eq_ok_iff.mpr ⟨p.recordMembers, rfl, isReadFrom_recordMembers plain⟩

/-- The record of a parameter has the structure of a help record. -/
theorem helpRecord_admits_toRecord (p : Parameter) : Schema.helpRecord.Admits p.toRecord := by
  simp [Schema.helpRecord, Schema.Admits, HasRequired, MembersAdmit, Json.member?, toRecord,
    recordMembers, Members.get?, JsonType.admits, Schema.optionalTexts, textsToJson]

end Parameter
end Tunables
