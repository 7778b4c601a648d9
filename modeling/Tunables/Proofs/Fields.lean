import Tunables.Proofs.AnyCase
import Tunables.Proofs.LastEntry
import Tunables.Proofs.Record
import Tunables.Settings

/-!
# The settings field by field

Settings are read from their sources when each field can be read, and each field is read on
its own.  No key of a file and no variable is that of two fields.
-/

namespace Tunables

theorem SettingSources.value?_eq_or (sources : SettingSources) (field : Text) :
    sources.value? field = (sources.argument? field).or
      (((lookupAnyCase (environmentStart ++ field) sources.environment).map .text).or
        ((lookupAnyCase (environmentStart ++ field) sources.dotenv).join.map .text)) := by
  unfold value?
  cases sources.argument? field with
  | some value => rfl
  | none =>
      dsimp only
      cases lookupAnyCase (environmentStart ++ field) sources.environment with
      | some value => rfl
      | none => rfl

theorem Collected.finish_eq_ok_iff {α : Type} {subject : String} {collected : Collected α}
    {value : α} : collected.finish subject = .ok value ↔ collected = .done value := by
  cases collected with
  | error errors => exact iff_of_false nofun nofun
  | ok result => exact (iff_of_eq (Except.ok.injEq _ _)).trans Collected.done_inj.symm

namespace Settings

/-- A setting, with how its value is read and what is read. -/
structure Field where
  Value : Type
  name : Text
  read : SettingValue → Except FieldErrorKind Value
  value : Settings → Value

def fields : List Field :=
  [⟨_, "SERVICE_NAME", textOf, serviceName⟩,
    ⟨_, "SERVICE_VERSION", textOf, serviceVersion⟩,
    ⟨_, "BASELINE_PATH", optionalTextOf, baselinePath⟩,
    ⟨_, "SKIP_CLUSTER_UPDATE", truthOf, skipClusterUpdate⟩,
    ⟨_, "REFRESH_INTERVAL", secondsOf, refreshInterval⟩,
    ⟨_, "RECONCILE_TIMEOUT", optionalSecondsOf, reconcileTimeout⟩,
    ⟨_, "EXECUTOR", textOf, executor⟩,
    ⟨_, "CEPH_BINARY", textOf, cephBinary⟩,
    ⟨_, "CEPH_CONF", optionalTextOf, cephConf⟩,
    ⟨_, "CEPH_USER", optionalTextOf, cephUser⟩,
    ⟨_, "CEPH_KEYRING", optionalTextOf, cephKeyring⟩,
    ⟨_, "CEPH_MON_HOST", optionalTextOf, cephMonHost⟩,
    ⟨_, "COMMAND_TIMEOUT", optionalSecondsOf, commandTimeout⟩,
    ⟨_, "MOCK_DATA_DIR", optionalTextOf, mockDataDir⟩]

/-- A setting is read from a value; it has its default if there is none. -/
def Field.IsReadFrom (field : Field) (s : Settings) : Option SettingValue → Prop
  | none => field.value s = field.value standard
  | some value => field.read value = .ok (field.value s)

theorem Field.IsReadFrom.unique {field : Field} {s t : Settings} {value? : Option SettingValue}
    (first : field.IsReadFrom s value?) (second : field.IsReadFrom t value?) :
    field.value s = field.value t := by
  cases value? with
  | none => exact Eq.trans first (Eq.symm second)
  | some value => exact Except.ok.inj (Eq.trans (Eq.symm first) second)

section
variable {sources : SettingSources} {s : Settings}

theorem Field.isReadFrom_iff (field : Field) :
    readField field.read sources field.name (field.value standard) = .done (field.value s) ↔
      field.IsReadFrom s (sources.value? field.name) := by
  unfold readField
  cases sources.value? field.name with
  | none => exact Collected.done_inj.trans eq_comm
  | some value =>
      dsimp only [IsReadFrom]
      cases field.read value with
      | error kind => exact iff_of_false nofun nofun
      | ok result => exact Collected.done_inj.trans (by rw [Except.ok.injEq])

theorem ofSources_eq_ok_iff : ofSources sources = .ok s ↔
    ∀ field ∈ fields, field.IsReadFrom s (sources.value? field.name) := by
  simp only [← Field.isReadFrom_iff]
  rw [ofSources, Collected.finish_eq_ok_iff]
  cases s
  simp only [Collected.apply_eq_done_iff, Collected.done_inj, exists_and_left, ↓existsAndEq,
    true_and, and_true, mk.injEq, fields, List.forall_mem_cons, List.not_mem_nil, and_assoc,
    false_imp_iff, implies_true]

theorem exists_ofSources_iff : (∃ s, ofSources sources = .ok s) ↔
    ∀ field ∈ fields, ∃ value,
      readField field.read sources field.name (field.value standard) = .done value := by
  simp only [ofSources, Collected.finish_eq_ok_iff, Collected.apply_eq_done_iff, Collected.done_inj,
    exists_and_left, exists_and_right, ↓existsAndEq, true_and, and_true, fields,
    List.forall_mem_cons, List.not_mem_nil, and_assoc, false_imp_iff, implies_true]

end

/-! ## Names -/

/-- The names of settings are in upper-case ASCII letters, with the letter K at most once. -/
theorem isCapitalName_of_mem {name : Text} (member : name ∈ fields.map (·.name)) :
    Text.IsCapitalName name := by
  have all : ∀ name ∈ fields.map (·.name),
      (name.toList.all fun c => c.toNat < 128 && !c.isIn Char.isLower) = true ∧
        name.toList.count (.char 'K') ≤ 1 := by
    decide +kernel
  obtain ⟨letters, atMostOneK⟩ := all name member
  simp only [List.all_eq_true, Bool.and_eq_true, decide_eq_true_eq, Bool.not_eq_true'] at letters
  exact ⟨fun c inName => (letters c inName).1, fun c inName => (letters c inName).2, atMostOneK⟩

section
variable {name other key : Text}

theorem eq_of_eq_withKelvinSign (isField : name ∈ fields.map (·.name))
    (kelvin : name = Text.withKelvinSign other) : name = other := by
  have ascii := (isCapitalName_of_mem isField).ascii
  rw [kelvin] at ascii
  exact kelvin.trans (Text.withKelvinSign_eq_of_ascii ascii)

theorem eq_of_lower_eq (isField : name ∈ fields.map (·.name))
    (isOther : other ∈ fields.map (·.name)) (same : Text.lower name = Text.lower other) :
    name = other := by
  have capitals := (isCapitalName_of_mem isField).capital
  rw [Text.lower_eq_lower_iff capitals (isCapitalName_of_mem isOther)] at same
  exact same.elim id (eq_of_eq_withKelvinSign isField)

/-- Whether a key of the file names a setting. -/
def namesKey (name key : Text) : Bool :=
  Text.upper key == name || Text.upper key == Text.withKelvinSign name

theorem namesKey_iff (isField : name ∈ fields.map (·.name)) :
    namesKey name key = true ↔ Text.lower (Text.upper key) = Text.lower name := by
  rw [namesKey, Bool.or_eq_true, beq_iff_eq, beq_iff_eq,
    Text.lower_eq_lower_iff (fun _ => Text.isLower_of_mem_upper) (isCapitalName_of_mem isField)]

/-- Whether a name in any case is that of the variable of a setting. -/
def namesVariable (name key : Text) : Bool :=
  Text.lower key == Text.lower (SettingSources.environmentStart ++ name)

/-- No key of the file names two settings. -/
theorem eq_of_namesKey (isField : name ∈ fields.map (·.name))
    (isOther : other ∈ fields.map (·.name)) (first : namesKey name key = true)
    (second : namesKey other key = true) : name = other := by
  rw [namesKey_iff isField] at first
  rw [namesKey_iff isOther] at second
  exact eq_of_lower_eq isField isOther (first.symm.trans second)

/-- No variable is that of two settings. -/
theorem eq_of_namesVariable (isField : name ∈ fields.map (·.name))
    (isOther : other ∈ fields.map (·.name)) (first : namesVariable name key = true)
    (second : namesVariable other key = true) : name = other := by
  have toList_lower {name : Text} (isField : name ∈ fields.map (·.name)) :
      (Text.lower (SettingSources.environmentStart ++ name)).toList =
        SettingSources.environmentStart.toList.map Text.smallLetter ++
          (Text.lower name).toList := by
    have start : ∀ c ∈ SettingSources.environmentStart.toList, c.toNat < 128 := by
      decide
    have ascii := (isCapitalName_of_mem isField).ascii
    rw [Text.toList_lower_of_ascii ascii, Text.toList_lower_of_ascii, Text.toList_append,
      List.map_append]
    rw [Text.toList_append]
    exact fun c member => (List.mem_append.mp member).elim (start c) (ascii c)
  have same := (beq_iff_eq.mp first).symm.trans (beq_iff_eq.mp second)
  rw [← Text.toList_inj, toList_lower isField, toList_lower isOther,
    List.append_cancel_left_eq, Text.toList_inj] at same
  exact eq_of_lower_eq isField isOther same

theorem lower_eq_lower_iff_eq (isField : name ∈ fields.map (·.name))
    (isOther : other ∈ fields.map (·.name)) (spelled : Text.lower key = Text.lower other) :
    Text.lower key = Text.lower name ↔ name = other := by
  rw [spelled]
  constructor
  · exact fun same => eq_of_lower_eq isField isOther same.symm
  · rintro rfl
    rfl

theorem namesVariable_eq (isField : name ∈ fields.map (·.name))
    (isOther : other ∈ fields.map (·.name)) (named : namesVariable other key = true) :
    namesVariable name key = (name == other) := by
  rw [Bool.eq_iff_iff, beq_iff_eq]
  constructor
  · exact fun first => eq_of_namesVariable isField isOther first named
  · rintro rfl
    exact named

end

theorem value?_of_variables (environment : List (Text × Text))
    (dotenv : List (Text × Option Text)) (name : Text) :
    SettingSources.value? ⟨[], environment, dotenv⟩ name =
      ((lastWhere (namesVariable name) environment).map .text).or
        ((lastWhere (namesVariable name) dotenv).join.map .text) := by
  rw [SettingSources.value?_eq_or]
  rfl

end Settings
end Tunables
