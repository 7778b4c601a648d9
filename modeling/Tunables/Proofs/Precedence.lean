import Tunables.Proofs.Dotenv
import Tunables.Proofs.Fields
import Tunables.Settings.File

/-!
# Which place decides a setting

A setting has the value that it is given in the first place that sets it.  The places are
the overrides, the file, the environment and the file of variables, and then the default.
What is said about one setting does not matter for another, except that a value in the file
of variables may refer to any variable.
-/

namespace Tunables

theorem findSome?_id_cons {α : Type} (first : Option α) (rest : List (Option α)) :
    (first :: rest).findSome? id = first.or (rest.findSome? id) := by
  cases first with
  | none => rfl
  | some value => rfl

namespace Settings

/-! ## Places -/

/-- What settings are made from: a file that is a mapping, overrides of settings, the
environment, and a file of variables. -/
structure Layers where
  path : Text
  file : String
  entries : List (SettingValue × SettingValue)
  isMapping : SettingsFile.entriesOf path (Text.unifyLineEnds file.toList) = .ok entries
  overrides : List (Text × SettingValue)
  areFields : ∀ name ∈ overrides.map (·.1), name ∈ fields.map (·.name)
  environment : List (Text × Text)
  dotenv : String

namespace Layers

/-- The entries of the file whose keys are texts. -/
def mapping (layers : Layers) : List (Text × SettingValue) :=
  SettingsFile.namedEntries layers.entries

/-- The settings that are read from all places. -/
def Gives (layers : Layers) (s : Settings) : Prop :=
  ∃ arguments, SettingsFile.read layers.path layers.file layers.overrides = .ok arguments ∧
    ofSources ⟨arguments, layers.environment,
      Dotenv.entries layers.environment layers.dotenv⟩ = .ok s

/-- What each place says about a setting, the first one first. -/
def places (layers : Layers) (name : Text) : List (Option SettingValue) :=
  [lastWhere (· == name) layers.overrides,
    lastWhere (Text.upper · == name) layers.mapping,
    lastWhere (Text.upper · == Text.withKelvinSign name) layers.mapping,
    (lastWhere (namesVariable name) layers.environment).map .text,
    (lastWhere (namesVariable name)
      (Dotenv.entries layers.environment layers.dotenv)).join.map .text]

/-- The value of a setting in the first place that sets it. -/
def first? (layers : Layers) (name : Text) : Option SettingValue :=
  (layers.places name).findSome? id

def sources (layers : Layers) : SettingSources :=
  ⟨SettingsFile.arguments layers.entries layers.overrides, layers.environment,
    Dotenv.entries layers.environment layers.dotenv⟩

variable {layers other : Layers} {name : Text} {s : Settings}

theorem gives_iff : layers.Gives s ↔ ofSources layers.sources = .ok s := by
  simp [Gives, SettingsFile.read, layers.isMapping, Except.map, sources]

/-- The pairs that the arguments are made from: the file with its keys in upper case, and
then the overrides. -/
def pairs (layers : Layers) : List (Text × SettingValue) :=
  layers.mapping.map (fun entry => (Text.upper entry.1, entry.2)) ++ layers.overrides

theorem arguments_sources (layers : Layers) :
    layers.sources.arguments = Entries.ofPairs layers.pairs := rfl

theorem lastWhere_pairs (layers : Layers) (wanted : Text) :
    lastWhere (· == wanted) layers.pairs = (lastWhere (· == wanted) layers.overrides).or
      (lastWhere (Text.upper · == wanted) layers.mapping) := by
  rw [pairs, lastWhere_append, lastWhere_map]

theorem isLower_of_mem_pairs {key : Text} (member : key ∈ layers.pairs.map (·.1)) :
    ∀ c ∈ key.toList, c.isIn Char.isLower = false := by
  rw [pairs, List.map_append, List.mem_append, List.map_map] at member
  rcases member with inFile | given
  · obtain ⟨entry, -, rfl⟩ := List.mem_map.mp inFile
    exact fun _ => Text.isLower_of_mem_upper
  · exact (isCapitalName_of_mem (layers.areFields key given)).capital

/-- Where a setting is not given under its exact name, its only other spelling has the Kelvin
sign. -/
theorem lower_eq_lower_iff_of_pairs (isField : name ∈ fields.map (·.name))
    (absent : name ∉ layers.pairs.map (·.1)) :
    ∀ key ∈ layers.pairs.map (·.1),
      (Text.lower key == Text.lower name) = (key == Text.withKelvinSign name) := by
  intro key member
  have different : key ≠ name := fun equal => absent (equal ▸ member)
  rw [Bool.eq_iff_iff, beq_iff_eq, beq_iff_eq,
    Text.lower_eq_lower_iff (isLower_of_mem_pairs member) (isCapitalName_of_mem isField),
    or_iff_right different]

theorem overrides_without_kelvinSign (absent : name ∉ layers.overrides.map (·.1)) :
    lastWhere (· == Text.withKelvinSign name) layers.overrides = none := by
  rw [lastWhere_eq_none_iff]
  intro key member
  rw [beq_eq_false_iff_ne]
  intro kelvin
  exact absent (eq_of_eq_withKelvinSign (layers.areFields key member) kelvin ▸ member)

/-- Among arguments the exact name of a setting comes first, and an override comes before
the file. -/
theorem argument?_sources (isField : name ∈ fields.map (·.name)) :
    layers.sources.argument? name = (lastWhere (· == name) layers.overrides).or
      ((lastWhere (Text.upper · == name) layers.mapping).or
        (lastWhere (Text.upper · == Text.withKelvinSign name) layers.mapping)) := by
  have exact : (Entries.ofPairs layers.pairs).reverse.lookup name =
      lastWhere (· == name) layers.pairs := by
    rw [lookup_reverse_eq_lastWhere]
    exact lastWhere_ofPairs fun _ _ => rfl
  unfold SettingSources.argument?
  rw [arguments_sources, exact, ← Option.or_assoc, ← lastWhere_pairs]
  cases decided : lastWhere (· == name) layers.pairs with
  | some value => rfl
  | none =>
      -- The exact name is not given, so its one other spelling is all that is left.
      have absent : name ∉ layers.pairs.map (·.1) := by
        intro member
        simpa using lastWhere_eq_none_iff.mp decided name member
      have notOverridden : name ∉ layers.overrides.map (·.1) := by
        intro member
        exact absent (by simpa [pairs] using Or.inr member)
      have spelling := lower_eq_lower_iff_of_pairs isField absent
      calc SettingSources.lookupAnyCase name (Entries.ofPairs layers.pairs)
        _ = lastWhere (Text.lower · == Text.lower name) layers.pairs := lastWhere_ofPairs spelling
        _ = lastWhere (· == Text.withKelvinSign name) layers.pairs := lastWhere_congr spelling
        _ = none.or (lastWhere (Text.upper · == Text.withKelvinSign name) layers.mapping) := by
          rw [lastWhere_pairs, overrides_without_kelvinSign notOverridden]

theorem value?_sources (isField : name ∈ fields.map (·.name)) :
    layers.sources.value? name = layers.first? name := by
  have anyCase {α : Type} (entries : List (Text × α)) :
      SettingSources.lookupAnyCase (SettingSources.environmentStart ++ name) entries =
        lastWhere (namesVariable name) entries := rfl
  rw [SettingSources.value?_eq_or, argument?_sources isField, anyCase, anyCase]
  simp only [first?, places, findSome?_id_cons, List.findSome?_nil, Option.or_none,
    Option.or_assoc]
  rfl

/-- All places say the same about a setting.  If only the file of variables is left to set
it, no value that it is given there refers to a variable. -/
structure AgreesOn (layers other : Layers) (name : Text) : Prop where
  overrides : layers.overrides.filter (·.1 == name) = other.overrides.filter (·.1 == name)
  mapping : layers.mapping.filter (namesKey name ·.1) = other.mapping.filter (namesKey name ·.1)
  environment : layers.environment.filter (namesVariable name ·.1) =
    other.environment.filter (namesVariable name ·.1)
  dotenv : (Dotenv.bindings layers.dotenv).filter (·.isAbout (namesVariable name)) =
    (Dotenv.bindings other.dotenv).filter (·.isAbout (namesVariable name))
  plain : (∀ place ∈ (layers.places name).dropLast, place = none) →
    ∀ key value : String, .assigned key value ∈ Dotenv.bindings layers.dotenv →
      namesVariable name key = true → Dotenv.IsPlain value

theorem AgreesOn.dropLast_places (agree : layers.AgreesOn other name) :
    (layers.places name).dropLast = (other.places name).dropLast := by
  have mapping {wanted : Text} (selects : ∀ key, (Text.upper key == wanted) = true →
      namesKey name key = true) : lastWhere (Text.upper · == wanted) layers.mapping =
        lastWhere (Text.upper · == wanted) other.mapping :=
    lastWhere_eq_of_filter_eq selects agree.mapping
  simp only [places, List.dropLast_cons_cons, List.dropLast_singleton]
  rw [lastWhere_eq_of_filter_eq (fun _ => id) agree.overrides,
    mapping fun key same => by simp [namesKey, same],
    mapping fun key same => by simp [namesKey, same],
    lastWhere_eq_of_filter_eq (fun _ => id) agree.environment]

theorem AgreesOn.variables (agree : layers.AgreesOn other name)
    (unset : ∀ place ∈ (layers.places name).dropLast, place = none) :
    lastWhere (namesVariable name) (Dotenv.entries layers.environment layers.dotenv) =
      lastWhere (namesVariable name) (Dotenv.entries other.environment other.dotenv) := by
  have plain := agree.plain unset
  have plainOther : ∀ key value : String, .assigned key value ∈ Dotenv.bindings other.dotenv →
      namesVariable name key = true → Dotenv.IsPlain value := by
    intro key value member named
    have kept : .assigned key value ∈
        (Dotenv.bindings other.dotenv).filter (·.isAbout (namesVariable name)) :=
      List.mem_filter.mpr ⟨member, named⟩
    rw [← agree.dotenv] at kept
    exact plain key value (List.mem_filter.mp kept).1 named
  apply lastWhere_eq_of_filter_eq fun _ => id
  rw [Dotenv.entries_eq_resolveAll, Dotenv.entries_eq_resolveAll,
    Dotenv.filter_resolveAll _ _ _ plain, Dotenv.filter_resolveAll _ _ _ plainOther, agree.dotenv]

theorem first?_eq_or (layers : Layers) (name : Text) :
    layers.first? name = ((layers.places name).dropLast.findSome? id).or
      ((lastWhere (namesVariable name)
        (Dotenv.entries layers.environment layers.dotenv)).join.map .text) := by
  simp only [first?, places, List.dropLast_cons_cons, List.dropLast_singleton, findSome?_id_cons,
    List.findSome?_nil, Option.or_none, Option.or_assoc]

theorem AgreesOn.first?_eq (agree : layers.AgreesOn other name) :
    layers.first? name = other.first? name := by
  rw [first?_eq_or, first?_eq_or, agree.dropLast_places]
  cases stated : (other.places name).dropLast.findSome? id with
  | some value => rw [Option.some_or, Option.some_or]
  | none =>
      rw [← agree.dropLast_places, List.findSome?_eq_none_iff] at stated
      rw [agree.variables stated]

end Layers

theorem Layers.Gives.isReadFrom {layers : Layers} {s : Settings} (gives : layers.Gives s)
    {field : Field} (isField : field ∈ fields) :
    field.IsReadFrom s (layers.first? field.name) := by
  rw [← value?_sources (List.mem_map_of_mem isField)]
  exact ofSources_eq_ok_iff.mp (gives_iff.mp gives) field isField

theorem Layers.exists_gives {layers : Layers} (valid : ∀ field ∈ fields,
    ∀ value ∈ layers.first? field.name, (field.read value).isOk = true) :
    ∃ s, layers.Gives s := by
  simp only [gives_iff]
  rw [exists_ofSources_iff]
  intro field isField
  unfold readField
  rw [value?_sources (List.mem_map_of_mem isField)]
  cases decides : layers.first? field.name with
  | none => exact ⟨field.value standard, rfl⟩
  | some value =>
      have accepted := valid field isField value decides
      cases result : field.read value with
      | error kind =>
          rw [result] at accepted
          cases accepted
      | ok value =>
          dsimp only
          rw [result]
          exact ⟨value, rfl⟩

/-- Settings are read when the values that decide are valid.  Each setting is then read from
the value that it is given in the first place that sets it, what is said about another setting
does not matter for it, and nothing is said about two settings at once. -/
theorem first_place_decides (layers : Layers)
    (valid : ∀ field ∈ fields, ∀ value ∈ layers.first? field.name,
      (field.read value).isOk = true) :
    (∃ s, layers.Gives s ∧
      (∀ field ∈ fields, field.IsReadFrom s (layers.first? field.name)) ∧
      ∀ (other : Layers) (t : Settings), other.Gives t →
        ∀ field ∈ fields, layers.AgreesOn other field.name → field.value t = field.value s) ∧
    ∀ name ∈ fields.map (·.name), ∀ other ∈ fields.map (·.name), ∀ key,
      namesKey name key = true ∧ namesKey other key = true ∨
        namesVariable name key = true ∧ namesVariable other key = true → name = other := by
  constructor
  · obtain ⟨s, gives⟩ := Layers.exists_gives valid
    refine ⟨s, gives, fun field isField => gives.isReadFrom isField, ?_⟩
    intro other t givesOther field isField agree
    have readOther := givesOther.isReadFrom isField
    rw [← agree.first?_eq] at readOther
    exact readOther.unique (gives.isReadFrom isField)
  · intro name isField other isOther key both
    rcases both with ⟨first, second⟩ | ⟨first, second⟩
    · exact eq_of_namesKey isField isOther first second
    · exact eq_of_namesVariable isField isOther first second

/-- Five settings, of which each place decides one that later places set as well. -/
def mixed : Layers where
  path := "settings.yaml"
  file := "executor: a\nEXECUTOR: b\nceph_user: b\ns\u212Aip_cluster_update: true\n"
  entries := [(.text "executor", .text "a"), (.text "EXECUTOR", .text "b"),
    (.text "ceph_user", .text "b"), (.text "s\u212Aip_cluster_update", .truth true)]
  isMapping := by decide +kernel
  overrides := [("CEPH_USER", .text "c")]
  areFields := by decide
  environment := [("PARAM_CATALOG_EXECUTOR", "d"), ("PARAM_CATALOG_SKIP_CLUSTER_UPDATE", "0"),
    ("param_catalog_ceph_conf", "d")]
  dotenv := "PARAM_CATALOG_CEPH_CONF=e\nPARAM_CATALOG_CEPH_BINARY=e\n"

theorem first_place_decides_mixed :
    (fields.map fun field => mixed.first? field.name) =
      [none, none, none, some (.truth true), none, none, some (.text "b"), some (.text "e"),
        some (.text "d"), some (.text "c"), none, none, none, none] ∧
    ∃ s, mixed.Gives s ∧ s.cephUser = some ("c" : Text) ∧ s.executor = "b" ∧
      s.skipClusterUpdate = true ∧ s.cephConf = some ("d" : Text) ∧ s.cephBinary = "e" ∧
      (∀ field ∈ fields, field.IsReadFrom s (mixed.first? field.name)) ∧
      ∀ t, Layers.Gives { mixed with
          dotenv := "PARAM_CATALOG_CEPH_BINARY=e\nPARAM_CATALOG_CEPH_KEYRING=e\n" } t →
        t.cephBinary = s.cephBinary := by
  have entries : Dotenv.entries mixed.environment mixed.dotenv =
      ([("PARAM_CATALOG_CEPH_CONF", some "e"), ("PARAM_CATALOG_CEPH_BINARY", some "e")] :
        List (Text × Option Text)) := by
    decide +kernel
  have decided : (fields.map fun field => mixed.first? field.name) =
      [none, none, none, some (.truth true), none, none, some (.text "b"), some (.text "e"),
        some (.text "d"), some (.text "c"), none, none, none, none] := by
    simp only [Layers.first?, Layers.places, entries]
    decide +kernel
  refine ⟨decided, ?_⟩
  simp only [fields, List.map_cons, List.map_nil, List.cons.injEq, and_true] at decided
  have valid : ∀ field ∈ fields, ∀ value ∈ mixed.first? field.name,
      (field.read value).isOk = true := by
    simp [fields, decided, textOf, optionalTextOf, truthOf, Except.isOk, Except.toBool, Except.map]
  obtain ⟨⟨s, gives, read, unaffected⟩, -⟩ := first_place_decides mixed valid
  have values := read
  simp only [fields, List.forall_mem_cons, decided, Field.IsReadFrom] at values
  obtain ⟨-, -, -, skip, -, -, executor, binary, conf, user, -⟩ := values
  refine ⟨s, gives, (Except.ok.inj user).symm, (Except.ok.inj executor).symm,
    (Except.ok.inj skip).symm, (Except.ok.inj conf).symm, (Except.ok.inj binary).symm, read, ?_⟩
  intro t givesOther
  have isField : (⟨_, "CEPH_BINARY", textOf, cephBinary⟩ : Field) ∈ fields := by simp [fields]
  have lines : Dotenv.bindings mixed.dotenv = [.assigned "PARAM_CATALOG_CEPH_CONF" "e",
      .assigned "PARAM_CATALOG_CEPH_BINARY" "e"] := by
    decide +kernel
  have otherLines : Dotenv.bindings "PARAM_CATALOG_CEPH_BINARY=e\nPARAM_CATALOG_CEPH_KEYRING=e\n" =
      [.assigned "PARAM_CATALOG_CEPH_BINARY" "e", .assigned "PARAM_CATALOG_CEPH_KEYRING" "e"] := by
    decide +kernel
  refine unaffected _ t givesOther _ isField ⟨rfl, rfl, rfl, ?_, ?_⟩
  · rw [lines, otherLines]
    decide +kernel
  · intro _ key value member _
    have unreferenced : Dotenv.IsPlain "e" := by unfold Dotenv.IsPlain; decide
    simp only [lines, List.mem_cons, Dotenv.Binding.assigned.injEq, List.not_mem_nil,
      or_false] at member
    rcases member with ⟨-, rfl⟩ | ⟨-, rfl⟩
    · exact unreferenced
    · exact unreferenced

/-- A variable of one setting decides another one that refers to it, and a key with the Kelvin
sign names a setting. -/
theorem reference_and_kelvinSign_decide :
    (∃ s t, let dotenv := "PARAM_CATALOG_CEPH_CONF=$\x7bPARAM_CATALOG_EXECUTOR\x7d\n"
      let environment : List (Text × Text) := [("PARAM_CATALOG_EXECUTOR", "mock")]
      SettingsFile.read "settings.yaml" "\x7b\x7d\n" [] = .ok [] ∧
      ofSources ⟨[], environment, Dotenv.entries environment dotenv⟩ = .ok s ∧
      ofSources ⟨[], [], Dotenv.entries [] dotenv⟩ = .ok t ∧
      s.cephConf = some ("mock" : Text) ∧ t.cephConf = some ("" : Text)) ∧
    (∃ arguments s,
      SettingsFile.read "settings.yaml" "s\u212Aip_cluster_update: true\n" [] = .ok arguments ∧
      ofSources ⟨arguments, [], []⟩ = .ok s ∧
      Text.upper "s\u212Aip_cluster_update" ≠ "SKIP_CLUSTER_UPDATE" ∧
      s.skipClusterUpdate = true) := by
  have executor : ∀ name ∈ fields.map (·.name),
      namesVariable name "PARAM_CATALOG_EXECUTOR" = (name == "EXECUTOR") :=
    fun name isField => namesVariable_eq isField (by decide) (by decide +kernel)
  have conf : ∀ name ∈ fields.map (·.name),
      namesVariable name "PARAM_CATALOG_CEPH_CONF" = (name == "CEPH_CONF") :=
    fun name isField => namesVariable_eq isField (by decide) (by decide +kernel)
  simp only [fields, List.map_cons, List.map_nil, List.forall_mem_cons] at executor conf
  refine ⟨⟨{ standard with executor := "mock", cephConf := some "mock" },
    { standard with cephConf := some "" }, ?_, ?_, ?_, rfl, rfl⟩, ?_⟩
  · decide +kernel
  · have entries : Dotenv.entries [("PARAM_CATALOG_EXECUTOR", "mock")]
        "PARAM_CATALOG_CEPH_CONF=$\x7bPARAM_CATALOG_EXECUTOR\x7d\n" =
          ([("PARAM_CATALOG_CEPH_CONF", some "mock")] : List (Text × Option Text)) := by decide +kernel
    rw [ofSources_eq_ok_iff, entries]
    simp [fields, value?_of_variables, lastWhere, executor, conf, Field.IsReadFrom, textOf,
      optionalTextOf, Except.map]
  · have entries : Dotenv.entries [] "PARAM_CATALOG_CEPH_CONF=$\x7bPARAM_CATALOG_EXECUTOR\x7d\n" =
        ([("PARAM_CATALOG_CEPH_CONF", some "")] : List (Text × Option Text)) := by decide +kernel
    rw [ofSources_eq_ok_iff, entries]
    simp [fields, value?_of_variables, lastWhere, conf, Field.IsReadFrom, optionalTextOf, textOf,
      Except.map]
  · have skip : ∀ name ∈ fields.map (·.name),
        (Text.lower "S\u212AIP_CLUSTER_UPDATE" = Text.lower name ↔
          name = "SKIP_CLUSTER_UPDATE") :=
      fun name isField => lower_eq_lower_iff_eq isField (by decide) (by decide +kernel)
    simp only [fields, List.map_cons, List.map_nil, List.forall_mem_cons] at skip
    refine ⟨[("S\u212AIP_CLUSTER_UPDATE", .truth true)],
      { standard with skipClusterUpdate := true }, ?_, ?_, ?_, rfl⟩
    · decide +kernel
    · rw [ofSources_eq_ok_iff]
      simp [fields, SettingSources.value?, SettingSources.argument?, SettingSources.lookupAnyCase,
        List.lookup_cons, skip, Field.IsReadFrom, truthOf]
    · decide +kernel

end Settings
end Tunables
