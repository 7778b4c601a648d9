import Mathlib.Data.List.Nodup
import Mathlib.Data.Option.Basic
import Tunables.Executor
import Tunables.Proofs.Fields

/-!
# Settings in the arguments of the tool

The arguments that every run of the tool starts with are flags, each with its value.  The
settings that they come from can be read back from them.  There are none at all when the
limit of a command is infinite or not a number.
-/

namespace Tunables

/-! ## Flags with values -/

/-- The flags of arguments with their values. -/
def optionsOf : List Text → List (Text × Text)
  | flag :: value :: rest => (flag, value) :: optionsOf rest
  | _ => []

/-- The arguments that flags with values are written as. -/
def argumentsOf (options : List (Text × Text)) : List Text :=
  options.flatMap fun option => [option.1, option.2]

theorem optionsOf_argumentsOf (options : List (Text × Text)) :
    optionsOf (argumentsOf options) = options := by
  induction options with
  | nil => rfl
  | cons option rest ih => exact congrArg (option :: ·) ih

theorem argumentsOf_append (options others : List (Text × Text)) :
    argumentsOf (options ++ others) = argumentsOf options ++ argumentsOf others :=
  List.flatMap_append

namespace Settings

/-- A flag with a value that is not empty, if there is one. -/
def option (flag : Text) (value : Option Text) : List (Text × Text) :=
  ((value.filter fun text => !text.isEmpty).map (flag, ·)).toList

theorem flagged_eq_argumentsOf (flag : Text) (value : Option Text) :
    flagged flag value = argumentsOf (option flag value) := by
  cases value with
  | none => rfl
  | some text =>
      cases empty : text.isEmpty with
      | true => simp [flagged, option, argumentsOf, Option.filter, empty]
      | false => simp [flagged, option, argumentsOf, Option.filter, empty]

theorem lookup_option (flag key : Text) (value : Option Text) :
    (option flag value).lookup key = if key = flag then value.filter (!·.isEmpty) else none := by
  unfold option
  cases value.filter (!·.isEmpty) with
  | none => simp
  | some text =>
      by_cases same : key = flag
      · simp [same]
      · have other : (key == flag) = false := by simpa using same
        simp [List.lookup_cons, same, other]

theorem flags_option (flag : Text) (value : Option Text) :
    ((option flag value).map (·.1)).Sublist [flag] := by
  unfold option
  cases value.filter (!·.isEmpty) with
  | none => exact List.nil_sublist _
  | some text => exact List.Sublist.refl _

variable {s : Settings} {arguments : List Text}

/-- The limit of a command that a flag is written for. -/
def limit? (s : Settings) : Option Binary64 :=
  s.commandTimeout.filter fun limit => !limit.isZero

/-- Why the limit of a command has no integer part. -/
inductive LacksWhole : Binary64 → TruncationError → Prop where
  | nan : LacksWhole .nan .notANumber
  | infinite (negative : Bool) : LacksWhole (.infinite negative) .infinite

/-- A text is the integer part of a limit. -/
def IsWholeText (text : Text) (limit : Binary64) : Prop :=
  ∃ units, limit.units? = some units ∧ text = toString (units.tdiv Binary64.unitsPerOne)

/-- The flags of arguments are those of the settings, each at most once and in this order,
and their values are the settings themselves; of the limit it is the integer part. -/
structure IsReadBackFrom (s : Settings) (arguments : List Text) : Prop where
  paired : argumentsOf (optionsOf arguments) = arguments
  flags : ((optionsOf arguments).map (·.1)).Sublist
    (["--conf", "--name", "--keyring", "-m", "--connect-timeout"] : List Text)
  conf : (optionsOf arguments).lookup ("--conf" : Text) = s.cephConf.filter (!·.isEmpty)
  user : (optionsOf arguments).lookup ("--name" : Text) = s.cephUser.filter (!·.isEmpty)
  keyring : (optionsOf arguments).lookup ("--keyring" : Text) = s.cephKeyring.filter (!·.isEmpty)
  monHost : (optionsOf arguments).lookup ("-m" : Text) = s.cephMonHost.filter (!·.isEmpty)
  limit : Option.Rel IsWholeText ((optionsOf arguments).lookup ("--connect-timeout" : Text)) s.limit?

theorem truncated_cases (limit : Binary64) :
    (∃ units, limit.units? = some units ∧
      truncated limit = .ok (units.tdiv Binary64.unitsPerOne)) ∨
    ∃ error, LacksWhole limit error ∧ truncated limit = .error error := by
  cases limit with
  | nan => exact .inr ⟨_, .nan, rfl⟩
  | infinite negative => exact .inr ⟨_, .infinite negative, rfl⟩
  | finite negative rank inRange => exact .inl ⟨_, rfl, rfl⟩

theorem connectTimeoutArguments_cases (s : Settings) :
    (∃ options, s.connectTimeoutArguments = .ok (argumentsOf options) ∧
      (options.map (·.1)).Sublist [("--connect-timeout" : Text)] ∧
      Option.Rel IsWholeText (options.lookup ("--connect-timeout" : Text)) s.limit?) ∨
    ∃ limit error, s.commandTimeout = some limit ∧ LacksWhole limit error ∧
      s.connectTimeoutArguments = .error error := by
  unfold connectTimeoutArguments limit?
  cases s.commandTimeout with
  | none => exact .inl ⟨[], rfl, List.nil_sublist _, .none⟩
  | some limit =>
      dsimp only
      by_cases zero : limit.isZero = true
      · rw [if_pos zero, Option.filter_some_neg (by simp [zero])]
        exact .inl ⟨[], rfl, List.nil_sublist _, .none⟩
      · rw [if_neg zero, Option.filter_some_pos (by simp [zero])]
        rcases truncated_cases limit with ⟨units, finite, whole⟩ | ⟨error, lacks, failed⟩
        · rw [whole]
          refine .inl ⟨[("--connect-timeout", _)], rfl, List.Sublist.refl _, ?_⟩
          exact .some ⟨units, finite, rfl⟩
        · rw [failed]
          exact .inr ⟨limit, error, rfl, lacks, rfl⟩

/-- The settings are read back from the options that they are written as. -/
theorem isReadBackFrom_argumentsOf {options : List (Text × Text)}
    (only : (options.map (·.1)).Sublist [("--connect-timeout" : Text)])
    (limit : Option.Rel IsWholeText (options.lookup ("--connect-timeout" : Text)) s.limit?) :
    s.IsReadBackFrom (argumentsOf (option "--conf" s.cephConf ++ option "--name" s.cephUser ++
      option "--keyring" s.cephKeyring ++ option "-m" s.cephMonHost ++ options)) := by
  have absent {key : Text} (other : key ≠ "--connect-timeout") : options.lookup key = none := by
    rw [List.lookup_eq_none_iff]
    intro entry member
    have named := List.mem_singleton.mp (only.subset (List.mem_map_of_mem member))
    simpa [named] using other
  refine ⟨?_, ?_, ?_, ?_, ?_, ?_, ?_⟩
  · rw [optionsOf_argumentsOf]
  · rw [optionsOf_argumentsOf]
    simp only [List.map_append]
    exact ((((flags_option _ _).append (flags_option _ _)).append (flags_option _ _)).append
      (flags_option _ _)).append only
  · simp [optionsOf_argumentsOf, List.lookup_append, lookup_option, absent]
  · simp [optionsOf_argumentsOf, List.lookup_append, lookup_option, absent]
  · simp [optionsOf_argumentsOf, List.lookup_append, lookup_option, absent]
  · simp [optionsOf_argumentsOf, List.lookup_append, lookup_option, absent]
  · simpa [optionsOf_argumentsOf, List.lookup_append, lookup_option] using limit

theorem baseArguments_cases (s : Settings) :
    (∃ arguments, s.baseArguments = .ok arguments ∧ s.IsReadBackFrom arguments) ∨
      ∃ limit error, s.commandTimeout = some limit ∧ LacksWhole limit error ∧
        s.baseArguments = .error error := by
  unfold baseArguments
  rcases connectTimeoutArguments_cases s with
    ⟨options, made, only, limit⟩ | ⟨limit, error, given, lacks, failed⟩
  · refine .inl ⟨_, ?_, isReadBackFrom_argumentsOf only limit⟩
    rw [made]
    simp only [Except.map, flagged_eq_argumentsOf, argumentsOf_append]
  · rw [failed]
    exact .inr ⟨limit, error, given, lacks, rfl⟩

theorem baseArguments_eq_error_iff {error : TruncationError} :
    s.baseArguments = .error error ↔
      ∃ limit, s.commandTimeout = some limit ∧ LacksWhole limit error := by
  constructor
  · intro failed
    rcases baseArguments_cases s with ⟨arguments, made, -⟩ | ⟨limit, other, given, lacks, same⟩
    · rw [made] at failed
      cases failed
    · rw [same] at failed
      cases failed
      exact ⟨limit, given, lacks⟩
  · rintro ⟨limit, given, lacks⟩
    unfold baseArguments connectTimeoutArguments
    rw [given]
    cases lacks <;> rfl

/-- There are arguments exactly unless the limit of a command is infinite or not a number,
and then the settings can be read back from them.  A tool is built from the same arguments,
or fails like them. -/
theorem baseArguments_characterization (s : Settings) :
    ((∃ arguments, s.baseArguments = .ok arguments ∧ s.IsReadBackFrom arguments) ↔
      ∀ limit ∈ s.commandTimeout, ∀ error, ¬ LacksWhole limit error) ∧
    (∀ error, s.baseArguments = .error error ↔
      ∃ limit, s.commandTimeout = some limit ∧ LacksWhole limit error) ∧
    (Executor.toolOf s).map (·.baseArguments) = s.baseArguments := by
  refine ⟨?_, fun error => baseArguments_eq_error_iff, ?_⟩
  · constructor
    · rintro ⟨arguments, made, -⟩ limit given error lacks
      rw [baseArguments_eq_error_iff.mpr ⟨limit, given, lacks⟩] at made
      cases made
    · intro whole
      rcases baseArguments_cases s with made | ⟨limit, error, given, lacks, -⟩
      · exact made
      · exact absurd lacks (whole limit given error)
  · unfold Executor.toolOf
    cases s.baseArguments <;> rfl

/-- An infinite limit from the environment is accepted, and then no tool can be built. -/
theorem baseArguments_infiniteLimit :
    ∃ s, ofSources ⟨[], [("PARAM_CATALOG_COMMAND_TIMEOUT", "inf")], []⟩ = .ok s ∧
      s.baseArguments = .error .infinite ∧ Executor.toolOf s = .error .infinite := by
  have timeout : ∀ name ∈ fields.map (·.name),
      namesVariable name "PARAM_CATALOG_COMMAND_TIMEOUT" = (name == "COMMAND_TIMEOUT") :=
    fun name isField => namesVariable_eq isField (by decide) (by decide +kernel)
  simp only [fields, List.map_cons, List.map_nil, List.forall_mem_cons] at timeout
  have infinite : optionalSecondsOf (.text "inf") = .ok (some (.infinite false)) := by
    decide +kernel
  refine ⟨{ standard with commandTimeout := some (.infinite false) }, ?_, rfl, rfl⟩
  rw [ofSources_eq_ok_iff]
  simp [fields, value?_of_variables, lastWhere, timeout, Field.IsReadFrom, infinite]

end Settings
end Tunables
