import Tunables.Moment
import Tunables.Rejection.Truth
import Tunables.Settings.Sources
import Tunables.Text.Numeral

/-!
# Settings

The settings of a service: what it is called, where its dataset lies, how often
it refreshes, and how commands reach the cluster.
-/

namespace Tunables

/-- The settings of a service. -/
structure Settings where
  serviceName : Text
  serviceVersion : Text
  baselinePath : Option Text
  skipClusterUpdate : Bool
  refreshInterval : Binary64
  reconcileTimeout : Option Binary64
  executor : Text
  cephBinary : Text
  cephConf : Option Text
  cephUser : Option Text
  cephKeyring : Option Text
  cephMonHost : Option Text
  commandTimeout : Option Binary64
  mockDataDir : Option Text
  deriving DecidableEq

namespace Settings

/-- A whole number of seconds as a double. -/
def seconds (count : Nat) : Binary64 :=
  .ofDecimal false count 0

/-- The settings that hold unless others are given. -/
def standard : Settings :=
  ⟨"param_catalog_service", "1.0.0", none, false, seconds 0, some (seconds 300),
    "ceph", "ceph", none, none, none, none, some (seconds 30), none⟩

def textOf : SettingValue → Except FieldErrorKind Text
  | .text value => .ok value
  | _ => .error .stringType

/-- The text of a value; null gives none. -/
def optionalTextOf : SettingValue → Except FieldErrorKind (Option Text)
  | .null => .ok none
  | value => (textOf value).map some

def truthOf : SettingValue → Except FieldErrorKind Bool
  | .truth value => .ok value
  | .int value => truthOfJson (.int value)
  | .real value => truthOfJson (.real value)
  | .text value => truthOfWord value
  | _ => .error .boolType

/-- The number of seconds of a value. -/
def secondsOf : SettingValue → Except FieldErrorKind Binary64
  | .truth value => .ok (seconds (if value then 1 else 0))
  | .int value =>
      match Binary64.ofInt? value with
      | some number => .ok number
      | none => .error .floatType
  | .real value => .ok value
  | .text value =>
      match Text.readPlainNumeral? value with
      | some number => .ok number
      | none => .error (if value.chars?.isSome then .floatParsing else .stringUnicode)
  | _ => .error .floatType

/-- The number of seconds of a value; null gives none. -/
def optionalSecondsOf : SettingValue → Except FieldErrorKind (Option Binary64)
  | .null => .ok none
  | value => (secondsOf value).map some

/-- Reads a setting from the place that gives it. -/
def readField {α : Type} (read : SettingValue → Except FieldErrorKind α)
    (sources : SettingSources) (field : Text) (otherwise : α) : Collected α :=
  match sources.value? field with
  | none => .done otherwise
  | some value =>
      match read value with
      | .ok result => .done result
      | .error kind => .failed [.at kind field]

def subject : String := "CatalogSettings"

def ofSources (sources : SettingSources) : Except Rejection Settings :=
  (Collected.done Settings.mk
    |>.apply (readField textOf sources "SERVICE_NAME" standard.serviceName)
    |>.apply (readField textOf sources "SERVICE_VERSION" standard.serviceVersion)
    |>.apply (readField optionalTextOf sources "BASELINE_PATH" standard.baselinePath)
    |>.apply (readField truthOf sources "SKIP_CLUSTER_UPDATE" standard.skipClusterUpdate)
    |>.apply (readField secondsOf sources "REFRESH_INTERVAL" standard.refreshInterval)
    |>.apply
      (readField optionalSecondsOf sources "RECONCILE_TIMEOUT" standard.reconcileTimeout)
    |>.apply (readField textOf sources "EXECUTOR" standard.executor)
    |>.apply (readField textOf sources "CEPH_BINARY" standard.cephBinary)
    |>.apply (readField optionalTextOf sources "CEPH_CONF" standard.cephConf)
    |>.apply (readField optionalTextOf sources "CEPH_USER" standard.cephUser)
    |>.apply (readField optionalTextOf sources "CEPH_KEYRING" standard.cephKeyring)
    |>.apply (readField optionalTextOf sources "CEPH_MON_HOST" standard.cephMonHost)
    |>.apply (readField optionalSecondsOf sources "COMMAND_TIMEOUT" standard.commandTimeout)
    |>.apply (readField optionalTextOf sources "MOCK_DATA_DIR" standard.mockDataDir)).finish
      subject

/-- Whether the catalog is refreshed from time to time. -/
def refreshesPeriodically (s : Settings) : Bool :=
  !s.skipClusterUpdate && s.refreshInterval.isPositive

/-- Why a number of seconds has no integer part. -/
inductive TruncationError where
  | infinite
  | notANumber
  deriving DecidableEq, Repr

/-- The wording of a number without an integer part. -/
def TruncationError.message : TruncationError → String
  | .infinite => "cannot convert float infinity to integer"
  | .notANumber => "cannot convert float NaN to integer"

def truncated : Binary64 → Except TruncationError Int
  | .nan => .error .notANumber
  | .infinite _ => .error .infinite
  | x => .ok (x.truncate?.getD 0)

/-- A flag with its value, unless the value is missing or empty. -/
def flagged (flag : Text) : Option Text → List Text
  | some value => if value.isEmpty then [] else [flag, value]
  | none => []

/-- The flag that limits the time to connect, unless there is no limit or the
limit is zero. -/
def connectTimeoutArguments (s : Settings) : Except TruncationError (List Text) :=
  match s.commandTimeout with
  | none => .ok []
  | some limit =>
      if limit.isZero then .ok []
      else (truncated limit).map fun whole => ["--connect-timeout", toString whole]

/-- The arguments that every run of the tool starts with. -/
def baseArguments (s : Settings) : Except TruncationError (List Text) :=
  s.connectTimeoutArguments.map fun timeoutArguments =>
    flagged "--conf" s.cephConf ++ flagged "--name" s.cephUser ++
      flagged "--keyring" s.cephKeyring ++ flagged "-m" s.cephMonHost ++ timeoutArguments

end Settings
end Tunables
