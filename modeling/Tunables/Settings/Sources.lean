import Tunables.Binary64
import Tunables.Json
import Tunables.Text.Case

/-!
# Where settings come from

A setting is looked up in the arguments, then in the environment, then in the
`.env` file.  The name of a setting is matched in any case; among the arguments
its exact spelling takes precedence.
-/

namespace Tunables

/-- A value given for a setting.  What no setting can take is only known by the
name of its type. -/
inductive SettingValue where
  | null
  | truth (value : Bool)
  | int (value : Int)
  | real (value : Binary64)
  | text (value : Text)
  | other (typeName : String)
  deriving DecidableEq

/-- The value given by a JSON value. -/
def SettingValue.ofJson : Json → SettingValue
  | .null => .null
  | .bool value => .truth value
  | .int value => .int value
  | .real value => .real value
  | .string value => .text value
  | .array items => .other (Json.array items).typeName
  | .object members => .other (Json.object members).typeName

/-- The places that settings are looked up in. -/
structure SettingSources where
  arguments : List (Text × SettingValue)
  environment : List (Text × Text)
  dotenv : List (Text × Option Text)

namespace SettingSources

/-- What the names of settings start with in the environment. -/
def environmentStart : Text := "param_catalog_"

/-- The last value given under a name in any case. -/
def lookupAnyCase {α : Type} (name : Text) (entries : List (Text × α)) : Option α :=
  (entries.reverse.find? fun entry => Text.lower entry.1 == Text.lower name).map (·.2)

def argument? (sources : SettingSources) (field : Text) : Option SettingValue :=
  match sources.arguments.reverse.lookup field with
  | some value => some value
  | none => lookupAnyCase field sources.arguments

/-- The value of a setting, if any place gives one. -/
def value? (sources : SettingSources) (field : Text) : Option SettingValue :=
  match sources.argument? field with
  | some value => some value
  | none =>
      let name := environmentStart ++ field
      match lookupAnyCase name sources.environment with
      | some value => some (.text value)
      | none => (lookupAnyCase name sources.dotenv).join.map .text

end SettingSources
end Tunables
