import Tunables.FileTree
import Tunables.Settings
import Tunables.Settings.Dotenv
import Tunables.Text.LineEnd
import Tunables.Yaml.Value

/-!
# Settings in a file

A file of settings is a YAML mapping.  Its keys are matched in any case, and
what it says counts as given by arguments, unless an argument says otherwise.
-/

namespace Tunables

/-- Why a file gives no settings. -/
inductive SettingsFileError where
  | unreadable (cause : FileError)
  | malformed (cause : Yaml.Error)
  | notMapping (path : Text) (typeName : String)
  deriving DecidableEq, Repr

/-- The wording of a file that is no mapping. -/
def SettingsFileError.message : SettingsFileError → Text
  | .unreadable cause => cause.message
  | .malformed (.value message) => message
  | .malformed _ => ""
  | .notMapping path typeName =>
      "Settings file " ++ path ++ " must contain a mapping, got " ++ typeName

namespace SettingsFile

/-- The texts among the keys of entries.  A repeated key keeps its first place
and its last value; no other key can name a setting. -/
def namedEntries (entries : List (SettingValue × SettingValue)) :
    List (Text × SettingValue) :=
  Entries.ofPairs (entries.filterMap fun
    | (.text key, value) => some (key, value)
    | _ => none)

/-- The arguments that the entries of a file amount to, once given arguments have
taken their places.  Keys are put into upper case first. -/
def arguments (entries : List (SettingValue × SettingValue))
    (given : List (Text × SettingValue)) : List (Text × SettingValue) :=
  Entries.ofPairs
    ((namedEntries entries).map (fun entry => (Text.upper entry.1, entry.2)) ++ given)

/-- The entries of a YAML text; a text that says nothing has none. -/
def entriesOf (path : Text) (text : List Char) :
    Except SettingsFileError (List (SettingValue × SettingValue)) :=
  match Yaml.Node.ofText? text with
  | .error cause => .error (.malformed cause)
  | .ok none => .ok []
  | .ok (some node) =>
      match node.entries? with
      | .error cause => .error (.malformed cause)
      | .ok (.error typeName) => .error (.notMapping path typeName)
      | .ok (.ok entries) => .ok entries

/-- Reads the arguments that a file of settings and given arguments amount to. -/
def read (path : Text) (text : String) (given : List (Text × SettingValue)) :
    Except SettingsFileError (List (Text × SettingValue)) :=
  (entriesOf path (Text.unifyLineEnds text.toList)).map fun entries => arguments entries given

end SettingsFile
end Tunables
