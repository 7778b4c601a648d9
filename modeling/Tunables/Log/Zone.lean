import Tunables.Text

/-!
# Time zones

A zone has a name, and at each moment its clocks are some seconds ahead of universal time.
Which zones there are is up to the database that comes with the system.
-/

namespace Tunables

/-- A time zone, and how many seconds it is ahead at each second of universal time. -/
structure Zone where
  name : Text
  offsetAt : Int → Int

/-- The zones there are, by their names. -/
abbrev ZoneDatabase := Text → Option (Int → Int)

namespace Zone

/-- Why a name leads to no zone. -/
inductive NameError where
  | absolute (name : Text)
  | notNormal (name : Text)
  | outside (name : Text)
  | unknown (name : Text)
  deriving DecidableEq, Repr

/-- The wording of a name without a zone. -/
def NameError.message : NameError → Text
  | .absolute name => "ZoneInfo keys may not be absolute paths, got: " ++ name
  | .notNormal name => "ZoneInfo keys must be normalized relative paths, got: " ++ name
  | .outside name => "ZoneInfo keys must refer to subdirectories of TZPATH, got: " ++ name
  | .unknown name => "'No time zone found with key " ++ name ++ "'"

/-- The parts of a name between slashes. -/
def components (name : Text) : List Text :=
  (name.toList.splitOn (.char '/')).map Text.ofList

/-- Whether a component leads nowhere or upwards. -/
def isStep (component : Text) : Bool :=
  component == "" || component == "." || component == ".."

/-- Checks that a name is a plain path below the directory of zones. -/
def checkName (name : Text) : Except NameError Unit :=
  if name.toList.head? == some (.char '/') then .error (.absolute name)
  else if name == "." then .error (.outside name)
  else
    let below := (components name).dropWhile (· == (".." : Text))
    if below.any isStep then .error (.notNormal name)
    else if below.length < (components name).length then .error (.outside name)
    else .ok ()

def named (zones : ZoneDatabase) (name : Text) : Except NameError Zone :=
  match checkName name with
  | .error error => .error error
  | .ok _ =>
      match zones name with
      | some offsetAt => .ok ⟨name, offsetAt⟩
      | none => .error (.unknown name)

end Zone
end Tunables
