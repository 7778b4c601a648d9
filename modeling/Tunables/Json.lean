import Tunables.Binary64
import Tunables.Entries

/-!
# JSON values

Whole numbers and numbers with a fractional part are kept apart, whole numbers
are unbounded, and the members of an object keep their order.
-/

namespace Tunables

/-- A JSON value. -/
inductive Json where
  | null
  | bool (value : Bool)
  | int (value : Int)
  | real (value : Binary64)
  | string (value : Text)
  | array (items : List Json)
  | object (members : List (Text × Json))

abbrev Members := List (Text × Json)

def Members.get? (members : Members) (key : Text) : Option Json :=
  (members.find? fun entry => entry.1 == key).map (·.2)

/-- Members from entries in the order written: a repeated key keeps its first
place and its last value. -/
def Members.ofEntries (entries : List (Text × Json)) : Members :=
  Entries.ofPairs entries

namespace Json

/-- The name of the type of a value, as messages give it. -/
def typeName : Json → String
  | .null => "NoneType"
  | .bool _ => "bool"
  | .int _ => "int"
  | .real _ => "float"
  | .string _ => "str"
  | .array _ => "list"
  | .object _ => "dict"

end Json
end Tunables
