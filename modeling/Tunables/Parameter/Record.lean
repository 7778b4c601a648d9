import Tunables.Parameter
import Tunables.Rejection.Truth

/-!
# Help records

A parameter is written as an object with a member for every field, and read
from an object with any members: unknown ones are ignored, missing ones have
defaults, null stands for an empty text or list, and the two descriptions may
go by their long names.
-/

namespace Tunables

/-- Why a value is no parameter. -/
inductive RecordError where
  | invalid (rejection : Rejection)
  | bound (error : BoundError)
  deriving DecidableEq, Repr

def RecordError.message : RecordError → String
  | .invalid rejection => rejection.message
  | .bound error => error.message

namespace Parameter

/-- The subject of a rejected help record. -/
def recordSubject : String := "ParameterInfo"

def textsToJson (texts : List Text) : Json :=
  .array (texts.map Json.string)

/-- The members of the help record of a parameter. -/
def recordMembers (p : Parameter) : Members :=
  [("name", .string p.name), ("type", .string p.valueType), ("level", .string p.level),
    ("desc", .string p.description), ("long_desc", .string p.longDescription),
    ("default", p.default.toJson), ("daemon_default", p.daemonDefault.toJson),
    ("tags", textsToJson p.tags), ("services", textsToJson p.services),
    ("see_also", textsToJson p.seeAlso), ("enum_values", textsToJson p.enumValues),
    ("min", p.min.toJson), ("max", p.max.toJson),
    ("can_update_at_runtime", .bool p.canUpdateAtRuntime), ("flags", textsToJson p.flags)]

def toRecord (p : Parameter) : Json :=
  .object p.recordMembers

def readName (members : Members) : Collected Text :=
  match members.get? "name" with
  | none => .failed [.at .missing "name"]
  | some (.string name) => .done name
  | some _ => .failed [.at .stringType "name"]

/-- Reads a text; null and a missing member give the empty text. -/
def readText (key : Text) (members : Members) : Collected Text :=
  match members.get? key with
  | none => .done ""
  | some .null => .done ""
  | some (.string text) => .done text
  | some _ => .failed [.at .stringType key]

/-- Reads a text that goes by two names, of which the first takes precedence. -/
def readAliasedText (key longKey : Text) (members : Members) : Collected Text :=
  readText (if (members.get? key).isSome then key else longKey) members

/-- Reads an item of a list of texts. -/
def readTextItem (key : Text) (position : Nat) : Json → Collected Text
  | .string text => .done text
  | _ => .failed [⟨.stringType, [.key key, .index position]⟩]

/-- Reads a list of texts; null and a missing member give the empty list. -/
def readTexts (key : Text) (members : Members) : Collected (List Text) :=
  match members.get? key with
  | none => .done []
  | some .null => .done []
  | some (.array items) => Collected.ofItems (readTextItem key) 0 items
  | some _ => .failed [.at .tupleType key]

/-- Reads a scalar; every value is one. -/
def readScalar (key : Text) (members : Members) : Scalar :=
  match members.get? key with
  | none => .none
  | some value => .ofJson value

def readBound (key : Text) (members : Members) : Except BoundError Bound :=
  match members.get? key with
  | none => .ok none
  | some value => Bound.ofJson value

/-- Reads a truth value; a missing member gives false. -/
def readTruth (key : Text) (members : Members) : Collected Bool :=
  match members.get? key with
  | none => .done false
  | some value =>
      match truthOfJson value with
      | .ok truth => .done truth
      | .error kind => .failed [.at kind key]

/-- Reads all fields, with the bounds at hand. -/
def readFields (members : Members) (min max : Bound) : Collected Parameter :=
  Collected.done Parameter.mk
    |>.apply (readName members)
    |>.apply (readText "type" members)
    |>.apply (readText "level" members)
    |>.apply (readAliasedText "desc" "description" members)
    |>.apply (readAliasedText "long_desc" "long_description" members)
    |>.apply (.done (readScalar "default" members))
    |>.apply (.done (readScalar "daemon_default" members))
    |>.apply (readTexts "tags" members)
    |>.apply (readTexts "services" members)
    |>.apply (readTexts "see_also" members)
    |>.apply (readTexts "enum_values" members)
    |>.apply (.done min)
    |>.apply (.done max)
    |>.apply (readTruth "can_update_at_runtime" members)
    |>.apply (readTexts "flags" members)

/-- Reads a parameter from its help record.  A bound that is too large wins over
the errors of all other fields. -/
def ofRecord : Json → Except RecordError Parameter
  | .object members =>
      match readBound "min" members, readBound "max" members with
      | .ok min, .ok max =>
          ((readFields members min max).finish recordSubject).mapError .invalid
      | .error error, _ => .error (.bound error)
      | _, .error error => .error (.bound error)
  | _ => .error (.invalid (.notAnObject recordSubject))

/-- Reads parameters from help records, up to the first refused one. -/
def ofRecords : List Json → Except RecordError (List Parameter)
  | [] => .ok []
  | record :: rest =>
      match ofRecord record with
      | .error error => .error error
      | .ok p => (ofRecords rest).map (p :: ·)

end Parameter
end Tunables
