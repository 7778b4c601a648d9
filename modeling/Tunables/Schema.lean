import Tunables.Json.Literal

/-!
# Structural schemas

A schema lists the types a value may have, the members an object must have,
the schemas of members that have one, and the schema of the items of an array.
Checking a value collects the violations with the paths that lead to them and
reports the one with the shortest path; among equally short paths the greatest.
-/

namespace Tunables

/-- The types a schema can ask for. -/
inductive JsonType where
  | string
  | array
  | object
  | boolean
  | null
  deriving DecidableEq, Repr

/-- The name of a type in schemas and messages. -/
def JsonType.name : JsonType → String
  | .string => "string"
  | .array => "array"
  | .object => "object"
  | .boolean => "boolean"
  | .null => "null"

def JsonType.admits : JsonType → Json → Bool
  | .string, .string _ => true
  | .array, .array _ => true
  | .object, .object _ => true
  | .boolean, .bool _ => true
  | .null, .null => true
  | _, _ => false

/-- A schema.  Requirements on members concern objects only, the schema of the
items concerns arrays only. -/
inductive Schema where
  | mk (types : List JsonType) (required : List Text)
      (members : List (Text × Schema)) (items : Option Schema)

/-- A step from a value to one of its parts. -/
inductive PathStep where
  | index (position : Nat)
  | key (name : Text)
  deriving DecidableEq, Repr

/-- The way from a value to one of its parts. -/
abbrev Path := List PathStep

/-- Positions are ordered by number and names by code point. -/
def PathStep.precedes : PathStep → PathStep → Bool
  | .index i, .index j => i < j
  | .key a, .key b => a < b
  | .index _, .key _ => true
  | .key _, .index _ => false

/-- The order of paths, decided by the first step that differs. -/
def Path.precedes : Path → Path → Bool
  | _, [] => false
  | [], _ :: _ => true
  | step :: path, other :: others =>
      if step = other then Path.precedes path others else step.precedes other

/-- How a part of a value breaks a schema. -/
inductive Flouting where
  | missing (name : Text)
  | wrongType (value : Json) (expected : List JsonType)

/-- A violation and the way to the part that breaks the schema. -/
structure Violation where
  path : Path
  flouting : Flouting

def Violation.message (v : Violation) : String :=
  match v.flouting with
  | .missing name => Text.quoted name ++ " is a required property"
  | .wrongType value expected =>
      value.literal ++ " is not of type " ++
        ", ".intercalate (expected.map fun kind => Text.quoted kind.name)

/-- The violations of the types and the required members of a value. -/
def ownViolations (types : List JsonType) (required : List Text) (path : Path)
    (value : Json) : List Violation :=
  (if types.any (·.admits value) then [] else [⟨path, .wrongType value types⟩]) ++
    match value with
    | .object members =>
        (required.filter fun name => (Members.get? members name).isNone).map
          fun name => ⟨path, .missing name⟩
    | _ => []

mutual

/-- All violations of a schema by a value that stands at the end of a path. -/
def Schema.violations : Schema → Path → Json → List Violation
  | .mk types required members items, path, value =>
      ownViolations types required path value ++
        memberViolations members path value ++
        match items, value with
        | some schema, .array parts =>
            parts.zipIdx.flatMap fun (part, position) =>
              schema.violations (path ++ [.index position]) part
        | _, _ => []

/-- The violations of the schemas of members. -/
def memberViolations : List (Text × Schema) → Path → Json → List Violation
  | [], _, _ => []
  | (name, schema) :: rest, path, value =>
      (match value with
        | .object members =>
            match Members.get? members name with
            | some part => schema.violations (path ++ [.key name]) part
            | none => []
        | _ => []) ++
        memberViolations rest path value

end

/-- Whether a violation is reported rather than another one. -/
def Violation.outranks (v w : Violation) : Bool :=
  v.path.length < w.path.length ||
    (v.path.length == w.path.length && Path.precedes w.path v.path)

/-- The violation to report; of several equally good ones the first. -/
def reportedViolation : List Violation → Option Violation
  | [] => none
  | first :: rest => some (rest.foldl (fun best v => if v.outranks best then v else best) first)

def Schema.check (schema : Schema) (value : Json) : Except Violation Unit :=
  match reportedViolation (schema.violations [] value) with
  | none => .ok ()
  | some violation => .error violation

namespace Schema

def ofType (kind : JsonType) : Schema :=
  .mk [kind] [] [] none

/-- An array whose items fit a schema. -/
def arrayOf (items : Schema) : Schema :=
  .mk [.array] [] [] (some items)

def optionalTexts : Schema :=
  .mk [.array, .null] [] [] (some (ofType .string))

/-- The answer to a listing of names. -/
def nameListing : Schema :=
  arrayOf (ofType .string)

def helpRecord : Schema :=
  .mk [.object] ["name"]
    [("name", ofType .string), ("type", ofType .string), ("level", ofType .string),
      ("tags", optionalTexts), ("services", optionalTexts),
      ("can_update_at_runtime", ofType .boolean)]
    none

def dataset : Schema :=
  arrayOf helpRecord

end Schema
end Tunables
