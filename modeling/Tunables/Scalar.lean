import Tunables.Binary64.Shortest
import Tunables.Rejection

/-!
# Scalars

A default value is absent, a number, or a text.  A scalar built from JSON has
the content that goes with its kind; a scalar can also be put together from a
kind and a content of its own, and then the kind alone decides whether it is
absent.
-/

namespace Tunables

/-- The three kinds of scalar. -/
inductive ScalarKind where
  | absent
  | numeric
  | text
  deriving DecidableEq, Repr

/-- The word for a kind of scalar. -/
def ScalarKind.name : ScalarKind → String
  | .absent => "absent"
  | .numeric => "numeric"
  | .text => "text"

def ScalarKind.all : List ScalarKind :=
  [.absent, .numeric, .text]

def ScalarKind.ofName? (name : Text) : Option ScalarKind :=
  all.find? fun kind => kind.name == name

/-- What a scalar can hold. -/
inductive ScalarContent where
  | int (value : Int)
  | real (value : Binary64)
  | text (value : Text)
  deriving DecidableEq

/-- A scalar. -/
structure Scalar where
  kind : ScalarKind
  content : Option ScalarContent
  deriving DecidableEq

namespace ScalarContent

def toJson : ScalarContent → Json
  | .int value => .int value
  | .real value => .real value
  | .text value => .string value

/-- The content as shown to a reader: a double without a fractional part is
shown as a whole number. -/
def display : ScalarContent → Text
  | .int value => toString value
  | .real value =>
      if value.isIntegral then
        match value.truncate? with
        | some whole => toString whole
        | none => value.text
      else value.text
  | .text value => value

/-- Equality of contents: numbers are compared by value, whether whole or not.
What is no number is always the same here. -/
def sameAs : ScalarContent → ScalarContent → Bool
  | .int m, .int n => m == n
  | .int m, .real y => y.equalsInt m
  | .real x, .int n => x.equalsInt n
  | .real x, .real y => x == y || x.numEq y
  | .text s, .text t => s == t
  | _, _ => false

end ScalarContent

namespace Scalar

def none : Scalar :=
  ⟨.absent, .none⟩

/-- A numeric scalar with a whole number. -/
def ofInt (value : Int) : Scalar :=
  ⟨.numeric, some (.int value)⟩

def ofReal (value : Binary64) : Scalar :=
  ⟨.numeric, some (.real value)⟩

def ofText (value : Text) : Scalar :=
  ⟨.text, some (.text value)⟩

/-- The scalar of a JSON value.  Truth values become text; null, arrays and
objects are absent. -/
def ofJson : Json → Scalar
  | .bool value => ofText (if value then "true" else "false" : String)
  | .int value => ofInt value
  | .real value => ofReal value
  | .string value => ofText value
  | _ => none

/-- The content as JSON, null when there is none. -/
def toJson (s : Scalar) : Json :=
  match s.content with
  | some content => content.toJson
  | .none => .null

def isAbsent (s : Scalar) : Bool :=
  s.kind == .absent

/-- A scalar as shown to a reader. -/
def display (s : Scalar) : Text :=
  if s.isAbsent then ""
  else
    match s.content with
    | some content => content.display
    | .none => "None"

/-- Equality of scalars: the same kind, and contents of the same value. -/
def sameAs (s t : Scalar) : Bool :=
  s.kind == t.kind &&
    match s.content, t.content with
    | some a, some b => a.sameAs b
    | .none, .none => true
    | _, _ => false

def subject : String := "ScalarValue"

/-- Reads the kind of a scalar; it is absent unless given. -/
def readKind (members : Members) : Collected ScalarKind :=
  match members.get? "kind" with
  | .none => .done .absent
  | some (.string name) =>
      match ScalarKind.ofName? name with
      | some kind => .done kind
      | .none => .failed [.at .enum "kind"]
  | some _ => .failed [.at .enum "kind"]

/-- Reads the content of a scalar.  Arrays and objects fail once for each type
the content can have. -/
def readContent (members : Members) : Collected (Option ScalarContent) :=
  let refused : Collected (Option ScalarContent) := .failed
    [⟨.intType, [.key "value", .key "int"]⟩, ⟨.floatType, [.key "value", .key "float"]⟩,
      ⟨.stringType, [.key "value", .key "str"]⟩]
  match members.get? "value" with
  | .none => .done .none
  | some .null => .done .none
  | some (.bool value) => .done (some (.int (if value then 1 else 0)))
  | some (.int value) => .done (some (.int value))
  | some (.real value) => .done (some (.real value))
  | some (.string value) => .done (some (.text value))
  | some (.array _) => refused
  | some (.object _) => refused

/-- Reads a scalar that is written as an object with a kind and a content. -/
def ofFields (fields : Json) : Except Rejection Scalar :=
  match fields with
  | .object members =>
      (((Collected.done Scalar.mk).apply (readKind members)).apply
        (readContent members)).finish subject
  | _ => .error (.notAnObject subject)

end Scalar
end Tunables
