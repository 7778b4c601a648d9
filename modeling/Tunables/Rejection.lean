import Tunables.Schema

/-!
# Rejected input

Reading a structured value from JSON collects the errors of all its fields and
accepts only if there is none.  Each error names the field, or the item of a
field, that it is about.
-/

namespace Tunables

/-- What is wrong with a field. -/
inductive FieldErrorKind where
  | missing
  | stringType
  | stringUnicode
  | tupleType
  | boolType
  | boolParsing
  | floatType
  | floatParsing
  | intType
  | enum
  | extraForbidden
  | frozenInstance
  | modelType
  deriving DecidableEq, Repr

/-- The word for a kind of field error. -/
def FieldErrorKind.name : FieldErrorKind → String
  | .missing => "missing"
  | .stringType => "string_type"
  | .stringUnicode => "string_unicode"
  | .tupleType => "tuple_type"
  | .boolType => "bool_type"
  | .boolParsing => "bool_parsing"
  | .floatType => "float_type"
  | .floatParsing => "float_parsing"
  | .intType => "int_type"
  | .enum => "enum"
  | .extraForbidden => "extra_forbidden"
  | .frozenInstance => "frozen_instance"
  | .modelType => "model_type"

/-- An error and the field it is about. -/
structure FieldError where
  kind : FieldErrorKind
  location : Path
  deriving DecidableEq, Repr

def FieldError.at (kind : FieldErrorKind) (field : Text) : FieldError :=
  ⟨kind, [.key field]⟩

/-- Input that was rejected: what it was meant to be, and its errors. -/
structure Rejection where
  subject : String
  errors : List FieldError
  deriving DecidableEq, Repr

def Rejection.message (rejection : Rejection) : String :=
  toString rejection.errors.length ++ " validation error" ++
    (if rejection.errors.length == 1 then "" else "s") ++ " for " ++ rejection.subject

/-- A value read from fields, or the errors of those fields in order. -/
def Collected (α : Type) : Type :=
  Except (List FieldError) α

namespace Collected

def done {α : Type} (value : α) : Collected α :=
  .ok value

def failed {α : Type} (errors : List FieldError) : Collected α :=
  .error errors

/-- Applies a read function to a read argument; the errors of both are kept. -/
def apply {α β : Type} (function : Collected (α → β)) (argument : Collected α) :
    Collected β :=
  match function, argument with
  | .ok f, .ok x => .ok (f x)
  | .ok _, .error errors => .error errors
  | .error errors, .ok _ => .error errors
  | .error errors, .error more => .error (errors ++ more)

/-- Reads every item of a list with its position. -/
def ofItems {α β : Type} (read : Nat → α → Collected β) (position : Nat) :
    List α → Collected (List β)
  | [] => done []
  | item :: rest =>
      ((done List.cons).apply (read position item)).apply (ofItems read (position + 1) rest)

/-- The result of reading the fields of a subject. -/
def finish {α : Type} (subject : String) (collected : Collected α) :
    Except Rejection α :=
  match collected with
  | .ok value => .ok value
  | .error errors => .error ⟨subject, errors⟩

end Collected

/-- The rejection of a value that is no object. -/
def Rejection.notAnObject (subject : String) : Rejection :=
  ⟨subject, [⟨.modelType, []⟩]⟩

/-- The rejection of a change to a field of a finished value. -/
def Rejection.unchangeable (subject : String) (field : Text) : Rejection :=
  ⟨subject, [.at .frozenInstance field]⟩

end Tunables
