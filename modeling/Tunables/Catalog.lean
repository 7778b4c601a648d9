import Tunables.Checksum
import Tunables.NameOrder
import Tunables.Parameter.Record

/-!
# Catalogs

A catalog holds parameters in strictly ascending order of their names, so no
name occurs twice.  It is built from parameters in any order.
-/

namespace Tunables

/-- A catalog of parameters. -/
structure Catalog where
  parameters : List Parameter
  ascending : (parameters.map (·.name)).Pairwise (· < ·)

namespace Catalog

def empty : Catalog :=
  ⟨[], .nil⟩

/-- Builds a catalog.  The parameters are sorted first, so the only failure is
a name that occurs twice. -/
def ofParameters (parameters : List Parameter) : Except OrderError Catalog :=
  let sorted := sortByText (·.name) parameters
  match checked : checkAscending (sorted.map (·.name)) with
  | .ok _ => .ok ⟨sorted, pairwise_of_checkAscending checked⟩
  | .error error => .error error

def names (c : Catalog) : List Text :=
  c.parameters.map (·.name)

def size (c : Catalog) : Nat :=
  c.parameters.length

def get? (c : Catalog) (name : Text) : Option Parameter :=
  c.parameters.find? (·.name == name)

/-- The parameters under their names. -/
def index (c : Catalog) : List (Text × Parameter) :=
  Entries.ofPairs (c.parameters.map fun p => (p.name, p))

def records (c : Catalog) : List Json :=
  c.parameters.map (·.toRecord)

def checksum (c : Catalog) : String :=
  Tunables.checksum (.array c.records)

def summary (c : Catalog) : String :=
  "Catalog(" ++ toString c.size ++ " parameters)"

def sameAs (c d : Catalog) : Bool :=
  c.size == d.size && (c.parameters.zip d.parameters).all fun (p, q) => p.sameAs q

/-- Why a look-up failed. -/
inductive LookupError where
  | outOfRange
  | unhashable (typeName : String)
  deriving DecidableEq, Repr

def LookupError.message : LookupError → String
  | .outOfRange => "tuple index out of range"
  | .unhashable typeName => "unhashable type: '" ++ typeName ++ "'"

/-- The parameter at a position; negative positions count from the end. -/
def at? (c : Catalog) (position : Int) : Except LookupError Parameter :=
  let fromStart := if position < 0 then position + c.size else position
  if fromStart < 0 then .error .outOfRange
  else
    match c.parameters[fromStart.toNat]? with
    | some p => .ok p
    | none => .error .outOfRange

/-- Whether a value is the name of a parameter.  Arrays and objects cannot be
looked up at all. -/
def containsKey (c : Catalog) : Json → Except LookupError Bool
  | .string name => .ok (c.get? name).isSome
  | .array items => .error (.unhashable (Json.array items).typeName)
  | .object members => .error (.unhashable (Json.object members).typeName)
  | _ => .ok false

/-- Why records make no catalog. -/
inductive BuildError where
  | record (error : RecordError)
  | order (error : OrderError)
  deriving DecidableEq, Repr

/-- The wording of records that make no catalog. -/
def BuildError.message : BuildError → Text
  | .record error => error.message
  | .order error => error.message

/-- Builds a catalog from help records, without a look at their structure. -/
def ofRecords (records : List Json) : Except BuildError Catalog :=
  match Parameter.ofRecords records with
  | .error error => .error (.record error)
  | .ok parameters => (ofParameters parameters).mapError .order

end Catalog
end Tunables
