import Tunables.Baseline.Bundled
import Tunables.FileTree
import Tunables.Log.Entry
import Tunables.Reply

/-!
# Loading a dataset

A dataset is a JSON document, given as text, as bytes or already decoded, that
holds an array of help records.  It becomes a catalog as a whole or not at all.
-/

namespace Tunables

/-- Why an array of records makes no catalog. -/
inductive Malformation where
  | structure (violation : Violation)
  | record (rejection : Rejection)
  | order (error : OrderError)

def Malformation.message : Malformation → Text
  | .structure violation => structureMessage violation
  | .record rejection => rejection.message
  | .order error => error.message

/-- Why a dataset could not be loaded. -/
inductive BaselineError where
  | notJson (cause : Json.ReadError)
  | notArray (typeName : String)
  | malformed (cause : Malformation)
  | unreadable (path : Text) (cause : FileError)

def BaselineError.message : BaselineError → Text
  | .notJson cause => "Baseline dataset is not valid JSON: " ++ cause.message
  | .notArray typeName => "Baseline dataset must be a JSON array, got " ++ typeName
  | .malformed cause => "Baseline dataset is malformed: " ++ cause.message
  | .unreadable path cause =>
      "Could not read baseline dataset " ++ path ++ ": " ++ cause.message

/-- How a load ends without a catalog: a failure of the dataset, or a bound that
no double can hold, which is not reported as one. -/
inductive LoadFailure where
  | baseline (error : BaselineError)
  | bound (error : BoundError)

/-- The wording of a load without a catalog. -/
def LoadFailure.message : LoadFailure → Text
  | .baseline error => error.message
  | .bound error => error.message

/-- A failure that concerns the records of a dataset. -/
def LoadFailure.malformed (cause : Malformation) : LoadFailure :=
  .baseline (.malformed cause)

namespace Baseline

def ofRecords (records : List Json) : Except LoadFailure Catalog :=
  match Catalog.ofRecords records with
  | .ok catalog => .ok catalog
  | .error (.record (.invalid rejection)) => .error (.malformed (.record rejection))
  | .error (.record (.bound error)) => .error (.bound error)
  | .error (.order error) => .error (.malformed (.order error))

/-- Makes a catalog of a decoded dataset. -/
def ofJson (dataset : Json) : Except LoadFailure Catalog :=
  match dataset with
  | .array records =>
      match Schema.dataset.check dataset with
      | .error violation => .error (.malformed (.structure violation))
      | .ok _ => ofRecords records
  | other => .error (.baseline (.notArray other.typeName))

def load (document : Document) : Except LoadFailure Catalog :=
  match document.content with
  | .error cause => .error (.baseline (.notJson cause))
  | .ok dataset => ofJson dataset

/-- The entries logged for a finished load. -/
def loadEntries (outcome : Except LoadFailure Catalog) : List LogEntry :=
  match outcome with
  | .ok catalog =>
      [.info ("Loaded " ++ toString catalog.size ++ " parameters from baseline dataset")]
  | .error _ => []

def loadLogged (document : Document) : Logged (Except LoadFailure Catalog) :=
  let outcome := load document
  ⟨outcome, loadEntries outcome⟩

end Baseline

/-- The file that a dataset is loaded from. -/
inductive BaselineFile where
  | bundled
  | located (path : Text)
  deriving DecidableEq, Repr

namespace BaselineFile

/-- The file at a path.  Without a path, or with an empty one, it is the bundled
file. -/
def ofPath? : Option Text → BaselineFile
  | some path => if path.isEmpty then .bundled else .located path
  | none => .bundled

/-- The place of a file.  The bundled file lies below the program. -/
def place (tree : FileTree) : BaselineFile → TreePath
  | .bundled => (tree.package.child "data").child "config-index.json"
  | .located path => (TreePath.ofText path).resolved

/-- The path of a file as it is reported. -/
def pathText (tree : FileTree) (file : BaselineFile) : Text :=
  (file.place tree).text

/-- The entry logged before a file is read. -/
def startEntry (tree : FileTree) (file : BaselineFile) : LogEntry :=
  .info ("Loading baseline dataset from " ++ file.pathText tree)

/-- Reads a file and makes a catalog of it. -/
def read (tree : FileTree) (file : BaselineFile) : Logged (Except LoadFailure Catalog) :=
  match file with
  | .bundled => ⟨.ok .bundled, Baseline.loadEntries (.ok .bundled)⟩
  | .located _ =>
      match tree.read (file.place tree) with
      | .error cause => ⟨.error (.baseline (.unreadable (file.pathText tree) cause)), []⟩
      | .ok bytes => Baseline.loadLogged (.bytes bytes)

/-- Loads a file: reports it, and then reads it. -/
def load (tree : FileTree) (file : BaselineFile) : Logged (Except LoadFailure Catalog) :=
  let loaded := file.read tree
  ⟨loaded.value, file.startEntry tree :: loaded.entries⟩

end BaselineFile
end Tunables
