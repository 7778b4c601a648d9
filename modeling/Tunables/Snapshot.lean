import Tunables.Catalog
import Tunables.Vocabulary

/-!
# Published snapshots

A snapshot is a catalog together with its metadata: a version, where it came
from, a checksum, and how many parameters it holds.
-/

namespace Tunables

/-- Where a catalog came from. -/
inductive CatalogSource where
  | baseline
  | cluster
  deriving DecidableEq, Repr

namespace CatalogSource

def all : List CatalogSource :=
  [.baseline, .cluster]

def word : CatalogSource → Text
  | .baseline => "baseline"
  | .cluster => "cluster"

/-- The source of a word, which has to be one. -/
def ofWord (word : Text) : Except UnknownWord CatalogSource :=
  match all.find? (·.word == word) with
  | some source => .ok source
  | none => .error ⟨word, "CatalogSource"⟩

end CatalogSource

/-- The metadata of a snapshot. -/
structure Metadata where
  version : Nat
  source : CatalogSource
  checksum : String
  count : Nat
  deriving DecidableEq, Repr

/-- The metadata of a catalog that is published as a version. -/
def Metadata.of (catalog : Catalog) (version : Nat) (source : CatalogSource) : Metadata :=
  ⟨version, source, catalog.checksum, catalog.size⟩

/-- A catalog and its metadata. -/
structure Snapshot where
  catalog : Catalog
  metadata : Metadata

/-- The snapshot that publishes a catalog as a version. -/
def Snapshot.of (catalog : Catalog) (version : Nat) (source : CatalogSource) : Snapshot :=
  ⟨catalog, .of catalog version source⟩

end Tunables
