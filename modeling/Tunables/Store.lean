import Tunables.Log.Entry
import Tunables.Snapshot

/-!
# Stores

A store holds the published snapshot and a guard that at most one refresh can
hold.  Each commit publishes a catalog under the next version.
-/

namespace Tunables

/-- The published snapshot, and whether the guard is held. -/
structure Store where
  snapshot : Snapshot
  refreshing : Bool

namespace Store

/-- The store that publishes a catalog as its first version. -/
def ofCatalog (catalog : Catalog) (source : CatalogSource) : Store :=
  ⟨.of catalog 1 source, false⟩

def current (store : Store) : Catalog :=
  store.snapshot.catalog

def metadata (store : Store) : Metadata :=
  store.snapshot.metadata

def version (store : Store) : Nat :=
  store.metadata.version

/-- Publishes a catalog as the next version. -/
def commit (store : Store) (catalog : Catalog) (source : CatalogSource) : Store :=
  { store with snapshot := .of catalog (store.version + 1) source }

/-- The entry logged for a snapshot that was just committed. -/
def commitEntry (metadata : Metadata) : LogEntry :=
  .info ("Committed catalog snapshot v" ++ toString metadata.version ++ " with " ++
    toString metadata.count ++ " parameters")

/-- Takes the guard if it is free, and tells whether it was. -/
def tryBegin (store : Store) : Bool × Store :=
  (!store.refreshing, { store with refreshing := true })

/-- Frees the guard, which has to be held. -/
def release? (store : Store) : Option Store :=
  if store.refreshing then some { store with refreshing := false } else none

end Store

/-- How work on a store fails: it frees a guard that is free, or it raises an
error of its own. -/
inductive StoreError where
  | notHeld
  | raised (message : Text)
  deriving DecidableEq, Repr

def StoreError.message : StoreError → Text
  | .notHeld => "release unlocked lock"
  | .raised message => message

/-- Work on a store.  A slot takes the guard if it is free, works on, may raise
an error, and frees the guard if it took it. -/
inductive StoreAction where
  | commit (catalog : Catalog) (source : CatalogSource)
  | current
  | snapshot
  | tryBegin
  | release
  | slot (body : List StoreAction) (raises : Option Text)

/-- A value together with what can be seen of the store at that time. -/
structure Observed (α : Type) where
  value : α
  refreshing : Bool
  version : Nat

/-- What an action answers. -/
inductive StoreAnswer where
  | committed (metadata : Metadata)
  | current (catalog : Catalog)
  | snapshot (snapshot : Snapshot)
  | begun (acquired : Bool)
  | released
  | failed (error : StoreError)
  | slot (acquired : Bool) (body : List (Observed StoreAnswer)) (raised : Option StoreError)

namespace Store

/-- A value with what can be seen of the store. -/
def observe {α : Type} (store : Store) (value : α) : Observed α :=
  ⟨value, store.refreshing, store.version⟩

/-- Leaves a slot: frees the guard if the slot took it.  A guard that cannot be
freed is the error that counts. -/
def leaveSlot (store : Store) (acquired : Bool) (raised : Option StoreError) :
    Option StoreError × Store :=
  if acquired then
    match store.release? with
    | some released => (raised, released)
    | none => (some .notHeld, store)
  else (raised, store)

mutual

def perform (store : Store) : StoreAction → StoreAnswer × Store
  | .commit catalog source =>
      let next := store.commit catalog source
      (.committed next.metadata, next)
  | .current => (.current store.current, store)
  | .snapshot => (.snapshot store.snapshot, store)
  | .tryBegin =>
      let (acquired, next) := store.tryBegin
      (.begun acquired, next)
  | .release =>
      match store.release? with
      | some next => (.released, next)
      | none => (.failed .notHeld, store)
  | .slot body raises =>
      let (acquired, entered) := store.tryBegin
      let (answers, worked) := entered.performAll body
      let (raised, left) := worked.leaveSlot acquired (raises.map .raised)
      (.slot acquired answers raised, left)

def performAll (store : Store) : List StoreAction → List (Observed StoreAnswer) × Store
  | [] => ([], store)
  | action :: rest =>
      let (answer, next) := store.perform action
      let (answers, last) := next.performAll rest
      (next.observe answer :: answers, last)

end

end Store
end Tunables
