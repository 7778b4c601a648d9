import Tunables.Cycle.Fetch

/-!
# Merging with the cluster's names

The parameters at hand and the names of the cluster are gone through together
in ascending order.  A name on both sides keeps its parameter, a new name is
fetched, and a parameter without a name on the other side is dropped.  A new
name whose fetch fails in a known way is passed over.
-/

namespace Tunables

/-- The outcome of a merge. -/
structure Merge where
  parameters : List Parameter
  added : List Text
  removed : List Text
  failed : List Text

namespace Merge

/-- The merge that drops parameters and does nothing else. -/
def dropping (parameters : List Parameter) : Merge :=
  ⟨[], [], parameters.map (·.name), []⟩

/-- Drops parameters in front of a merge. -/
def drop (parameters : List Parameter) (m : Merge) : Merge :=
  { m with removed := parameters.map (·.name) ++ m.removed }

/-- Keeps a parameter in front of a merge. -/
def keep (p : Parameter) (m : Merge) : Merge :=
  { m with parameters := p :: m.parameters }

/-- Adds a fetched parameter in front of a merge. -/
def add (name : Text) (p : Parameter) (m : Merge) : Merge :=
  { m with parameters := p :: m.parameters, added := name :: m.added }

/-- Passes over a name in front of a merge. -/
def skip (name : Text) (m : Merge) : Merge :=
  { m with failed := name :: m.failed }

end Merge

/-- How the help record of a new name is fetched. -/
abbrev FetchDetail := Text → Talk (Except Failure Parameter)

/-- What a merge does with a new name: adds it, passes it over, or stops. -/
def mergeNew (fetch : FetchDetail) (name : Text) :
    Talk (Except Failure (Merge → Merge)) :=
  (fetch name).bind fun
    | .ok p => .done (.ok (Merge.add name p))
    | .error failure =>
        if failure.isKnown then
          .say (.error ("Failed to fetch details for parameter '" ++ name ++ "': " ++
              failure.message))
            (.done (.ok (Merge.skip name)))
        else .done (.error failure)

/-- Merges parameters in order with names in order. -/
def mergeSorted (fetch : FetchDetail) (base : List Parameter) :
    List Text → Talk (Except Failure Merge)
  | [] => .done (.ok (.dropping base))
  | name :: names =>
      let gone := base.takeWhile (·.name < name)
      match base.dropWhile (·.name < name) with
      | [] =>
          (mergeNew fetch name).andThen fun change =>
            (mergeSorted fetch [] names).map (Except.map fun m => (change m).drop gone)
      | p :: rest =>
          if p.name = name then
            (mergeSorted fetch rest names).map (Except.map fun m => (m.keep p).drop gone)
          else
            (mergeNew fetch name).andThen fun change =>
              (mergeSorted fetch (p :: rest) names).map
                (Except.map fun m => (change m).drop gone)

def distinctSorted (names : List Text) : List Text :=
  sortByText id names.eraseDups

/-- Merges parameters with the names of the cluster. -/
def mergeParameters (fetch : FetchDetail) (previous : List Parameter)
    (names : List Text) : Talk (Except Failure Merge) :=
  mergeSorted fetch (sortByText (·.name) previous) (distinctSorted names)

end Tunables
