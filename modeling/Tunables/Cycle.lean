import Tunables.Catalog
import Tunables.Cycle.Merge

/-!
# Reconciliation cycles

A cycle brings a catalog in line with the names the cluster reports.  It asks
for the names once and for the help records of new names only.
-/

namespace Tunables

/-- What a cycle changed. -/
structure Report where
  added : List Text
  removed : List Text
  failed : List Text
  total : Nat
  deriving DecidableEq, Repr

/-- The catalog that a cycle built, and what it changed. -/
structure CycleResult where
  catalog : Catalog
  report : Report

namespace Cycle

/-- Asks for the names and merges them with a catalog.  Of the failures to list
the names the expected ones are told apart from the others. -/
def gather (previous : Catalog) : Talk (Except Failure (Except Failure Merge)) :=
  fetchNames.bind fun
    | .error failure =>
        if failure.isListingFailure then
          .say (.error ("Failed to list cluster parameters: " ++ failure.message))
            (.done (.ok (.error failure)))
        else .done (.error failure)
    | .ok names =>
        (mergeParameters fetchDetail previous.parameters names).map (Except.map .ok)

/-- The report of a merge that made a catalog. -/
def reportOf (m : Merge) (catalog : Catalog) : Report :=
  ⟨m.added, m.removed, m.failed, catalog.size⟩

/-- The entries that close a successful cycle. -/
def closingEntries (report : Report) : List LogEntry :=
  (if report.failed.isEmpty then []
    else
      [.warning ("Reconciliation skipped " ++ toString report.failed.length ++
        " parameters whose details could not be fetched")]) ++
    [.info ("Reconciled catalog with cluster: total=" ++ toString report.total ++
      ", added=" ++ toString report.added.length ++
      ", removed=" ++ toString report.removed.length ++
      ", failed=" ++ toString report.failed.length)]

/-- Ends a cycle with the catalog of a merge. -/
def conclude (m : Merge) : Talk (Except CycleStop CycleResult) :=
  match Catalog.ofParameters m.parameters with
  | .error error => .done (.error (.misordered error))
  | .ok catalog =>
      let report := reportOf m catalog
      .sayAll (closingEntries report) (.done (.ok ⟨catalog, report⟩))

def giveUp (limit : Timeout) (failure : Failure) : Talk (Except CycleStop CycleResult) :=
  let (stop, entries) := failure.stop limit
  .sayAll entries (.done (.error stop))

/-- The cycle that brings a catalog in line with the cluster.  The limit is only
mentioned here; whoever runs the cycle enforces it. -/
def talk (previous : Catalog) (limit : Timeout) : Talk (Except CycleStop CycleResult) :=
  (gather previous).bind fun
    | .error failure => giveUp limit failure
    | .ok (.error failure) => .done (.error (.failed (.listing failure)))
    | .ok (.ok m) => conclude m

end Cycle
end Tunables
