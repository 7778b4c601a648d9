import Tunables.Catalog.Fingerprint
import Tunables.Log.Console
import Tunables.Proofs.Search
import Tunables.Proofs.Service.Replay
import Tunables.Service.Reading
import Tunables.Service.Timed
import Tunables.Settings.File
import Tunables.Proofs.Bound
import Tunables.Proofs.Record
import Tunables.Proofs.Baseline
import Tunables.Proofs.Fetch
import Tunables.Proofs.RoundTrip
import Tunables.Proofs.Isolation
import Tunables.Proofs.CutOff
import Tunables.Proofs.Sources
import Tunables.Proofs.Service.Roster
import Tunables.Proofs.Service.Refresher
import Tunables.Proofs.Service.Stopping
import Tunables.Proofs.Shortest
import Tunables.Proofs.NumberText
import Tunables.Proofs.JsonText
import Tunables.Proofs.ChecksumText
import Tunables.Proofs.Convergence
import Tunables.Proofs.Store
import Tunables.Proofs.Ending
import Tunables.Proofs.Rearranged
import Tunables.Proofs.Service.Replacement
import Tunables.Proofs.Service.FirstStart
import Tunables.Proofs.Service.RefreshLoop
import Tunables.Proofs.Lookup
import Tunables.Cycle.Behaviour
import Tunables.Proofs.Deadline
import Tunables.Proofs.TimedOut
import Tunables.Log.Scope
import Tunables.Service.Scopes
import Tunables.Proofs.Service.Scopes
import Tunables.Proofs.Service.Correlation
import Tunables.Proofs.Requests
import Tunables.Proofs.EqualChecksums
import Tunables.Proofs.FreeText
import Tunables.Proofs.Glob
import Tunables.Proofs.Query
import Tunables.Proofs.Facets
import Tunables.Proofs.Tool
import Tunables.Proofs.BoundText
import Tunables.Proofs.BaseArguments
import Tunables.Proofs.Precedence
import Tunables.Proofs.Command
