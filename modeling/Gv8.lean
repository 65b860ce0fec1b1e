import Gv8.Foundation.Runs
import Gv8.Foundation.Pool
import Gv8.Isolate.Disposal
import Gv8.Isolate.Teardown
import Gv8.Isolate.Watchdog
import Gv8.Isolate.ActiveCaller
import Gv8.Isolate.Termination
import Gv8.Isolate.FailedEntry
import Gv8.Isolate.Locks
import Gv8.Isolate.Progress
import Gv8.Handles.Balance
import Gv8.Handles.Borrowed
import Gv8.Boundary.Text
import Gv8.Boundary.Dispatch
import Gv8.Boundary.Freeing
import Gv8.Context.Cleanup
import Gv8.Context.Afterlife
import Gv8.Modules.Outcomes
import Gv8.Modules.Routing
import Gv8.Modules.Status
import Gv8.Modules.Referrer
import Gv8.Modules.Kept
import Gv8.Operations.Errors
import Gv8.Operations.Arguments
import Gv8.Operations.Await
import Gv8.Operations.Integers
import Gv8.Operations.Queries
import Gv8.Operations.Temporaries
import Gv8.Operations.AwaitHandles
import Gv8.Operations.AwaitClose
import Gv8.Observability.Exceptions
import Gv8.Observability.ModuleFailures
import Gv8.Observability.Rejections
import Gv8.Observability.Hooks
import Gv8.Handles.Casts
import Gv8.Snapshots.RoundTrip
import Gv8.Snapshots.Entered
import Gv8.Operations.Raised
import Gv8.Operations.Strings
import Gv8.Isolate.Goroutines
import Gv8.Isolate.Guards
import Gv8.Isolate.Lockers
import Gv8.Handles.Adequacy
