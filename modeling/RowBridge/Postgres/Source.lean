/-
# `RowBridge.Postgres.Source` — a scan over a pool that gives no connection

A scan over a pool needs a runtime to drive the connection in, and a connection.
Here are the scans that get neither: every such scan fails before its first row.
-/
import RowBridge.Postgres.DriverError
import RowBridge.RowSource

namespace RowBridge.Postgres

/-- Why a pool gives no connection. -/
inductive PoolState
  | closed
  | unreachable
  deriving DecidableEq, Repr

def PoolState.isClosed : PoolState → Bool
  | closed => true
  | unreachable => false

def PoolState.complaint : PoolState → DriverError
  | closed => .poolClosed
  | unreachable => .io "No such file or directory (os error 2)"

def noRuntimeFailure : ScanError :=
  .plain .configuration "no tokio runtime available for database scan"

def scanEnding (pool : PoolState) (runtime : Bool) : Ending :=
  .failed (if runtime then pool.complaint.toScanError else noRuntimeFailure)

end RowBridge.Postgres
