/-
# `RowBridge.Postgres.DriverError` — what a database driver complains about

Each complaint of the driver belongs to one kind of scan failure and is worded
for it.
-/
import RowBridge.ScanError

namespace RowBridge.Postgres

/-- A complaint of the database driver. -/
inductive DriverError
  | poolTimedOut
  | poolClosed
  | workerCrashed
  | io (text : String)
  | tls (text : String)
  | protocol (text : String)
  | configuration (text : String)
  | typeNotFound (name : String)
  | columnNotFound (name : String)
  | columnIndexOutOfBounds (index length : Nat)
  | columnDecode (column text : String)
  | decode (text : String)
  | encode (text : String)
  | database (text : String)
  | rowNotFound
  deriving DecidableEq, Repr

/-- The scan failure that a complaint amounts to. -/
def DriverError.toScanError : DriverError → ScanError
  | poolTimedOut => .plain .resourceFailure "Connection pool timed out"
  | poolClosed => .plain .connectionClosed "Connection pool is closed"
  | workerCrashed => .plain .connectionClosed "Database worker crashed"
  | io text => .plain .connectionClosed text
  | tls text => .plain .resourceFailure ("TLS error: " ++ text)
  | protocol text => .plain .uncategorized text
  | configuration text => .plain .configuration text
  | typeNotFound name => .plain .typeConversion ("Type not found: " ++ name)
  | columnNotFound name => .plain .queryFailed ("Column not found: " ++ name)
  | columnIndexOutOfBounds index length =>
      .plain .queryFailed
        ("Column index " ++ toString index ++ " out of bounds (len: " ++ toString length ++ ")")
  | columnDecode column text =>
      .plain .typeConversion ("Failed to decode column " ++ column ++ ": " ++ text)
  | decode text => .plain .typeConversion text
  | encode text => .plain .other ("error occurred while encoding a value: " ++ text)
  | database text => .plain .queryFailed text
  | rowNotFound => .plain .queryFailed "Row not found"

end RowBridge.Postgres
