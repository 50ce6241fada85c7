/-
# `RowBridge.Postgres.Pool` — connecting with patience

A pool is created by attempts to connect.  After a failed attempt there is a
pause, each twice as long as the one before, and then another attempt, until one
succeeds or no retry is left.  The last failure is the result; it names the
address without its password.  An attempt at an address that can be read needs a
deadline in the range of moments and room for one connection; without them it
does not come back.

The factor of the pause is a power of two of 32 bits, and the pause a number of
seconds of 64 bits: an attempt that needs more does not come back (`Abort`).  A
pause may be announced that is longer than any sleep; no sleep lasts more than
thirty years.
-/
import RowBridge.Config.Settings
import RowBridge.Postgres.DriverError
import RowBridge.Postgres.Url

namespace RowBridge.Postgres

/-- How an attempt to connect ends. -/
inductive Attempt
  | connected
  | complained (complaint : DriverError)
  | aborted (abort : Abort)
  deriving DecidableEq, Repr

/-- How the creation of a pool ended. -/
inductive PoolResult
  | connected
  | failed (failure : ScanError)
  | aborted (abort : Abort)
  deriving DecidableEq, Repr

/-- What creating a pool came to. -/
structure PoolRun where
  result : PoolResult
  attempts : Nat
  pauses : List TimeSpan
  events : List LogEvent
  deriving DecidableEq, Repr

namespace Pool

def attemptFailure (settings : DatabaseSettings) (complaint : DriverError) : ScanError :=
  .plain complaint.toScanError.kind
    ("Failed to connect to database at '" ++ sanitizeUrl settings.url ++ "'")

def lastSecond : Nat := 9223372036854775807

/-- How many seconds the clock of the deadlines is taken to show at most; it
starts with the machine. -/
def clockSecs : Nat := 3600

/-- What keeps an attempt from being made at an address that can be read. -/
def obstacle? (settings : DatabaseSettings) : Option Abort :=
  if lastSecond < clockSecs + settings.connectionTimeoutSecs then some .deadlineOverflow
  else if settings.maxConnections = 0 then some .emptyStore
  else none

/-- How an attempt ends at an address of which the driver complains; only
addresses that cannot be read are complained of before anything else. -/
def hopelessAttempt (settings : DatabaseSettings) (complaint : DriverError) : Attempt :=
  match complaint, obstacle? settings with
  | .configuration _, _ => .complained complaint
  | _, some abort => .aborted abort
  | _, none => .complained complaint

def factor (attempt : Nat) : Except Abort Nat :=
  let factor := Nat.pow 2 (attempt - 1)
  if factor < 4294967296 then .ok factor else .error .factorOverflow

def pause (settings : DatabaseSettings) (attempt : Nat) : Except Abort TimeSpan :=
  (factor attempt).bind fun factor =>
    let secs := settings.retryDelaySecs * factor
    if secs < 18446744073709551616 then .ok (.ofSecs secs) else .error .pauseOverflow

/-! ## Reports -/

def reportConnected (settings : DatabaseSettings) (earlier : Nat) : LogEvent :=
  if 0 < earlier then
    ⟨.info, .database, "Database connection established after retry",
      [("attempts", .number (earlier + 1))]⟩
  else
    ⟨.info, .database, "Database connection pool created",
      [("max_connections", .number settings.maxConnections),
        ("min_connections", .number settings.minConnections)]⟩

def reportGivenUp (settings : DatabaseSettings) (failure : ScanError) : LogEvent :=
  ⟨.error, .database, "Failed to connect to database",
    [("attempts", .number (settings.maxRetries + 1)), ("error", .text failure.text)]⟩

def reportRetry (attempt : Nat) (failure : ScanError) (pause : TimeSpan) : LogEvent :=
  ⟨.warn, .database, "Database connection attempt failed",
    [("attempt", .number attempt), ("error", .text failure.text),
      ("retry_in", .text pause.text)]⟩

/-! ## Attempts -/

def last (result : PoolResult) (attempts : Nat) (events : List LogEvent) : PoolRun :=
  ⟨result, attempts, [], events⟩

def after (pause : TimeSpan) (event : LogEvent) (run : PoolRun) : PoolRun :=
  { run with pauses := pause :: run.pauses, events := event :: run.events }

/-- Attempts to connect with `retries` left, after `earlier` failed attempts;
`outcome` says how the attempt of each number ends. -/
def attempt (settings : DatabaseSettings) (outcome : Nat → Attempt) :
    (retries earlier : Nat) → PoolRun
  | retries, earlier =>
      match outcome (earlier + 1) with
      | .connected => last .connected (earlier + 1) [reportConnected settings earlier]
      | .aborted abort => last (.aborted abort) (earlier + 1) []
      | .complained complaint =>
          let failure := attemptFailure settings complaint
          match retries with
          | 0 => last (.failed failure) (earlier + 1) [reportGivenUp settings failure]
          | retries + 1 =>
              match pause settings (earlier + 1) with
              | .error abort => last (.aborted abort) (earlier + 1) []
              | .ok span =>
                  after span (reportRetry (earlier + 1) failure span)
                    (attempt settings outcome retries (earlier + 1))
  termination_by structural retries => retries

def create (settings : DatabaseSettings) (outcome : Nat → Attempt) : PoolRun :=
  attempt settings outcome settings.maxRetries 0

def longestSleepSecs : Nat := 946080000

def sleptSecs (pause : TimeSpan) : Nat := min pause.secs longestSleepSecs

def waitedSecs (run : PoolRun) : Nat :=
  run.pauses.foldl (fun total pause => total + sleptSecs pause) 0

end Pool
end RowBridge.Postgres
