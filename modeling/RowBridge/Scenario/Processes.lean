/-
# `RowBridge.Scenario.Processes` — what whole processes print and scans over pools come to

A process initialises its logging, perhaps runs a scan that nobody reads, and
ends its logging.  A call that does not come back ends the process; what it has
printed until then is all it prints.
-/
import RowBridge.Observability
import RowBridge.Postgres.Source
import RowBridge.Scenario.Scans

namespace RowBridge.Scenario

/-- A scan over rows that are already there, into a queue that nobody reads. -/
structure UnreadScan where
  capacity : Nat
  rows : List Document
  statement : String

/-- How such a scan is set up; two milliseconds are too short for a row that
finds no room. -/
def UnreadScan.plan (scan : UnreadScan) : ScanPlan Document Document where
  statement := scan.statement
  bindings := .empty
  mapper := fun row _ => .ok row
  timeout := .ofMillis 2
  runtime := true

def wellBehaved : SourceManner := ⟨.ok, .ok, false⟩

def UnreadScan.events (scan : UnreadScan) : Except Abort (List LogEvent) :=
  (runScan scan.plan scan.capacity [] (scan.rows.map .row) wellBehaved).map (·.events)

/-- What a process prints that has initialised its logging, by its scan and to
its end. -/
def runScanAndStop (logging : Logging) (scan : Option UnreadScan) : List LogEvent :=
  match scan.mapM UnreadScan.events with
  | .error _ => logging.printed
  | .ok events => (logging.logAll (events.getD [])).stop.printed

/-- What a process prints that initialises its logging with each of the settings
in turn. -/
def runFrom (logging : Logging) (scan : Option UnreadScan) : List Settings → List LogEvent
  | [] => runScanAndStop logging scan
  | settings :: rest =>
      match logging.start settings with
      | .error _ => logging.printed
      | .ok started => runFrom started scan rest

def runProcess (settings : List Settings) (scan : Option UnreadScan) : List LogEvent :=
  runFrom .off scan settings

/-- A scan over a pool that gives no connection, run on its own. -/
def runPoolScan (pool : Postgres.PoolState) (runtime : Bool) (statement : String)
    (bindings : Bindings) : Except Abort (ScanReport Document) :=
  let plan : ScanPlan Document Document :=
    ⟨statement, bindings, fun row _ => .ok row, .ofMillis 1000, runtime⟩
  runScan plan 8 [] [] ⟨Postgres.scanEnding pool runtime, .ok, false⟩

end RowBridge.Scenario
