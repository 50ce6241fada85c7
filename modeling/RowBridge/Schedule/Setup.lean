/-
# `RowBridge.Schedule.Setup` — setting a worker up

A worker's settings can be changed while nobody shares it.  A change made later
is ignored, even one that would otherwise be refused.
-/
import RowBridge.Schedule.Worker

namespace RowBridge.Schedule

namespace WorkerSettings

/-- No bound on running jobs, five seconds to stop, and tasks stay in the table. -/
def default : WorkerSettings := ⟨none, .ofSecs 5, false⟩

end WorkerSettings

/-- A change of a worker's settings, or of who shares it. -/
inductive SetupStep
  | maxConcurrency (limit : Nat)
  | shutdownTimeout (span : TimeSpan)
  | autoCleanup
  | share
  | unshare
  deriving DecidableEq, Repr

/-- A worker that is being set up. -/
structure WorkerSetup where
  settings : WorkerSettings
  shared : Bool
  deriving DecidableEq, Repr

namespace WorkerSetup

def fresh : WorkerSetup := ⟨.default, false⟩

/-- At least one job runs at once, and no more than can be counted. -/
def limitOf (n : Nat) : Except Abort Nat :=
  if Abort.maxPermits < max n 1 then .error .tooManyPermits else .ok (max n 1)

def change (settings : WorkerSettings) : SetupStep → Except Abort WorkerSettings
  | .maxConcurrency n => (limitOf n).map fun limit => { settings with limit := some limit }
  | .shutdownTimeout span => .ok { settings with shutdownTimeout := span }
  | .autoCleanup => .ok { settings with autoCleanup := true }
  | .share | .unshare => .ok settings

def apply (setup : WorkerSetup) (step : SetupStep) : Except Abort WorkerSetup :=
  match step with
  | .share => .ok { setup with shared := true }
  | .unshare => .ok { setup with shared := false }
  | step =>
      if setup.shared then .ok setup
      else (change setup.settings step).map fun settings => { setup with settings := settings }

def applyAll (setup : WorkerSetup) (steps : List SetupStep) : Except Abort WorkerSetup :=
  steps.foldlM apply setup

end WorkerSetup
end RowBridge.Schedule
