/-
# `RowBridge.Scenario.Stage` — one stream with everything around it

A stage holds one stream, the scheduler that runs its scan, and a clock that is
either patient (no deadline of an enqueue ever passes) or passes every deadline
at once.  Until the scan is handed over the stream stands by; then it is the
scheduler's one task.
-/
import RowBridge.Scenario.Settle
import RowBridge.Schedule.Call
import RowBridge.Schedule.Elastic
import RowBridge.Schedule.Supervise
import RowBridge.Template

namespace RowBridge.Scenario

open Schedule

/-- Where the scan of a stream is run. -/
inductive Context (Row R : Type)
  | elastic (scheduler : Elastic (RowStream Row R))
  | worker (worker : Worker (RowStream Row R))
  | losing

/-- A stream with the scheduler of its scan. -/
structure Stage (Row R : Type) where
  idle : RowStream Row R
  context : Context Row R
  patient : Bool

namespace Stage

variable {Row R : Type}

def scheduled? (s : Stage Row R) : Option (RowStream Row R) :=
  match s.context with
  | .elastic scheduler => scheduler.tasks.head?.map (·.job)
  | .worker worker => worker.tasks.head?.map (·.job)
  | .losing => none

def stream (s : Stage Row R) : RowStream Row R := s.scheduled?.getD s.idle

def scan (s : Stage Row R) : Scan Row R := s.stream.scan

def onStream (s : Stage Row R) (f : RowStream Row R → RowStream Row R) : Stage Row R :=
  match s.context with
  | .elastic scheduler =>
      if scheduler.tasks.isEmpty then { s with idle := f s.idle }
      else { s with context := .elastic (scheduler.onJob 0 f) }
  | .worker worker =>
      if worker.tasks.isEmpty then { s with idle := f s.idle }
      else { s with context := .worker (worker.onJob 0 f) }
  | .losing => { s with idle := f s.idle }

def onScan (s : Stage Row R) (f : Scan Row R → Scan Row R) : Stage Row R :=
  s.onStream fun st => { st with scan := f st.scan }

def reception (s : Stage Row R) : Reception :=
  match s.context with
  | .elastic _ => .accepted
  | .worker worker => worker.reception
  | .losing => .lost

def enlist (s : Stage Row R) : Stage Row R :=
  let id := s.idle.scan.plan.statement
  match s.context with
  | .elastic scheduler => { s with context := .elastic (scheduler.schedule id s.idle) }
  | .worker worker => { s with context := .worker (worker.schedule id s.idle) }
  | .losing => s

/-! ## Coming to rest -/

def moveContext? (s : Stage Row R) : Option (Stage Row R) :=
  match s.context with
  | .elastic scheduler =>
      (scheduler.move? 0).map fun scheduler => { s with context := .elastic scheduler }
  | .worker worker =>
      (worker.supervise? 0).map fun worker => { s with context := .worker worker }
  | .losing => none

def moveScan? (s : Stage Row R) : Option (Stage Row R) :=
  (s.scan.move? !s.patient).map fun scan => s.onScan fun _ => scan

/-- The next step of a call that waits for a task. -/
def moveCall? (s : Stage Row R) : Option (Stage Row R) :=
  match s.context with
  | .worker worker =>
      (firstMove? ((List.range worker.calls.length).map fun k w => w.wait? false k) worker).map
        fun worker => { s with context := .worker worker }
  | _ => none

def move? (s : Stage Row R) : Option (Stage Row R) :=
  firstMove? [moveScan?, moveContext?, moveCall?] s

def bound : Nat := 100

def rest (s : Stage Row R) : Stage Row R := settle move? bound s

/-! ## Acts -/

/-- One poll of the stream; a scan that is handed over by it comes under the
scheduler. -/
def poll (runtime : Bool) (s : Stage Row R) : Stage Row R × Next R :=
  let before := s.stream.handovers
  let polled := s.stream.poll runtime s.reception
  let accepted := s.reception = .accepted && before < polled.1.handovers
  let s := s.onStream fun _ => polled.1
  ((if accepted then s.enlist else s).rest, polled.2)

def offer (s : Stage Row R) (row : Row) (index : Nat) : Stage Row R :=
  (s.onScan (·.offer row index)).rest

def conclude (s : Stage Row R) (ending : Ending) : Stage Row R :=
  (s.onScan (·.conclude ending)).rest

def failures (s : Stage Row R) : List TaskFailure :=
  match s.context with
  | .elastic scheduler => scheduler.failures
  | _ => []

def isPatient (timeout : TimeSpan) : Bool := 10000 ≤ timeout.millis

def fresh (stream : RowStream Row R) (context : Context Row R) : Stage Row R :=
  ⟨stream, context, isPatient stream.scan.plan.timeout⟩

end Stage
end RowBridge.Scenario
