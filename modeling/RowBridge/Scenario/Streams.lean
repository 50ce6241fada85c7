/-
# `RowBridge.Scenario.Streams` — scripted runs of one stream

A script polls, cancels and drops the stream, and gives its row source orders:
to hand over a row or to return.  With a patient clock a scan may stay blocked
in an enqueue; a later entry frees it.
-/
import RowBridge.Scenario.Stage

namespace RowBridge.Scenario

open Schedule

/-- An entry of a script over a stream. -/
inductive StreamStep (Row : Type)
  | poll
  | emit (row : Row)
  | finish (ending : Ending)
  | cancel
  | cancelByHandle
  | drop
  | sizeHint
  | record
  | look
  | cancelTask
  | shutdown

/-- What an order to the row source came to. -/
inductive SourceReply
  | proceed
  | stop
  | raised
  | notRunning
  | blocked
  | finished
  deriving DecidableEq, Repr

/-- The answer to an entry. -/
inductive StreamReply (R : Type)
  | nothing
  | gone
  | next (next : Next R)
  | source (reply : SourceReply)
  | bounds (lower : Nat) (upper : Option Nat)
  | record (text : String)
  | view (started closed : Bool)
  | flag (value : Bool)
  | noTask

/-- A tracked task as the worker reports it. -/
structure TaskReport where
  id : String
  statement : String
  status : TaskStatus
  deriving DecidableEq, Repr

def taskReports {J : Type} [ScanJob J] (w : Worker J) : List TaskReport :=
  w.entries.map fun entry => ⟨entry.1.id, ScanJob.statement entry.1.job, entry.2.status⟩

/-- An answer with what can be seen after it. -/
structure StreamEntry (R : Type) where
  reply : StreamReply R
  /-- What the blocked order came to, if this entry freed it. -/
  released : Option SourceReply
  woken : Bool
  closed : Bool
  scanning : Bool
  worker : Option (List TaskReport)

/-- What a scripted run of a stream shows. -/
structure StreamReport (R : Type) where
  entries : List (StreamEntry R)
  scans : Nat
  statement : String
  bindings : Bindings
  mapped : Nat
  failures : List TaskFailure

/-- A stream in a scripted run. -/
structure StreamRun (Row R : Type) where
  stage : Stage Row R
  runtime : Bool
  /-- How the source returns when it is told to stop. -/
  afterStop : Ending
  handed : Nat
  blocked : Bool

namespace StreamRun

variable {Row R : Type}

def onStage (run : StreamRun Row R) (f : Stage Row R → Stage Row R) : StreamRun Row R :=
  { run with stage := f run.stage }

def isDropped (run : StreamRun Row R) : Bool := run.stage.stream.isDropped

/-- What has become of an order to the source; one that was told to stop returns. -/
def settleOrder (run : StreamRun Row R) : StreamRun Row R × SourceReply :=
  match run.stage.scan.phase with
  | .scanning =>
      match run.stage.scan.answer with
      | some .stop =>
          ({ run with blocked := false }.onStage (·.conclude run.afterStop), .stop)
      | _ => ({ run with blocked := false }, .proceed)
  | .ended (.raised _) => ({ run with blocked := false }, .raised)
  | .ended _ => ({ run with blocked := false }, .finished)
  | _ => ({ run with blocked := true }, .blocked)

def emit (run : StreamRun Row R) (row : Row) : StreamRun Row R × SourceReply :=
  if run.stage.scan.isIdle then
    { run with stage := run.stage.offer row run.handed, handed := run.handed + 1 }.settleOrder
  else (run, .notRunning)

def finish (run : StreamRun Row R) (ending : Ending) : StreamRun Row R × SourceReply :=
  if run.stage.scan.isIdle then
    let settled := (run.onStage (·.conclude ending)).settleOrder
    (settled.1, if settled.2 = .blocked then .blocked else .finished)
  else (run, .notRunning)

def release (run : StreamRun Row R) : StreamRun Row R × Option SourceReply :=
  if run.blocked then
    let settled := run.settleOrder
    (settled.1, if settled.2 = .blocked then none else some settled.2)
  else (run, none)

/-! ## Calls on the worker -/

/-- The worker after a call has been started; a call that cannot come to rest
gives up. -/
def call (run : StreamRun Row R) (start : Worker (RowStream Row R) → Worker (RowStream Row R)) :
    StreamRun Row R :=
  run.onStage fun s =>
    match s.context with
    | .worker worker =>
        let s := { s with context := .worker (start worker) }.rest
        match s.context with
        | .worker waiting =>
            { s with context := .worker ((waiting.wait? true worker.calls.length).getD waiting) }.rest
        | _ => s
    | _ => s

def cancelTask (run : StreamRun Row R) : StreamRun Row R × StreamReply R :=
  match run.stage.context with
  | .worker worker =>
      match worker.trackedPositions.head? with
      | none => (run, .noTask)
      | some i => (run.call (·.startCancel i), .flag true)
  | _ => (run, .noTask)

/-! ## The script -/

def whileThere (run : StreamRun Row R)
    (act : StreamRun Row R → StreamRun Row R × StreamReply R) : StreamRun Row R × StreamReply R :=
  if run.isDropped then (run, .gone) else act run

def poll (run : StreamRun Row R) : StreamRun Row R × StreamReply R :=
  let polled := run.stage.poll run.runtime
  ({ run with stage := polled.1 }, .next polled.2)

def reply (run : StreamRun Row R) : StreamStep Row → StreamRun Row R × StreamReply R
  | .poll => run.whileThere poll
  | .emit row =>
      let emitted := run.emit row
      (emitted.1, .source emitted.2)
  | .finish ending =>
      let finished := run.finish ending
      (finished.1, .source finished.2)
  | .cancel => run.whileThere fun run => (run.onStage (·.onStream .cancel), .nothing)
  | .cancelByHandle => (run.onStage (·.onStream (·.close .cancelled)), .nothing)
  | .drop => (run.onStage (·.onStream .drop), .nothing)
  | .sizeHint => run.whileThere fun run =>
      let hint := run.stage.stream.sizeHint
      (run, .bounds hint.1 hint.2)
  | .record => run.whileThere fun run => (run, .record run.stage.stream.shown)
  | .look => run.whileThere fun run =>
      (run, .view run.stage.stream.isStarted run.stage.stream.isClosed)
  | .cancelTask => run.cancelTask
  | .shutdown => (run.call .startShutdown, .nothing)

/-- What can be seen after an entry. -/
def entry (run : StreamRun Row R) (reply : StreamReply R) (released : Option SourceReply) :
    StreamEntry R where
  reply := reply
  released := released
  woken := run.stage.stream.session.bell.rung
  closed := run.stage.stream.isClosed
  scanning := run.stage.scan.isScanning
  worker := match run.stage.context with
    | .worker worker => some (taskReports worker)
    | _ => none

/-- One entry of the script; an order that was blocked before it may be freed by
it. -/
def step (run : StreamRun Row R) (s : StreamStep Row) : StreamRun Row R × StreamEntry R :=
  let wasBlocked := run.blocked
  let replied := run.reply s
  let rested := replied.1.onStage .rest
  let released := if wasBlocked then rested.release else (rested, none)
  (released.1, released.1.entry replied.2 released.2)

def close (run : StreamRun Row R) : StreamRun Row R :=
  let run := run.onStage fun s => (s.onStream .drop).rest
  let run := run.release.1
  if run.stage.scan.isIdle then run.onStage (·.conclude .ok) else run

def report (run : StreamRun Row R) (entries : List (StreamEntry R)) : StreamReport R where
  entries := entries
  scans := run.stage.scan.scans
  statement := run.stage.scan.plan.statement
  bindings := run.stage.scan.plan.bindings
  mapped := run.stage.scan.mapped
  failures := run.stage.failures

end StreamRun

def runStream {Row R : Type} (stream : RowStream Row R) (context : Context Row R) (runtime : Bool)
    (afterStop : Ending) (script : List (StreamStep Row)) : StreamReport R :=
  let run : StreamRun Row R := ⟨.fresh stream context, runtime, afterStop, 0, false⟩
  let ran := runScript StreamRun.step run script
  ran.1.close.report ran.2

end RowBridge.Scenario
