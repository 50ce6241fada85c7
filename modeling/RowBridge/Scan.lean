/-
# `RowBridge.Scan` — the producing side

A scan runs a statement on a row source, maps every row and enqueues the result.
All judgement about failures is made here: the consumer sees rows, an end
marker, or a closed session.

A scan is a small machine.  Its environment (the row source and the clock)
chooses among three moves, and the scan itself makes the rest:

* `Scan.offer`: the source hands over a row;
* `Scan.conclude`: the source returns, fails or gives up;
* `Scan.advance`: the scan goes on with the row, the end marker or the failure
  it has in hand.

A row offered to a closed session is turned away without being mapped.  A scan
that ends well enqueues the end marker if the session is still open.  A failure
after a closing is not reported; a transient failure closes the session quietly,
any other closes it and is the scan's result.
-/
import RowBridge.Bindings
import RowBridge.RowSource
import RowBridge.Session.Send
import RowBridge.TimeSpan

namespace RowBridge

/-- What a scan is asked to do.  A mapper that gives up does so with a text. -/
structure ScanPlan (Row R : Type) where
  statement : String
  bindings : Bindings
  mapper : Row → Nat → Except String R
  /-- How long one enqueue waits for room. -/
  timeout : TimeSpan
  /-- Whether there is a runtime to wait in. -/
  runtime : Bool

/-- Where a scan stands. -/
inductive ScanPhase (Row R : Type)
  /-- Nobody has been asked to run the scan. -/
  | deferred
  /-- A scheduler has been asked to run it. -/
  | queued
  /-- The row source is at work. -/
  | scanning
  /-- The source waits while this row is mapped. -/
  | mapping (row : Row) (index : Nat)
  /-- The source waits while this item is enqueued. -/
  | sending (item : Item R) (stage : SendStage)
  /-- The source has returned; the end marker is enqueued. -/
  | ending (stage : SendStage)
  /-- The source has failed; the session is about to be closed. -/
  | failing (failure : ScanError)
  | ended (ending : Ending)
  /-- The scan was dropped without being run. -/
  | discarded

/-- A scan with the session it feeds. -/
structure Scan (Row R : Type) where
  plan : ScanPlan Row R
  session : Session R
  phase : ScanPhase Row R
  /-- Rows enqueued. -/
  rowsSent : Nat
  /-- Calls of the mapper. -/
  mapped : Nat
  /-- Runs of the row source. -/
  scans : Nat
  /-- What the source was told after the latest row, once that is settled. -/
  answer : Option Flow
  events : List LogEvent

namespace Scan

variable {Row R : Type}

/-- A scan that nobody has been asked to run. -/
def fresh (plan : ScanPlan Row R) (session : Session R) : Scan Row R where
  plan := plan
  session := session
  phase := .deferred
  rowsSent := 0
  mapped := 0
  scans := 0
  answer := none
  events := []

/-! ## Reports -/

def reasonField (s : Scan Row R) : String × FieldValue :=
  ("reason", .text (Text.optional ClosureReason.label s.session.reason))

def statementField (s : Scan Row R) : String × FieldValue :=
  ("statement", .text s.plan.statement)

def rowsSentField (s : Scan Row R) : String × FieldValue :=
  ("rows_sent", .number s.rowsSent)

def report (s : Scan Row R) (level : Level) (message : String)
    (fields : List (String × FieldValue)) : Scan Row R :=
  { s with events := s.events ++ [⟨level, .producer, message, s.statementField :: fields⟩] }

def reportSkipped (s : Scan Row R) : Scan Row R :=
  s.report .debug "Stream closed before scan started, skipping" [s.reasonField]

/-- The timeout in milliseconds, as far as 64 bits hold it. -/
def timeoutField (s : Scan Row R) : String × FieldValue :=
  ("timeout_ms", .number (s.plan.timeout.millis % 18446744073709551616))

def reportTimedOut (s : Scan Row R) : Scan Row R :=
  s.report .warn "Timed out waiting for queue space, closing stream"
    [s.rowsSentField, s.timeoutField]

def reportDisconnected (s : Scan Row R) : Scan Row R :=
  s.report .debug "Stream consumer went away" [s.rowsSentField]

def reportAbandoned (s : Scan Row R) : Scan Row R :=
  s.report .debug "Stream closed, abandoning scan" [s.rowsSentField, s.reasonField]

def reportComplete (s : Scan Row R) : Scan Row R :=
  s.report .debug "Scan complete" [s.rowsSentField]

def reportUndelivered (s : Scan Row R) (outcome : SendOutcome) : Scan Row R :=
  s.report .warn "Could not deliver end of stream"
    [s.rowsSentField, ("outcome", .text outcome.label)]

def reportStopped (s : Scan Row R) (failure : ScanError) : Scan Row R :=
  s.report .debug "Scan stopped after stream closed"
    [("error", .text failure.text), s.reasonField]

def reportFailure (s : Scan Row R) (level : Level) (message : String) (failure : ScanError) :
    Scan Row R :=
  s.report level message
    [s.rowsSentField, ("kind", .text failure.kind.text), ("error", .text failure.text)]

/-! ## Moves -/

/-- The scan is over, and its half of the session with it. -/
def finish (s : Scan Row R) (ending : Ending) : Scan Row R :=
  { s with phase := .ended ending, session := s.session.dropProducer }

/-- A scan that is not going to be run gives up its half of the session. -/
def discard (s : Scan Row R) : Scan Row R :=
  { s with phase := .discarded, session := s.session.dropProducer }

/-- Starts a scan that waits to be run, unless the session has been closed
meanwhile. -/
def begin (s : Scan Row R) : Scan Row R :=
  match s.phase with
  | .queued =>
      if s.session.isClosed then s.reportSkipped.finish .ok
      else { s with phase := .scanning, scans := s.scans + 1 }
  | _ => s

/-- The source hands over a row; a closed session turns it away. -/
def offer (s : Scan Row R) (row : Row) (index : Nat) : Scan Row R :=
  if s.session.isClosed then { s with answer := some .stop }
  else { s with phase := .mapping row index, answer := none }

/-- The source returns. -/
def conclude (s : Scan Row R) (ending : Ending) : Scan Row R :=
  match ending with
  | .ok =>
      if s.session.isClosed then s.finish .ok else { s with phase := .ending .entering }
  | .failed failure =>
      if s.session.isClosed then (s.reportStopped failure).finish .ok
      else { s with phase := .failing failure }
  | .raised text => s.finish (.raised text)

/-- The mapper is called; if it gives up, so does the scan. -/
def map (s : Scan Row R) (row : Row) (index : Nat) : Scan Row R :=
  let s := { s with mapped := s.mapped + 1 }
  match s.plan.mapper row index with
  | .ok value => { s with phase := .sending (.value value) .entering }
  | .error text => s.finish (.raised text)

/-- The row has been dealt with; the source goes on, and knows whether to stop. -/
def answerWith (s : Scan Row R) (flow : Flow) : Scan Row R :=
  { s with phase := .scanning, answer := some flow }

/-- What the source is told when the enqueue of a row is over. -/
def settleRow (s : Scan Row R) : SendOutcome → Scan Row R
  | .sent => { s with rowsSent := s.rowsSent + 1 }.answerWith .proceed
  | .timedOut => s.reportTimedOut.answerWith .stop
  | .disconnected => s.reportDisconnected.answerWith .stop
  | .closed => s.reportAbandoned.answerWith .stop

/-- The end of the scan when the enqueue of the end marker is over. -/
def settleFinish (s : Scan Row R) : SendOutcome → Scan Row R
  | .sent => s.reportComplete.finish .ok
  | outcome => (s.reportUndelivered outcome).finish .ok

/-- The session is closed for a failure of the source, which is the result
unless transient. -/
def settleFailure (s : Scan Row R) (failure : ScanError) : Scan Row R :=
  if failure.isTransient then
    { s with session := s.session.close .transientSourceFailure }
      |>.reportFailure .warn "Row source went away, closing stream" failure
      |>.finish .ok
  else
    { s with session := s.session.close .sourceFailure }
      |>.reportFailure .error "Failed to stream rows" failure
      |>.finish (.failed (failure.withStatement s.plan.statement))

/-- Takes over what one moment of an enqueue left behind. -/
def absorb (s : Scan Row R) (step : SendStep R) : Scan Row R :=
  { s with session := step.session, events := s.events ++ step.events }

/-- The scan goes on with what it has in hand; `expired` is for the deadline of
an enqueue. -/
def advance (expired : Bool) (s : Scan Row R) : Scan Row R :=
  match s.phase with
  | .mapping row index => s.map row index
  | .sending _ (.done outcome) => s.settleRow outcome
  | .sending item stage =>
      let step := stage.advance s.plan.runtime expired s.session item
      { s.absorb step with phase := .sending item step.stage }
  | .ending (.done outcome) => s.settleFinish outcome
  | .ending stage =>
      let step := stage.advance s.plan.runtime expired s.session .finish
      { s.absorb step with phase := .ending step.stage }
  | .failing failure => s.settleFailure failure
  | _ => s

/-- As many moments as given, nobody else acting in between. -/
def settle (expired : Bool) : Nat → Scan Row R → Scan Row R
  | 0, s => s
  | moments + 1, s => settle expired moments (s.advance expired)

/-- The moments after which an undisturbed scan needs its source, has to wait,
or is over. -/
def moments : Nat := SendStage.moments + 2

/-- The scan's own next move: none while it needs its source, waits in vain, or
is over. -/
def move? (expired : Bool) (s : Scan Row R) : Option (Scan Row R) :=
  match s.phase with
  | .mapping _ _ | .failing _ => some (s.advance expired)
  | .sending _ stage | .ending stage =>
      if stage.isStuck expired s.session then none else some (s.advance expired)
  | _ => none

def ending? (s : Scan Row R) : Option Ending :=
  match s.phase with
  | .ended ending => some ending
  | _ => none

def isScanning (s : Scan Row R) : Bool :=
  match s.phase with
  | .scanning | .mapping _ _ | .sending _ _ => true
  | _ => false

/-- Whether the source is free to hand over a row or to return. -/
def isIdle (s : Scan Row R) : Bool :=
  match s.phase with
  | .scanning => true
  | _ => false

end Scan
end RowBridge
