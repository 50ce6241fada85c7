/-
# `RowBridge.Scenario.Scans` — scripted runs of one scan

The row source itself plays the script: it hands over rows, and between rows it
acts for the consumer.  The deadline of an enqueue passes at once when there is
no room.
-/
import RowBridge.Scan
import RowBridge.Scenario.Settle

namespace RowBridge.Scenario

/-- What the script does on behalf of the consumer. -/
inductive ConsumerAct
  | receive
  | close (reason : ClosureReason)
  | cancel
  | drop
  deriving DecidableEq, Repr

/-- An entry of the row source's script. -/
inductive SourceStep (Row : Type)
  | row (row : Row)
  | act (act : ConsumerAct)

/-- What an entry came to. -/
inductive SourceTrace (R : Type)
  | flow (flow : Flow)
  | received (received : Received R)
  | flag (value : Bool)
  | nothing
  | gone

/-- How the row source behaves beyond its script. -/
structure SourceManner where
  ending : Ending
  afterStop : Ending
  /-- The source goes on with its script even when told to stop. -/
  ignoresStop : Bool

/-- What a scripted run of a scan shows. -/
structure ScanReport (R : Type) where
  scanned : Bool
  trace : List (SourceTrace R)
  result : Ending
  rest : List (Received R)
  reason : Option ClosureReason
  mapped : Nat
  events : List LogEvent

namespace Scans

variable {Row R : Type}

def goOn (s : Scan Row R) : Scan Row R := s.settle true Scan.moments

def onSession (s : Scan Row R) (f : Session R → Session R) : Scan Row R :=
  { s with session := f s.session }

/-- One act of the consumer. -/
def act (s : Scan Row R) (act : ConsumerAct) : Scan Row R × SourceTrace R :=
  if s.session.consumerGone then (s, .gone)
  else
    match act with
    | .receive =>
        let received := s.session.poll
        ({ s with session := received.1 }, .received received.2)
    | .close reason => (onSession s (·.close reason), .flag (!s.session.isClosed))
    | .cancel => (onSession s .cancel, .nothing)
    | .drop => (onSession s .dropConsumer, .nothing)

/-- Plays the script from row `index` on; the trace ends where the scan does. -/
def play (manner : SourceManner) : List (SourceStep Row) → Nat → Scan Row R →
    Scan Row R × List (SourceTrace R)
  | [], _, s => (goOn (s.conclude manner.ending), [])
  | .act a :: rest, index, s =>
      let acted := act s a
      let played := play manner rest index acted.1
      (played.1, acted.2 :: played.2)
  | .row row :: rest, index, s =>
      let s := goOn (s.offer row index)
      match s.ending?, s.answer with
      | some _, _ => (s, [])
      | none, some .proceed =>
          let played := play manner rest (index + 1) s
          (played.1, .flow .proceed :: played.2)
      | none, _ =>
          if manner.ignoresStop then
            let played := play manner rest (index + 1) s
            (played.1, .flow .stop :: played.2)
          else (goOn (s.conclude manner.afterStop), [.flow .stop])

/-- Polls until nothing is left; the last poll is included. -/
def drain : Nat → Session R → List (Received R)
  | 0, _ => []
  | bound + 1, s =>
      let received := s.poll
      match received.2 with
      | .item _ => received.2 :: drain bound received.1
      | _ => [received.2]

def left (s : Session R) : List (Received R) :=
  if s.consumerGone then [] else drain (s.queue.length + 1) s

/-- What is to be seen of a scan that has run. -/
def report (s : Scan Row R) (trace : List (SourceTrace R)) : ScanReport R where
  scanned := s.scans != 0
  trace := trace
  result := s.ending?.getD .ok
  rest := left s.session
  reason := s.session.reason
  mapped := s.mapped
  events := s.events

/-- Runs a scan over a session that the consumer has acted on before. -/
def run (plan : ScanPlan Row R) (session : Session R) (before : List ConsumerAct)
    (script : List (SourceStep Row)) (manner : SourceManner) : ScanReport R :=
  let s := before.foldl (fun s a => (act s a).1) (Scan.fresh plan session)
  let s := { s with phase := .queued }.begin
  if s.isIdle then
    let played := play manner script 0 s
    report played.1 played.2
  else report s []

end Scans

/-- A scripted run of one scan over a queue of the given capacity. -/
def runScan {Row R : Type} (plan : ScanPlan Row R) (capacity : Nat) (before : List ConsumerAct)
    (script : List (SourceStep Row)) (manner : SourceManner) : Except Abort (ScanReport R) :=
  (Session.open? capacity).map fun session => Scans.run plan session before script manner

end RowBridge.Scenario
