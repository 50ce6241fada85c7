/-
# `RowBridge.RowStream` — the consuming side

A row stream is lazy and read once.  Its first poll hands the scan to a
scheduler; every poll first looks whether the session has been closed and only
then looks at the queue.  A stream gives any number of rows and then one
terminal signal, after which it has ended for good:

* the end, when the end marker is read;
* `Error.closed`, when the session is found closed, or the scan gone without an
  end marker;
* `Error.internal`, when the first poll comes from outside a runtime.

A poll consists of several moments, between which the scan and the holders of
handles may act.  A poll is therefore a `PollStage`, and `PollStage.advance`
takes it one moment further; `RowStream.poll` is the poll during which nobody
else acts.
-/
import RowBridge.Error
import RowBridge.Scan

namespace RowBridge

/-- What the scheduler does with a scan that is handed to it. -/
inductive Reception
  /-- It takes the scan on. -/
  | accepted
  /-- It turns the scan away and cancels the session. -/
  | rejected
  /-- It drops the scan without a word. -/
  | lost
  deriving DecidableEq, Repr

/-- What a poll gives. -/
inductive Next (R : Type)
  | row (row : R)
  | finished
  | failed (error : Error)
  | pending
  deriving DecidableEq, Repr

/-- The moments of a poll. -/
inductive PollStage (R : Type)
  /-- Nothing has been looked at. -/
  | entering
  /-- The stream is open and has never been started; about to hand the scan over. -/
  | starting
  /-- The scan has just been handed over; about to look at the closer again. -/
  | checking
  /-- About to look at the queue. -/
  | taking
  /-- The queue held nothing; about to look at the closer, or to leave the bell
  there. -/
  | watching
  | done (next : Next R)
  deriving DecidableEq, Repr

/-- A stream with the scan behind it. -/
structure RowStream (Row R : Type) where
  scan : Scan Row R
  /-- The scan can no longer be handed over by this stream. -/
  started : Bool
  /-- How often the scan was handed to a scheduler. -/
  handovers : Nat
  /-- The terminal signal has been given, or the stream was cancelled. -/
  done : Bool

namespace RowStream

variable {Row R : Type}

/-- A stream that nobody has polled. -/
def fresh (plan : ScanPlan Row R) (session : Session R) : RowStream Row R where
  scan := .fresh plan session
  started := false
  handovers := 0
  done := false

/-- Opens a stream whose queue has room for `capacity` items. -/
def open? (plan : ScanPlan Row R) (capacity : Nat) : Except Abort (RowStream Row R) :=
  (Session.open? capacity).map (fresh plan)

/-- A stream that could be opened has not been used. -/
theorem eq_fresh_of_open? {plan : ScanPlan Row R} {capacity : Nat} {st : RowStream Row R}
    (h : open? plan capacity = .ok st) : st = fresh plan (.fresh capacity) := by
  unfold open? at h
  cases hs : Session.open? (R := R) capacity with
  | error abort => rw [hs] at h; cases h
  | ok session =>
      rw [hs, Session.eq_fresh_of_open? hs] at h
      exact (Except.ok.inj h).symm

/-- A stream that could be opened has room for at least one item. -/
theorem pos_of_open? {plan : ScanPlan Row R} {capacity : Nat} {st : RowStream Row R}
    (h : open? plan capacity = .ok st) : 0 < capacity := by
  refine Nat.pos_of_ne_zero fun hz => ?_
  subst hz
  cases h

def session (st : RowStream Row R) : Session R := st.scan.session

def reason (st : RowStream Row R) : Option ClosureReason := st.session.reason

def isClosed (st : RowStream Row R) : Bool := st.session.isClosed

def isStarted (st : RowStream Row R) : Bool := st.started

def isDropped (st : RowStream Row R) : Bool := st.session.consumerGone

def withSession (st : RowStream Row R) (session : Session R) : RowStream Row R :=
  { st with scan := { st.scan with session := session } }

def close (st : RowStream Row R) (reason : ClosureReason) : RowStream Row R :=
  st.withSession (st.session.close reason)

def finish (st : RowStream Row R) (reason : ClosureReason) : RowStream Row R × PollStage R :=
  ({ st with done := true }, .done (.failed (.closed reason)))

/-- What an unstarted stream does with its scan when it will never be handed
over. -/
def abandonStart (st : RowStream Row R) : RowStream Row R :=
  if st.started then st else { st with started := true, scan := st.scan.discard }

/-! ## Polling -/

/-- The first moment of a poll: a stream that has ended says so, a closed one
ends. -/
def enter (st : RowStream Row R) : RowStream Row R × PollStage R :=
  let st := st.withSession st.session.hush
  if st.done then (st, .done .finished)
  else
    match st.reason with
    | some reason => st.abandonStart.finish reason
    | none => (st, if st.started then .taking else .starting)

/-- Hands the scan to a scheduler. -/
def handOver (st : RowStream Row R) (reception : Reception) : RowStream Row R :=
  let st := { st with started := true, handovers := st.handovers + 1 }
  match reception with
  | .accepted => { st with scan := { st.scan with phase := .queued } }
  | .rejected =>
      let st := st.close .cancelled
      { st with scan := st.scan.discard }
  | .lost => { st with scan := st.scan.discard }

/-- The signal of a first poll from outside a runtime. -/
def failWithoutRuntime (st : RowStream Row R) : RowStream Row R × PollStage R :=
  let closed := (st.close .sourceFailure).abandonStart
  ({ closed with done := true },
    .done (.failed (.internal "RowStream must be polled from within a tokio runtime")))

/-- The scan of an open stream is handed over, which takes a runtime. -/
def start (runtime : Bool) (reception : Reception) (st : RowStream Row R) :
    RowStream Row R × PollStage R :=
  if runtime then (st.handOver reception, .checking) else st.failWithoutRuntime

/-- The look at the closer after the scan was handed over. -/
def check (st : RowStream Row R) : RowStream Row R × PollStage R :=
  match st.reason with
  | some reason => st.finish reason
  | none => (st, .taking)

/-- The look at the queue. -/
def take (st : RowStream Row R) : RowStream Row R × PollStage R :=
  let polled := st.session.poll
  let st := st.withSession polled.1
  match polled.2 with
  | .item (.value row) => (st, .done (.row row))
  | .item .finish => ({ st with done := true }, .done .finished)
  | .disconnected => st.finish (st.reason.getD .sourceFailure)
  | .pending => (st, .watching)

/-- The last moment of a poll that found nothing: a look at the closer, or a
bell there. -/
def watch (st : RowStream Row R) : RowStream Row R × PollStage R :=
  match st.reason with
  | some reason => st.finish reason
  | none => (st.withSession st.session.watchCloser, .done .pending)

end RowStream

namespace PollStage

variable {Row R : Type}

/-- What the poll gives, as far as it has come. -/
def answer : PollStage R → Next R
  | done next => next
  | _ => .pending

/-- One moment of a poll, called from inside or outside a runtime; the scheduler
would receive the scan as said. -/
def advance (runtime : Bool) (reception : Reception) (st : RowStream Row R) :
    PollStage R → RowStream Row R × PollStage R
  | entering => st.enter
  | starting => st.start runtime reception
  | checking => st.check
  | taking => st.take
  | watching => st.watch
  | done next => (st, done next)

/-- As many moments as given, nobody else acting in between. -/
def run (runtime : Bool) (reception : Reception) : Nat → RowStream Row R → PollStage R →
    RowStream Row R × PollStage R
  | 0, st, stage => (st, stage)
  | moments + 1, st, stage =>
      let first := advance runtime reception st stage
      run runtime reception moments first.1 first.2

def moments : Nat := 5

end PollStage

namespace RowStream

variable {Row R : Type}

def poll (runtime : Bool) (reception : Reception) (st : RowStream Row R) :
    RowStream Row R × Next R :=
  let polled := PollStage.run runtime reception PollStage.moments st .entering
  (polled.1, polled.2.answer)

/-- How many items the stream still gives, as far as that is known: a lower and
an upper bound. -/
def sizeHint (st : RowStream Row R) : Nat × Option Nat :=
  if st.done then (0, some 0) else (0, none)

/-! ## Ending a stream early -/

def cancel (st : RowStream Row R) : RowStream Row R :=
  { (st.withSession st.session.cancel).abandonStart with done := true }

def drop (st : RowStream Row R) : RowStream Row R :=
  (st.withSession st.session.dropConsumer).abandonStart

/-- The stream as a record. -/
def shown (st : RowStream Row R) : String :=
  Text.record "RowStream"
    [("started", Text.truth st.started),
      ("closed", Text.optional ClosureReason.label st.reason),
      ("done", Text.truth st.done)] .whole

end RowStream
end RowBridge
