/-
# `RowBridge.Schedule.Job` — work that a scheduler runs

A scheduler runs jobs on threads that may block.  All it knows of a job is the
class `ScanJob`: the statement it is for, the closer it shares with its
consumer, that it can be begun, and how it ended once it has.  A row stream
brings its scan as a job; `PlainJob` is a job that only waits, closes and ends.

A job that gave up is reported as a failure of kind `other` whose message quotes
what the job said.
-/
import RowBridge.RowStream

namespace RowBridge.Schedule

/-- What a scheduler knows of the work it runs. -/
class ScanJob (J : Type) where
  statement : J → String
  closer : J → Closer
  close : J → ClosureReason → J
  /-- The job is put on a thread of its own. -/
  begin : J → J
  /-- How the job ended, once it has. -/
  ending? : J → Option Ending

/-- A failure as schedulers report it. -/
structure TaskFailure where
  task : String
  statement : String
  error : ScanError
  deriving DecidableEq, Repr

/-- The failure of a job that gave up; tasks are not told apart in it. -/
def raisedFailure (text : String) : ScanError :=
  .plain .other ("scan task panicked: task N panicked with message " ++ Text.quoted text)

def failure? : Ending → Option ScanError
  | .ok => none
  | .failed failure => some failure
  | .raised text => some (raisedFailure text)

/-- A job that gave up closes its session; any other ending leaves that to the
job. -/
def closeAfter {J : Type} [ScanJob J] (job : J) : Ending → J
  | .raised _ => ScanJob.close job .sourceFailure
  | _ => job

/-- The job of a stream is its scan. -/
instance {Row R : Type} : ScanJob (RowStream Row R) where
  statement st := st.scan.plan.statement
  closer st := st.session.closer
  close st reason := st.close reason
  begin st := { st with scan := st.scan.begin }
  ending? st := st.scan.ending?

/-! ## Plain jobs -/

/-- What a plain job waits for before it concludes. -/
inductive Wait
  | nothing
  /-- Until it is let go. -/
  | gate
  /-- Until its session is closed. -/
  | closing
  deriving DecidableEq, Repr

/-- A job that waits, perhaps closes its own session, and ends. -/
structure PlainJob where
  statement : String
  closer : Closer
  wait : Wait
  released : Bool
  /-- The reason it closes its session with, if it does. -/
  closes : Option ClosureReason
  result : Ending
  begun : Bool
  ending : Option Ending
  deriving DecidableEq, Repr

namespace PlainJob

/-- A job that has not been begun. -/
def fresh (statement : String) (wait : Wait) (closes : Option ClosureReason) (result : Ending) :
    PlainJob where
  statement := statement
  closer := .fresh
  wait := wait
  released := false
  closes := closes
  result := result
  begun := false
  ending := none

def isFree (j : PlainJob) : Bool :=
  match j.wait with
  | .nothing => true
  | .gate => j.released
  | .closing => j.closer.isClosed

def close (j : PlainJob) (reason : ClosureReason) : PlainJob :=
  { j with closer := j.closer.close reason }

def conclude (j : PlainJob) : PlainJob :=
  let j := match j.closes with
    | none => j
    | some reason => j.close reason
  { j with ending := some j.result }

def move? (j : PlainJob) : Option PlainJob :=
  if j.begun && j.ending.isNone && j.isFree then some j.conclude else none

/-- Lets the job go, with another conclusion if one is given and the job has not
ended. -/
def release (j : PlainJob) (conclusion : Option (Option ClosureReason × Ending)) : PlainJob :=
  match conclusion with
  | none => { j with released := true }
  | some (closes, result) => { j with released := true, closes := closes, result := result }

instance : ScanJob PlainJob where
  statement := statement
  closer := closer
  close := close
  begin j := { j with begun := true }
  ending? := ending

end PlainJob
end RowBridge.Schedule
