/-
# `RowBridge.Schedule.Supervise` — what a supervisor does

Every accepted task has a supervisor.  It waits for a slot, looks once more
whether the session was closed, puts the job on a thread, and turns the way the
job ended into the final status:

* a task whose session is found closed before its job is due ends `cancelled`,
  whatever the reason;
* a job that returned is `completed` while the session is open, `cancelled` or
  `closed` otherwise;
* a failure, or a job that gave up, is broadcast and ends `failed`.

Supervisors move one step at a time and in any order; a step that is not
possible yet is `none`.
-/
import RowBridge.Schedule.Worker

namespace RowBridge.Schedule.Worker

variable {J : Type} [ScanJob J]

def statusOfReturn : Option ClosureReason → TaskStatus
  | none => .completed
  | some .cancelled => .cancelled
  | some reason => .closed reason

def toStage (w : Worker J) (i : Nat) (stage : SupervisorStage) : Worker J :=
  w.onSupervision i fun view => { view with stage := stage }

/-- A supervisor that waits gets a slot, if there is one or none is needed. -/
def assignSlot (w : Worker J) (i : Nat) (task : Task J) : Option (Worker J) :=
  match w.settings.limit with
  | none => some (w.toStage i .admitted)
  | some _ =>
      if (ScanJob.closer task.job).isClosed then some (w.toStage i (.concluding .cancelled))
      else if 0 < w.free then
        some ({ w with free := w.free - 1 }.onSupervision i fun view =>
          { view with stage := .admitted, holdsSlot := true })
      else none

/-- A supervisor with a slot goes on, unless the session has been closed. -/
def lookAgain (w : Worker J) (i : Nat) (task : Task J) : Worker J :=
  if (ScanJob.closer task.job).isClosed then w.toStage i (.concluding .cancelled)
  else w.onSupervision i fun view => { view with stage := .launching, status := .running }

/-- The job is put on a thread. -/
def launch (w : Worker J) (i : Nat) : Worker J := (w.onJob i ScanJob.begin).toStage i .running

def publish (w : Worker J) (task : Task J) (failure : ScanError) : Worker J :=
  { w with failures := w.failures.send ⟨task.id, ScanJob.statement task.job, failure⟩ }

def conclude (w : Worker J) (i : Nat) (task : Task J) (ending : Ending) : Worker J :=
  match failure? ending with
  | none => w.toStage i (.concluding (statusOfReturn (ScanJob.closer task.job).reason))
  | some failure =>
      ((w.onJob i (closeAfter · ending)).publish task failure).toStage i
        (.concluding (.failed failure.text))

def settle (w : Worker J) (i : Nat) (final : TaskStatus) : Worker J :=
  w.onSupervision i fun view => { view with stage := .leaving, status := final }

/-- The slot is given back, and with automatic cleanup the task leaves the table. -/
def leave (w : Worker J) (i : Nat) (view : Supervision) : Worker J :=
  { w with free := if view.holdsSlot then w.free + 1 else w.free }.onSupervision i fun view =>
    { view with
      stage := .ended
      holdsSlot := false
      tracked := view.tracked && !w.settings.autoCleanup }

/-- The next step of the supervisor of a task, if it can make one. -/
def supervise? (w : Worker J) (i : Nat) : Option (Worker J) :=
  match w.task? i with
  | none => none
  | some task =>
      match task.supervision with
      | none => none
      | some view =>
          match view.stage with
          | .spawned => w.assignSlot i task
          | .admitted => some (w.lookAgain i task)
          | .launching => some (w.launch i)
          | .running => (ScanJob.ending? task.job).map (w.conclude i task)
          | .concluding final => some (w.settle i final)
          | .leaving => some (w.leave i view)
          | .ended => none

end RowBridge.Schedule.Worker
