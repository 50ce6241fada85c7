/-
# `RowBridge.Schedule.Worker` — a scheduler that keeps track

A worker runs jobs like the elastic scheduler and keeps track of them: every
accepted task has a status, failures are broadcast, at most so many jobs run at
once, and single tasks or all of them can be cancelled and waited for.

This module holds the state.  A task is known to the worker from the start and
*supervised* once it is accepted; a rejected task is never supervised.  What a
supervisor does is in `RowBridge.Schedule.Supervise`, what callers do is in
`RowBridge.Schedule.Call`.
-/
import RowBridge.Schedule.Broadcast
import RowBridge.Schedule.Job

namespace RowBridge.Schedule

/-- What the worker says about a task. -/
inductive TaskStatus
  | pending
  | running
  | completed
  | closed (reason : ClosureReason)
  | failed (message : String)
  | cancelled
  deriving DecidableEq, Repr

def TaskStatus.isFinished : TaskStatus → Bool
  | pending | running => false
  | _ => true

/-- How far a supervisor has come. -/
inductive SupervisorStage
  /-- It waits for a slot. -/
  | spawned
  /-- It has a slot, or needs none, and is about to look whether the session is
  closed. -/
  | admitted
  /-- The session was found open; the job is about to be put on a thread. -/
  | launching
  /-- The job has been put on a thread. -/
  | running
  /-- The final status is known. -/
  | concluding (final : TaskStatus)
  /-- The final status is written, the slot not yet given back. -/
  | leaving
  | ended
  deriving DecidableEq, Repr

/-- What the worker keeps about an accepted task. -/
structure Supervision where
  stage : SupervisorStage
  status : TaskStatus
  /-- The supervisor holds one of the worker's slots. -/
  holdsSlot : Bool
  /-- The task is in the worker's table. -/
  tracked : Bool
  /-- The handle by which callers wait for the supervisor lies ready. -/
  handle : Bool
  /-- A caller that gives up in time is waiting, and keeps others from the
  handle. -/
  locked : Bool
  deriving DecidableEq, Repr

def Supervision.fresh : Supervision where
  stage := .spawned
  status := .pending
  holdsSlot := false
  tracked := true
  handle := false
  locked := false

/-- A job under the name it has for the worker. -/
structure Task (J : Type) where
  id : String
  job : J
  supervision : Option Supervision

/-- A task with the worker's view of it, if it is in the worker's table. -/
def Task.entry? {J : Type} (task : Task J) : Option (Task J × Supervision) :=
  match task.supervision with
  | none => none
  | some view => if view.tracked then some (task, view) else none

/-- What a caller waits for. -/
inductive Purpose
  | join
  | cancel
  | shutdown
  deriving DecidableEq, Repr

/-- A caller that waits for tasks to end, one after the other. -/
structure Call where
  purpose : Purpose
  /-- The tasks still to be waited for, by position; the first is waited for now. -/
  remaining : List Nat
  /-- The handle of the first has been taken. -/
  holding : Bool
  deriving DecidableEq, Repr

namespace Call

/-- Whether the call keeps others from the handle it holds, and gives up in time. -/
def isTimed (c : Call) : Bool :=
  match c.purpose with
  | .join => false
  | .cancel | .shutdown => true

def isOver (c : Call) : Bool := c.remaining.isEmpty

end Call

/-- The worker's bounds and manners. -/
structure WorkerSettings where
  /-- How many jobs run at once; no bound if absent. -/
  limit : Option Nat
  /-- How long a cancelling caller waits for a task. -/
  shutdownTimeout : TimeSpan
  /-- Tasks leave the table as soon as their supervisor ends. -/
  autoCleanup : Bool
  deriving DecidableEq, Repr

/-- A worker with all it knows. -/
structure Worker (J : Type) where
  settings : WorkerSettings
  /-- Slots nobody holds. -/
  free : Nat
  /-- The worker has been told to shut down. -/
  stopping : Bool
  /-- The tasks in the order in which they became known. -/
  tasks : List (Task J)
  failures : Broadcast TaskFailure
  calls : List Call

namespace Worker

variable {J : Type}

def fresh (settings : WorkerSettings) : Worker J where
  settings := settings
  free := settings.limit.getD 0
  stopping := false
  tasks := []
  failures := .silent
  calls := []

def task? (w : Worker J) (i : Nat) : Option (Task J) := w.tasks[i]?

def supervision? (w : Worker J) (i : Nat) : Option Supervision :=
  (w.task? i).bind (·.supervision)

def setTask (w : Worker J) (i : Nat) (task : Task J) : Worker J :=
  { w with tasks := w.tasks.set i task }

def onJob (w : Worker J) (i : Nat) (f : J → J) : Worker J :=
  match w.task? i with
  | none => w
  | some task => w.setTask i { task with job := f task.job }

def onSupervision (w : Worker J) (i : Nat) (f : Supervision → Supervision) : Worker J :=
  match w.task? i with
  | none => w
  | some task => w.setTask i { task with supervision := task.supervision.map f }

/-! ## The table -/

/-- The tasks in the table, in the order in which they were accepted. -/
def entries (w : Worker J) : List (Task J × Supervision) :=
  w.tasks.filterMap Task.entry?

/-- The position of the last task of this name in a list. -/
def lastNamed? (id : String) : List (Task J) → Option Nat
  | [] => none
  | task :: rest =>
      match lastNamed? id rest with
      | some i => some (i + 1)
      | none => if task.id = id then some 0 else none

/-- The position of the task that a name stands for, in the table or not: the
latest that was given the name. -/
def named? (w : Worker J) (id : String) : Option Nat := lastNamed? id w.tasks

def isTracked (w : Worker J) (i : Nat) : Bool := (w.supervision? i).any (·.tracked)

/-- The position of the task that a name stands for, if it is in the table. -/
def find? (w : Worker J) (id : String) : Option Nat := (w.named? id).filter w.isTracked

def hasTask (w : Worker J) (id : String) : Bool := (w.find? id).isSome

def taskCount (w : Worker J) : Nat := w.entries.length

def runningCount (w : Worker J) : Nat :=
  (w.entries.filter fun entry => entry.2.status = .running).length

def status? (w : Worker J) (id : String) : Option TaskStatus :=
  (w.find? id).bind fun i => (w.supervision? i).map (·.status)

def cleanup (w : Worker J) : Worker J :=
  { w with
    tasks := w.tasks.map fun task =>
      { task with
        supervision := task.supervision.map fun view =>
          { view with tracked := view.tracked && !view.status.isFinished } } }

/-! ## Accepting tasks -/

/-- What becomes of a scan that is handed to the worker. -/
def reception (w : Worker J) : Reception := if w.stopping then .rejected else .accepted

variable [ScanJob J]

/-- A worker that is shutting down closes the session of a task and leaves it
alone. -/
def reject (w : Worker J) (id : String) (job : J) : Worker J :=
  { w with tasks := w.tasks ++ [⟨id, ScanJob.close job .cancelled, none⟩] }

def accept (w : Worker J) (id : String) (job : J) : Worker J :=
  { w with tasks := w.tasks ++ [⟨id, job, some .fresh⟩] }

def submit (w : Worker J) (id : String) (job : J) : Worker J :=
  if w.stopping then w.reject id job else w.accept id job

/-- The handle of a task is laid ready, unless a caller is in the way. -/
def deposit (w : Worker J) (i : Nat) : Worker J :=
  w.onSupervision i fun view => if view.locked then view else { view with handle := true }

/-- Hands a job to the worker and lays its handle ready, nobody else acting in
between. -/
def schedule (w : Worker J) (id : String) (job : J) : Worker J :=
  (w.submit id job).deposit w.tasks.length

end Worker
end RowBridge.Schedule
