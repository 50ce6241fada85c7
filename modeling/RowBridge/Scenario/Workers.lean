/-
# `RowBridge.Scenario.Workers` — scripted use of a worker

A script hands plain jobs to a worker, lets them go, and cancels, joins and
lists them.  A name that is given to several jobs stands for the latest of them.
After every entry everything that can progress does, tasks in the order of their
submission; a caller that is still waiting then gives up, or is given up if it
joins.
-/
import RowBridge.Scenario.Settle
import RowBridge.Scenario.Streams
import RowBridge.Scenario.Tasks
import RowBridge.Schedule.Setup

namespace RowBridge.Scenario

open Schedule

/-- A job to be handed to a worker. -/
structure WorkerJob where
  name : String
  statement : String
  wait : Wait
  order : JobOrder
  /-- The session is closed before the job is handed over. -/
  closedBefore : Option ClosureReason

/-- An entry of a script over a worker. -/
inductive WorkerStep
  | schedule (job : WorkerJob)
  | release (name : String) (order : Option JobOrder)
  | close (name : String) (reason : ClosureReason)
  | cancel (name : String)
  | join (name : String)
  | has (name : String)
  | listen (name : String)
  | failures (name : String)
  | reports
  | cleanup
  | shutdown

/-- The answer to an entry. -/
inductive WorkerReply
  | nothing
  | flag (value : Bool)
  | status (status : TaskStatus)
  /-- The task had not ended when the caller stopped waiting. -/
  | stillRunning
  | failures (heard : List (Heard TaskFailure))
  | reports (reports : List TaskReport)

/-- An answer with what can be seen after it. -/
structure WorkerEntry where
  reply : WorkerReply
  count : Nat
  running : Nat
  statuses : List (String × Option TaskStatus)
  reasons : List (String × Option ClosureReason)

namespace Workers

abbrev PlainWorker := Worker PlainJob

def moveJob? (i : Nat) (w : PlainWorker) : Option PlainWorker :=
  ((w.task? i).bind (·.job.move?)).map fun job => w.onJob i fun _ => job

/-- The next move of a task: of its supervisor, or of its job. -/
def moveTask? (i : Nat) (w : PlainWorker) : Option PlainWorker :=
  match w.supervise? i with
  | some moved => some moved
  | none => moveJob? i w

def move? (w : PlainWorker) : Option PlainWorker :=
  match firstMove? ((List.range w.tasks.length).map moveTask?) w with
  | some moved => some moved
  | none =>
      firstMove? ((List.range w.calls.length).map fun k w => Worker.wait? false w k) w

def bound (w : PlainWorker) : Nat :=
  12 * (w.tasks.length + 1) + 4 * (w.tasks.length + 1) * (w.calls.length + 1)

def rest (w : PlainWorker) : PlainWorker := settle move? (bound w) w

/-- Lets a call wait in vain as often as needed until it is over. -/
def expire (k : Nat) : Nat → PlainWorker → PlainWorker
  | 0, w => w
  | bound + 1, w =>
      if w.isOver k then w
      else
        match w.wait? true k with
        | none => w
        | some moved => expire k bound (rest moved)

/-- The latest call waits as long as it has time, and is over afterwards. -/
def awaitLatest (w : PlainWorker) : PlainWorker :=
  let rested := rest w
  expire (rested.calls.length - 1) (rested.tasks.length + 1) rested

/-- The job to hand over, its session closed if the script says so. -/
def jobOf (order : WorkerJob) : PlainJob :=
  let job := PlainJob.fresh order.statement order.wait order.order.closes order.order.result
  order.closedBefore.elim job job.close

def schedule (w : PlainWorker) (job : WorkerJob) : PlainWorker := w.schedule job.name (jobOf job)

def release (w : PlainWorker) (name : String) (order : Option JobOrder) : PlainWorker :=
  (w.named? name).elim w fun i =>
    w.onJob i (·.release (order.map fun order => (order.closes, order.result)))

def close (w : PlainWorker) (name : String) (reason : ClosureReason) : PlainWorker × WorkerReply :=
  match w.named? name with
  | none => (w, .flag false)
  | some i =>
      let isOpen := (w.task? i).elim false fun task => !task.job.closer.isClosed
      (w.closeTask i reason, .flag isOpen)

def cancel (w : PlainWorker) (name : String) : PlainWorker × WorkerReply :=
  match w.find? name with
  | none => (w, .flag false)
  | some i => (awaitLatest (w.startCancel i), .flag true)

/-- The status of the task at a position, whether it is tracked or not. -/
def statusAt (w : PlainWorker) (i : Nat) : WorkerReply :=
  (w.supervision? i).elim .nothing fun view => .status view.status

/-- Waits for a task for a short time; the handle of one that did not end in it
is lost. -/
def join (w : PlainWorker) (name : String) : PlainWorker × WorkerReply :=
  match w.find? name with
  | none => (w, .nothing)
  | some i =>
      let waited := rest (w.startJoin i)
      let k := w.calls.length
      if waited.isOver k then (waited, statusAt waited i) else (waited.abandon k, .stillRunning)

def failures (w : PlainWorker) (name : String) : PlainWorker × WorkerReply :=
  match w.failures.drain name with
  | none => (w, .nothing)
  | some (channel, heard) => ({ w with failures := channel }, .failures heard)

def reply (w : PlainWorker) : WorkerStep → PlainWorker × WorkerReply
  | .schedule job => (schedule w job, .nothing)
  | .release name order => (release w name order, .nothing)
  | .close name reason => close w name reason
  | .cancel name => cancel w name
  | .join name => join w name
  | .has name => (w, .flag (w.hasTask name))
  | .listen name => ({ w with failures := w.failures.listen name }, .nothing)
  | .failures name => failures w name
  | .reports => (w, .reports (taskReports w))
  | .cleanup => (w.cleanup, .nothing)
  | .shutdown => (awaitLatest w.startShutdown, .nothing)

def names (w : PlainWorker) : List String := (w.tasks.map (·.id)).eraseDups

/-- Why the session of the task of this name is closed, if it is. -/
def reason? (w : PlainWorker) (name : String) : Option ClosureReason :=
  ((w.named? name).bind w.task?).bind (·.job.closer.reason)

def entry (w : PlainWorker) (reply : WorkerReply) : WorkerEntry where
  reply := reply
  count := w.taskCount
  running := w.runningCount
  statuses := (names w).map fun name => (name, w.status? name)
  reasons := (names w).map fun name => (name, reason? w name)

def step (w : PlainWorker) (s : WorkerStep) : PlainWorker × WorkerEntry :=
  let replied := reply w s
  let rested := rest replied.1
  (rested, entry rested replied.2)

/-- An entry after which nothing is given time to progress and nothing is looked
at. -/
def stepAtOnce (w : PlainWorker) (s : WorkerStep) : PlainWorker := (reply w s).1

/-- Plays a script; entries marked as immediate give no answer. -/
def play : PlainWorker → List (WorkerStep × Bool) → List WorkerEntry
  | _, [] => []
  | w, (s, immediate) :: script =>
      if immediate then play (stepAtOnce w s) script
      else
        let stepped := step w s
        stepped.2 :: play stepped.1 script

end Workers

/-- The answers to a script over a worker that was set up in the given steps. -/
def runWorker (settings : WorkerSettings) (setup : List SetupStep)
    (script : List (WorkerStep × Bool)) : Except Abort (List WorkerEntry) :=
  (WorkerSetup.applyAll ⟨settings, false⟩ setup).map fun ready =>
    Workers.play (.fresh ready.settings) script

end RowBridge.Scenario
