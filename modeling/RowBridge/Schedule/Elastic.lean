/-
# `RowBridge.Schedule.Elastic` — a scheduler without bounds

The elastic scheduler puts every job on a thread of its own at once.  A watcher
waits for the job to end; a failure, or a job that gave up, is logged and passed
to the failure hook if there is one.
-/
import RowBridge.Schedule.Job

namespace RowBridge.Schedule

/-- How far a job has come with the elastic scheduler. -/
inductive ElasticStage
  | submitted
  | running
  | reported
  deriving DecidableEq, Repr

/-- A job with the name it has for the scheduler. -/
structure ElasticTask (J : Type) where
  id : String
  job : J
  stage : ElasticStage

/-- The scheduler with the jobs handed to it, in order. -/
structure Elastic (J : Type) where
  hooked : Bool
  tasks : List (ElasticTask J)
  failures : List TaskFailure
  events : List LogEvent

namespace Elastic

variable {J : Type}

def fresh (hooked : Bool) : Elastic J := ⟨hooked, [], [], []⟩

def shown (e : Elastic J) : String :=
  Text.record "ElasticScheduler" [("has_failure_hook", Text.truth e.hooked)] .whole

variable [ScanJob J]

def report (e : Elastic J) (level : Level) (message : String) (fields : List (String × FieldValue)) :
    Elastic J :=
  { e with events := e.events ++ [⟨level, .scheduler, message, fields⟩] }

def schedule (e : Elastic J) (id : String) (job : J) : Elastic J :=
  let e := e.report .debug "Scheduling scan"
    [("task_id", .text id), ("statement", .text (ScanJob.statement job))]
  { e with tasks := e.tasks ++ [⟨id, job, .submitted⟩] }

def setTask (e : Elastic J) (i : Nat) (task : ElasticTask J) : Elastic J :=
  { e with tasks := e.tasks.set i task }

/-- The failure is logged and passed to the hook. -/
def reportFailure (e : Elastic J) (id : String) (job : J) (failure : ScanError) : Elastic J :=
  let e := e.report .error "Scan task failed"
    [("task_id", .text id), ("statement", .text (ScanJob.statement job)),
      ("error", .text failure.text)]
  if e.hooked then { e with failures := e.failures ++ [⟨id, ScanJob.statement job, failure⟩] }
  else e

def conclude (e : Elastic J) (i : Nat) (task : ElasticTask J) (ending : Ending) : Elastic J :=
  let e := e.setTask i { task with job := closeAfter task.job ending, stage := .reported }
  match failure? ending with
  | none => e.report .debug "Scan task finished" [("task_id", .text task.id)]
  | some failure => e.reportFailure task.id task.job failure

/-- The next move of the scheduler on a task, if it has one. -/
def move? (e : Elastic J) (i : Nat) : Option (Elastic J) :=
  match e.tasks[i]? with
  | none => none
  | some task =>
      match task.stage with
      | .submitted => some (e.setTask i { task with job := ScanJob.begin task.job, stage := .running })
      | .running => (ScanJob.ending? task.job).map (e.conclude i task)
      | .reported => none

def onJob (e : Elastic J) (i : Nat) (f : J → J) : Elastic J :=
  match e.tasks[i]? with
  | none => e
  | some task => e.setTask i { task with job := f task.job }

end Elastic
end RowBridge.Schedule
