/-
# `RowBridge.Scenario.Tasks` — single tasks, run at once

A plain job is run on its own, or handed to the elastic scheduler and awaited.
-/
import RowBridge.Scenario.Settle
import RowBridge.Schedule.Elastic

namespace RowBridge.Scenario

open Schedule

/-- What is asked of a plain job: to close its session, perhaps, and how to end. -/
structure JobOrder where
  closes : Option ClosureReason
  result : Ending
  deriving DecidableEq, Repr

def JobOrder.job (order : JobOrder) (statement : String) : PlainJob :=
  .fresh statement .nothing order.closes order.result

/-! ## A task of its own -/

/-- What a task shows. -/
structure TaskView where
  statement : String
  record : String
  result : Ending
  reason : Option ClosureReason

def shownTask (job : PlainJob) : String :=
  Text.record "ScanTask"
    [("id", Text.quoted "<id>"), ("statement", Text.quoted job.statement),
      ("closed", Text.optional ClosureReason.label job.closer.reason)] .partly

def runTask (statement : String) (order : JobOrder) (closed : Option ClosureReason) : TaskView :=
  let fresh := order.job statement
  let job := closed.elim fresh fresh.close
  let ran := job.conclude
  ⟨statement, shownTask job, order.result, ran.closer.reason⟩

/-! ## Tasks of the elastic scheduler -/

/-- The next move of the scheduler or of the job at a position. -/
def moveElastic? (i : Nat) (e : Elastic PlainJob) : Option (Elastic PlainJob) :=
  match e.move? i with
  | some moved => some moved
  | none => ((e.tasks[i]?).bind (·.job.move?)).map fun job => e.onJob i fun _ => job

/-- Hands a job to the scheduler and awaits it. -/
def runElasticTask (e : Elastic PlainJob) (task : String × JobOrder) :
    Elastic PlainJob × (Option ClosureReason × List TaskFailure) :=
  let position := e.tasks.length
  let told := e.failures.length
  let e := settle (moveElastic? position) 8 (e.schedule task.1 (task.2.job task.1))
  (e, (e.tasks[position]?).bind (·.job.closer.reason), e.failures.drop told)

def runElastic (hooked : Bool) (tasks : List (String × JobOrder)) :
    Elastic PlainJob × List (Option ClosureReason × List TaskFailure) :=
  runScript runElasticTask (.fresh hooked) tasks

end RowBridge.Scenario
