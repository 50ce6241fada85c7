/-
# `RowBridge.Scenario.Subscriptions` — a stream read to its end

The stream is polled on behalf of a subscriber.  Whenever it has nothing, its
row source hands over the next row, and after the last one returns; so no
deadline passes and no row overtakes a poll.
-/
import RowBridge.Scenario.Stage
import RowBridge.Subscriber

namespace RowBridge.Scenario

open Schedule

/-- A subscription with the stage of its stream and what the source still has. -/
structure SubscriptionRun (Row R σ : Type) where
  stage : Stage Row R
  memory : σ
  delivered : Nat
  ended : Bool
  remaining : List Row
  handed : Nat
  ending : Ending

namespace SubscriptionRun

variable {Row R σ : Type}

def subscription (run : SubscriptionRun Row R σ) : Subscription Row R σ :=
  ⟨run.stage.stream, run.memory, run.delivered, run.ended⟩

/-- The run after its subscriber was told what a poll gave. -/
def tell (subscriber : Subscriber R σ) (run : SubscriptionRun Row R σ) (next : Next R) :
    SubscriptionRun Row R σ :=
  let told := Subscription.react subscriber run.subscription next
  { run with
    stage := (run.stage.onStream fun _ => told.stream).rest
    memory := told.memory
    delivered := told.delivered
    ended := told.ended }

/-- The row source hands over a row or returns, if it is waiting for orders. -/
def feed (run : SubscriptionRun Row R σ) : SubscriptionRun Row R σ :=
  if run.stage.scan.isIdle then
    match run.remaining with
    | [] => { run with stage := run.stage.conclude run.ending }
    | row :: rest =>
        { run with
          stage := run.stage.offer row run.handed, handed := run.handed + 1, remaining := rest }
  else run

/-- One poll, and a row from the source if it found nothing. -/
def step (subscriber : Subscriber R σ) (run : SubscriptionRun Row R σ) :
    SubscriptionRun Row R σ :=
  if run.ended then run
  else
    let polled := run.stage.poll true
    let run := tell subscriber { run with stage := polled.1 } polled.2
    match polled.2 with
    | .pending => run.feed
    | _ => run

def drive (subscriber : Subscriber R σ) : Nat → SubscriptionRun Row R σ → SubscriptionRun Row R σ
  | 0, run => run
  | bound + 1, run => if run.ended then run else drive subscriber bound (step subscriber run)

def bound (rows : List Row) : Nat := 2 * rows.length + 8

def readAll (subscriber : Subscriber R σ) (memory : σ) (stage : Stage Row R) (rows : List Row)
    (ending : Ending) : SubscriptionRun Row R σ :=
  drive subscriber (bound rows) ⟨stage, memory, 0, false, rows, 0, ending⟩

end SubscriptionRun

/-! ## A recording subscriber -/

/-- The terminal signal a subscriber was told of. -/
inductive Signal
  | complete
  | failed (error : Error)
  deriving DecidableEq, Repr

/-- What a recording subscriber remembers; the latest row comes first. -/
structure Recording (R : Type) where
  rows : List R
  signals : List Signal

def recordRow {R : Type} (limit : Option Nat) (row : R) (m : Recording R) : Demand × Recording R :=
  let m := { m with rows := row :: m.rows }
  match limit with
  | none => (.more, m)
  | some limit => (if limit ≤ m.rows.length then .cancel else .more, m)

/-- Records rows and, unless it is quiet, the terminal signal. -/
def recorder {R : Type} (limit : Option Nat) (quiet : Bool) : Subscriber R (Recording R) :=
  if quiet then .ofRows (recordRow limit)
  else
    { onNext := recordRow limit
      onComplete := fun m => { m with signals := m.signals ++ [.complete] }
      onError := fun error m => { m with signals := m.signals ++ [.failed error] } }

/-- How a subscription is set up. -/
structure SubscriptionPlan where
  limit : Option Nat
  cancelFirst : Bool
  quiet : Bool
  ending : Ending

/-- What reading a stream to its end shows. -/
structure SubscriptionReport (R : Type) where
  delivered : Nat
  rows : List R
  signals : List Signal
  /-- The failures reported, unless the subscriber has all the rows it wants. -/
  failures : Option (List ScanError)

/-- Whether a subscriber wants no more than these rows; then nothing is told of
failures, because they may come before or after the stream is cancelled. -/
def SubscriptionPlan.isServed {R : Type} (plan : SubscriptionPlan) (rows : List R) : Bool :=
  plan.limit.any (· ≤ rows.length)

/-- Reads a stream with a recording subscriber and a failure hook. -/
def runSubscription {Row R : Type} (stream : RowStream Row R) (rows : List Row)
    (plan : SubscriptionPlan) : SubscriptionReport R :=
  let stream := if plan.cancelFirst then stream.close .cancelled else stream
  let run := SubscriptionRun.readAll (recorder plan.limit plan.quiet) ⟨[], []⟩
    (.fresh stream (.elastic (.fresh true))) rows plan.ending
  { delivered := run.delivered
    rows := run.memory.rows.reverse
    signals := run.memory.signals
    failures :=
      if plan.isServed run.memory.rows then none else some (run.stage.failures.map (·.error)) }

end RowBridge.Scenario
