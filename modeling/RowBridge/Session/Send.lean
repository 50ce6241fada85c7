/-
# `RowBridge.Session.Send` — an enqueue and its moments

An enqueue looks at the closer, then waits for a closing, for room, or for its
deadline, whichever comes first, and closes the session if it got no room.
Other parties act between these moments, so an enqueue is a `SendStage` and
`SendStage.advance` takes it one moment further.  Two waits come out at once
only in one order: a closing goes before room, and room before the deadline.

* An enqueue that times out closes the session with `consumerTimeout`.
* An enqueue that finds items refused closes it with `cancelled`.
* Without a runtime to wait in nothing can be enqueued: the session is closed
  with `sourceFailure`.
-/
import RowBridge.Log
import RowBridge.Session

namespace RowBridge

/-- How an enqueue ended. -/
inductive SendOutcome
  | sent
  | timedOut
  /-- The consumer refuses items. -/
  | disconnected
  /-- The session was closed before or during the enqueue. -/
  | closed
  deriving DecidableEq, Repr

/-- The outcome as records name it. -/
def SendOutcome.label : SendOutcome → String
  | sent => "Sent"
  | timedOut => "TimedOut"
  | disconnected => "Disconnected"
  | closed => "Closed"

/-- The moments of an enqueue. -/
inductive SendStage
  /-- Nothing has been looked at. -/
  | entering
  /-- About to look for a closing once more. -/
  | polling
  /-- About to look for room. -/
  | reserving
  /-- Waiting for a closing, for room or for the deadline. -/
  | waiting
  /-- No room was found; the session is about to be closed. -/
  | settling (outcome : SendOutcome)
  | done (outcome : SendOutcome)
  deriving DecidableEq, Repr

/-- The report of an enqueue that has no runtime to wait in. -/
def noRuntimeEvent : LogEvent where
  level := .error
  component := .session
  message := "No tokio runtime available to the stream producer"
  fields := []

/-- What one moment of an enqueue leaves behind. -/
structure SendStep (R : Type) where
  session : Session R
  stage : SendStage
  events : List LogEvent

namespace SendStage

variable {R : Type}

def isDone : SendStage → Bool
  | done _ => true
  | _ => false

/-- Why the session is closed when no room was found. -/
def closing : SendOutcome → Option ClosureReason
  | .timedOut => some .consumerTimeout
  | .disconnected => some .cancelled
  | _ => none

/-- Looks for room, and if there is none for the deadline. -/
def reserve (s : Session R) (item : Item R) (expired : Bool) : Session R × SendStage :=
  if s.refusing then (s, .settling .disconnected)
  else if s.hasRoom then (s.enqueue item, .done .sent)
  else if expired then (s, .settling .timedOut)
  else (s, .waiting)

/-- Whether an enqueue at this stage waits in vain: nothing closed, no room, and
time left. -/
def isStuck (expired : Bool) (s : Session R) : SendStage → Bool
  | waiting => !s.isClosed && !s.refusing && !s.hasRoom && !expired
  | _ => false

/-- One moment of an enqueue; `expired` says whether its deadline has passed. -/
def advance (runtime expired : Bool) (s : Session R) (item : Item R) : SendStage → SendStep R
  | entering =>
      if s.isClosed then ⟨s, .done .closed, []⟩
      else if runtime then ⟨s, .polling, []⟩
      else ⟨s.close .sourceFailure, .done .closed, [noRuntimeEvent]⟩
  | polling => ⟨s, if s.isClosed then .done .closed else .reserving, []⟩
  | reserving =>
      let reserved := reserve s item expired
      ⟨reserved.1, reserved.2, []⟩
  | waiting =>
      if s.isClosed then ⟨s, .done .closed, []⟩
      else
        let reserved := reserve s item expired
        ⟨reserved.1, reserved.2, []⟩
  | settling outcome =>
      match closing outcome with
      | none => ⟨s, .done outcome, []⟩
      | some reason => ⟨s.close reason, .done outcome, []⟩
  | done outcome => ⟨s, .done outcome, []⟩

/-- As many moments as given, nobody else acting in between. -/
def run (runtime expired : Bool) (item : Item R) : Nat → Session R → SendStage → SendStep R
  | 0, s, stage => ⟨s, stage, []⟩
  | moments + 1, s, stage =>
      let first := advance runtime expired s item stage
      let rest := run runtime expired item moments first.session first.stage
      { rest with events := first.events ++ rest.events }

/-- The number of moments after which an undisturbed enqueue is done or has to
wait. -/
def moments : Nat := 5

end SendStage
end RowBridge
