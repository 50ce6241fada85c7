/-
# `RowBridge.Scenario.Sessions` — scripted use of one session

A script moves the two halves of a session and its closers.  Besides plain
enqueues, whose deadline passes at once when there is no room, one enqueue may
be left waiting with time enough; it goes on as soon as a later entry lets it.
-/
import RowBridge.Scenario.Settle
import RowBridge.Session.Send

namespace RowBridge.Scenario

/-- Who closes a session. -/
inductive Party
  | producer
  | consumer
  | handle
  deriving DecidableEq, Repr

/-- An entry of a script over a session. -/
inductive SessionStep (R : Type)
  | send (item : Item R)
  | sendWaiting (item : Item R)
  | receive
  | receiveAside
  | close (party : Party) (reason : ClosureReason)
  | cancel
  | dropProducer
  | dropConsumer
  | look

/-- What each half and the closer say about the session; nothing for a half that
is gone. -/
structure SessionView where
  producerClosed : Option Bool
  consumerClosed : Option Bool
  consumerReason : Option ClosureReason
  deriving DecidableEq, Repr

/-- The answer to an entry. -/
inductive SessionReply (R : Type)
  | nothing
  | gone
  | flag (value : Bool)
  | outcome (outcome : SendOutcome)
  | waiting
  | received (received : Received R)
  | view (view : SessionView)

/-- An answer with what can be seen after it. -/
structure SessionEntry (R : Type) where
  reply : SessionReply R
  /-- How the waiting enqueue ended, if it ended with this entry. -/
  released : Option SendOutcome
  woken : Bool
  reason : Option ClosureReason

/-- A session in a scripted run. -/
structure SessionRun (R : Type) where
  runtime : Bool
  session : Session R
  pending : Option (Item R × SendStage)
  events : List LogEvent

namespace SessionRun

variable {R : Type}

def fresh (runtime : Bool) (session : Session R) : SessionRun R := ⟨runtime, session, none, []⟩

def absorb (run : SessionRun R) (step : SendStep R) : SessionRun R :=
  { run with session := step.session, events := run.events ++ step.events }

def outcome? : SendStage → Option SendOutcome
  | .done outcome => some outcome
  | _ => none

def send (run : SessionRun R) (item : Item R) : SessionRun R × SessionReply R :=
  let step := SendStage.run run.runtime true item SendStage.moments run.session .entering
  (run.absorb step, ((outcome? step.stage).map .outcome).getD .waiting)

def sendWaiting (run : SessionRun R) (item : Item R) : SessionRun R × SessionReply R :=
  ({ run with pending := some (item, .entering) }, .waiting)

/-- The waiting enqueue goes on as far as it can. -/
def goOn (run : SessionRun R) : SessionRun R × Option SendOutcome :=
  match run.pending with
  | none => (run, none)
  | some (item, stage) =>
      let step := SendStage.run run.runtime false item SendStage.moments run.session stage
      let run := run.absorb step
      match step.stage with
      | .done outcome => ({ run with pending := none }, some outcome)
      | stage => ({ run with pending := some (item, stage) }, none)

def whileThere (run : SessionRun R) (isGone : Bool)
    (op : SessionRun R → SessionRun R × SessionReply R) : SessionRun R × SessionReply R :=
  if isGone then (run, .gone) else op run

def onSession (run : SessionRun R) (f : Session R → Session R) : SessionRun R :=
  { run with session := f run.session }

def isGone (run : SessionRun R) : Party → Bool
  | .producer => run.session.producerGone
  | .consumer => run.session.consumerGone
  | .handle => false

def receiveBy (receive : Session R → Session R × Received R) (run : SessionRun R) :
    SessionRun R × SessionReply R :=
  let received := receive run.session
  ({ run with session := received.1 }, .received received.2)

def view (run : SessionRun R) : SessionView :=
  let s := run.session
  { producerClosed := if s.producerGone then none else some s.isClosed
    consumerClosed := if s.consumerGone then none else some s.isClosed
    consumerReason := if s.consumerGone then none else s.reason }

def reply (run : SessionRun R) : SessionStep R → SessionRun R × SessionReply R
  | .send item => run.whileThere run.session.producerGone (·.send item)
  | .sendWaiting item => run.whileThere run.session.producerGone (·.sendWaiting item)
  | .receive => run.whileThere run.session.consumerGone (receiveBy Session.poll)
  | .receiveAside => run.whileThere run.session.consumerGone (receiveBy Session.receiveAside)
  | .close party reason =>
      run.whileThere (run.isGone party) fun run =>
        (run.onSession (·.close reason), .flag (!run.session.isClosed))
  | .cancel => run.whileThere run.session.consumerGone fun run =>
      (run.onSession .cancel, .nothing)
  | .dropProducer => (run.onSession .dropProducer, .nothing)
  | .dropConsumer => (run.onSession .dropConsumer, .nothing)
  | .look => (run, .view run.view)

/-- One entry of the script; the waiting enqueue goes on before the run is
looked at. -/
def step (run : SessionRun R) (entry : SessionStep R) : SessionRun R × SessionEntry R :=
  let replied := run.reply entry
  let settled := replied.1.goOn
  (settled.1,
    { reply := replied.2
      released := settled.2
      woken := settled.1.session.bell.rung
      reason := settled.1.session.reason })

end SessionRun

/-- The answers to a script over a session, and the events reported on the way. -/
def runSession {R : Type} (capacity : Nat) (runtime : Bool) (script : List (SessionStep R)) :
    Except Abort (List (SessionEntry R) × List LogEvent) :=
  (Session.open? capacity).map fun session =>
    let ran := runScript SessionRun.step (.fresh runtime session) script
    (ran.2, ran.1.events)

end RowBridge.Scenario
