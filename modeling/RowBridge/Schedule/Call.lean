/-
# `RowBridge.Schedule.Call` — waiting for tasks

Cancelling a task, joining it and shutting the worker down all wait for
supervisors to end, by means of a handle that each supervisor has once.  A
caller takes the handle of the task it waits for; who finds none does not wait.
A caller that cancels keeps others from the handle while it waits, and gives up
when its time is over; a caller that joins waits as long as it takes.

A call is under way in the worker's `calls` and moves one step at a time, like a
supervisor.
-/
import RowBridge.Schedule.Worker

namespace RowBridge.Schedule.Worker

variable {J : Type} [ScanJob J]

def closeTask (w : Worker J) (i : Nat) (reason : ClosureReason) : Worker J :=
  w.onJob i fun job => ScanJob.close job reason

def enroll (w : Worker J) (purpose : Purpose) (tasks : List Nat) : Worker J :=
  { w with calls := w.calls ++ [⟨purpose, tasks, false⟩] }

def startJoin (w : Worker J) (i : Nat) : Worker J := w.enroll .join [i]

def startCancel (w : Worker J) (i : Nat) : Worker J :=
  (w.closeTask i .cancelled).enroll .cancel [i]

def trackedPositions (w : Worker J) : List Nat :=
  (List.range w.tasks.length).filter fun i =>
    (w.supervision? i).elim false fun view => view.tracked

/-- Closes the worker, closes the sessions of all tracked tasks, and starts to
wait for them. -/
def startShutdown (w : Worker J) : Worker J :=
  let tracked := w.trackedPositions
  let w := { w with stopping := true }
  (tracked.foldl (fun w i => w.closeTask i .cancelled) w).enroll .shutdown tracked

def setCall (w : Worker J) (k : Nat) (call : Call) : Worker J :=
  { w with calls := w.calls.set k call }

def passOn (w : Worker J) (k : Nat) (call : Call) (rest : List Nat) : Worker J :=
  w.setCall k { call with remaining := rest, holding := false }

/-- A call lets go of the handle it held and turns to the next task. -/
def letGo (w : Worker J) (k : Nat) (call : Call) (i : Nat) (rest : List Nat) : Worker J :=
  (w.onSupervision i fun view =>
    { view with locked := view.locked && !call.isTimed }).passOn k call rest

/-- A call takes the handle of a task; who finds none turns to the next task. -/
def takeHandle (w : Worker J) (k : Nat) (call : Call) (i : Nat) (view : Supervision)
    (rest : List Nat) : Worker J :=
  if view.handle then
    (w.onSupervision i fun view =>
      { view with handle := false, locked := call.isTimed }).setCall k
        { call with holding := true }
  else w.passOn k call rest

/-- The next step of a call, if it can make one; `expired` says whether its time
is over. -/
def wait? (expired : Bool) (w : Worker J) (k : Nat) : Option (Worker J) :=
  match w.calls[k]? with
  | none => none
  | some call =>
      match call.remaining with
      | [] => none
      | i :: rest =>
          match w.supervision? i with
          | none => some (w.passOn k call rest)
          | some view =>
              if call.holding then
                if view.stage = .ended || (expired && call.isTimed) then
                  some (w.letGo k call i rest)
                else none
              else if view.locked then none
              else some (w.takeHandle k call i view rest)

def isOver (w : Worker J) (k : Nat) : Bool :=
  (w.calls[k]?).elim true Call.isOver

/-- A caller stops waiting; the handle it held is lost. -/
def abandon (w : Worker J) (k : Nat) : Worker J :=
  match w.calls[k]? with
  | none => w
  | some call =>
      match call.remaining with
      | [] => w
      | i :: _ =>
          if call.holding then w.letGo k call i []
          else w.passOn k call []

end RowBridge.Schedule.Worker
