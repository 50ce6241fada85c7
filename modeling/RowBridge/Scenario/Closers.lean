/-
# `RowBridge.Scenario.Closers` — scripted closing

A script over a growing list of handles.  Handles of one closer share its
reason; a new closer has handles of its own.
-/
import RowBridge.Closer
import RowBridge.Scenario.Settle

namespace RowBridge.Scenario

/-- An entry of a script over handles; handles are named by their position. -/
inductive CloserStep
  | clone (on : Nat)
  | fresh
  | close (on : Nat) (reason : ClosureReason)
  | reason (on : Nat)
  | isClosed (on : Nat)
  deriving DecidableEq, Repr

/-- The answer to an entry. -/
inductive CloserReply
  | handle (position : Nat)
  | flag (value : Bool)
  | reason (value : Option ClosureReason)
  deriving DecidableEq, Repr

/-- The closers, and for every handle the position of its closer. -/
structure Closers where
  closers : List Closer
  handles : List Nat

namespace Closers

def fresh : Closers := ⟨[Closer.fresh], [0]⟩

def closerOf (c : Closers) (handle : Nat) : Closer :=
  c.closers.getD (c.handles.getD handle 0) .fresh

def close (c : Closers) (handle : Nat) (reason : ClosureReason) : Closers :=
  { c with closers := c.closers.modify (c.handles.getD handle 0) (·.close reason) }

def addHandle (c : Closers) (position : Nat) : Closers :=
  { c with handles := c.handles ++ [position] }

def reply (c : Closers) : CloserStep → Closers × CloserReply
  | .clone on => (c.addHandle (c.handles.getD on 0), .handle c.handles.length)
  | .fresh =>
      ({ c with closers := c.closers ++ [Closer.fresh] }.addHandle c.closers.length,
        .handle c.handles.length)
  | .close on reason => (c.close on reason, .flag (!(c.closerOf on).isClosed))
  | .reason on => (c, .reason (c.closerOf on).reason)
  | .isClosed on => (c, .flag (c.closerOf on).isClosed)

def reasons (c : Closers) : List (Option ClosureReason) :=
  (List.range c.handles.length).map fun handle => (c.closerOf handle).reason

def step (c : Closers) (entry : CloserStep) :
    Closers × (CloserReply × List (Option ClosureReason)) :=
  let moved := c.reply entry
  (moved.1, moved.2, moved.1.reasons)

end Closers

def runClosers (script : List CloserStep) : List (CloserReply × List (Option ClosureReason)) :=
  (runScript Closers.step .fresh script).2

end RowBridge.Scenario
