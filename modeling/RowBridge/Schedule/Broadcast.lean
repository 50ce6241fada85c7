/-
# `RowBridge.Schedule.Broadcast` — one sender, many listeners

Every message goes to every listener that was there when it was sent.  A
listener reads at its own pace; the channel keeps the latest 64 messages, and a
listener that falls further behind is told how many it missed and goes on with
the oldest one kept.
-/

namespace RowBridge.Schedule

/-- What a listener reads. -/
inductive Heard (α : Type)
  | message (message : α)
  | lagged (count : Nat)
  deriving DecidableEq, Repr

/-- A channel: all that was sent, and for every listener how much of it lies
behind. -/
structure Broadcast (α : Type) where
  sent : List α
  listeners : List (String × Nat)

namespace Broadcast

variable {α : Type}

def capacity : Nat := 64

def silent : Broadcast α := ⟨[], []⟩

def send (b : Broadcast α) (message : α) : Broadcast α :=
  { b with sent := b.sent ++ [message] }

/-- Puts a listener at a position, in place of an earlier one of its name. -/
def place (name : String) (position : Nat) : List (String × Nat) → List (String × Nat)
  | [] => [(name, position)]
  | (n, p) :: rest =>
      if n = name then (n, position) :: rest else (n, p) :: place name position rest

def listen (b : Broadcast α) (name : String) : Broadcast α :=
  { b with listeners := place name b.sent.length b.listeners }

def heard (outstanding : List α) : List (Heard α) :=
  let missed := outstanding.length - capacity
  let kept := (outstanding.drop missed).map .message
  if missed = 0 then kept else .lagged missed :: kept

def drain (b : Broadcast α) (name : String) : Option (Broadcast α × List (Heard α)) :=
  match b.listeners.lookup name with
  | none => none
  | some position =>
      some ({ b with listeners := place name b.sent.length b.listeners },
        heard (b.sent.drop position))

end Broadcast
end RowBridge.Schedule
