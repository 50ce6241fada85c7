/-
# `RowBridge.Item` — what the queue carries

Between a scan and its consumer stand items: one per mapped row, and one end
marker when the scan ran to its end while the stream was still open.
-/

namespace RowBridge

/-- One entry of the transfer queue. -/
inductive Item (R : Type)
  | value (row : R)
  | finish
  deriving DecidableEq, Repr

namespace Item

variable {R : Type}

def isFinish : Item R → Bool
  | value _ => false
  | finish => true

def toValue? : Item R → Option R
  | value row => some row
  | finish => none

def same [BEq R] : Item R → Item R → Bool
  | value a, value b => a == b
  | finish, finish => true
  | _, _ => false

end Item
end RowBridge
