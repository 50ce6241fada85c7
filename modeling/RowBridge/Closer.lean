/-
# `RowBridge.Closer` — why an invocation ended early

An invocation is closed at most once.  A `Closer` holds the reason of the first
closing; every later attempt leaves it as it is and is told so.  All parties to
an invocation (the scan, the consumer, a handle, a worker) share one closer.
-/

namespace RowBridge

/-- Why a streaming invocation was closed before its end marker. -/
inductive ClosureReason
  | cancelled
  /-- The scan found no room for a row within the buffer timeout. -/
  | consumerTimeout
  | transientSourceFailure
  | sourceFailure
  deriving DecidableEq, Repr

namespace ClosureReason

def text : ClosureReason → String
  | cancelled => "cancelled"
  | consumerTimeout => "consumer_timeout"
  | transientSourceFailure => "transient_source_failure"
  | sourceFailure => "source_failure"

def label : ClosureReason → String
  | cancelled => "Cancelled"
  | consumerTimeout => "ConsumerTimeout"
  | transientSourceFailure => "TransientSourceFailure"
  | sourceFailure => "SourceFailure"

end ClosureReason

/-- A reason that is written at most once. -/
structure Closer where
  reason : Option ClosureReason
  deriving DecidableEq, Repr

namespace Closer

def fresh : Closer := ⟨none⟩

def isClosed (c : Closer) : Bool := c.reason.isSome

def close (c : Closer) (reason : ClosureReason) : Closer :=
  match c.reason with
  | none => ⟨some reason⟩
  | some _ => c

/-- The first recorded reason is never replaced. -/
theorem close_of_isClosed (c : Closer) (reason : ClosureReason) (h : c.isClosed = true) :
    c.close reason = c := by
  cases c with
  | mk r => cases r with
    | none => cases h
    | some _ => rfl

/-- Whoever closes, the closer is closed afterwards. -/
theorem isClosed_close (c : Closer) (reason : ClosureReason) :
    (c.close reason).isClosed = true := by
  cases c with
  | mk r => cases r <;> rfl

end Closer
end RowBridge
