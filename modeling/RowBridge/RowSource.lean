/-
# `RowBridge.RowSource` — where rows come from

A row source runs a statement and hands every row, with its index, to a
callback, in order, on the caller's thread.  The callback answers each row with
a `Flow`; after `stop` a source reads no further.  A scan ends well, with a
failure, or by giving up (`Ending`).

`MemorySource` is the source over rows that are already there.
-/
import RowBridge.ScanError

namespace RowBridge

/-- What a callback wants after a row. -/
inductive Flow
  | proceed
  | stop
  deriving DecidableEq, Repr

/-- How a scan ends. -/
inductive Ending
  | ok
  | failed (failure : ScanError)
  | raised (text : String)
  deriving DecidableEq, Repr

/-- A source of rows held in memory; every statement yields the same rows. -/
structure MemorySource (Row : Type) where
  rows : List Row

namespace MemorySource

variable {Row σ : Type}

/-- Hands rows to the callback, the first under index `start`, until it says
`stop`. -/
def feed (onRow : Row → Nat → σ → Flow × σ) : List Row → Nat → σ → σ
  | [], _, s => s
  | row :: rest, start, s =>
      match onRow row start s with
      | (.stop, s) => s
      | (.proceed, s) => feed onRow rest (start + 1) s

def scan (source : MemorySource Row) (onRow : Row → Nat → σ → Flow × σ) (s : σ) : σ × Ending :=
  (feed onRow source.rows 0 s, .ok)

end MemorySource
end RowBridge
