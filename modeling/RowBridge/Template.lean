/-
# `RowBridge.Template` — how streams are opened

A template carries what the streams of one application have in common: the size
of the queue and how long a scan waits for room.  A single call may override
either.  Neither may be zero.
-/
import RowBridge.RowStream

namespace RowBridge

/-- What the streams of one template have in common. -/
structure StreamTemplate where
  queueSize : Nat
  bufferTimeout : TimeSpan
  deriving DecidableEq, Repr

/-- What one call sets differently. -/
structure StreamOptions where
  customScheduler : Bool
  queueSize : Option Nat
  bufferTimeout : Option TimeSpan
  deriving DecidableEq, Repr

namespace StreamOptions

def none : StreamOptions := ⟨false, Option.none, Option.none⟩

def shown (o : StreamOptions) : String :=
  Text.record "StreamOptions"
    [("custom_scheduler", Text.truth o.customScheduler),
      ("queue_size", Text.optional toString o.queueSize),
      ("buffer_timeout", Text.optional TimeSpan.text o.bufferTimeout)] .whole

end StreamOptions

namespace StreamTemplate

def default : StreamTemplate := ⟨100, .ofMillis 10000⟩

/-- A template is accepted when neither of its values is zero; the queue is
looked at first. -/
def validate (t : StreamTemplate) : Except Error StreamTemplate :=
  if t.queueSize = 0 then .error (.validation "queue size must be greater than 0")
  else if t.bufferTimeout.isZero then
    .error (.validation "buffer timeout must be greater than 0")
  else .ok t

def override (t : StreamTemplate) (o : StreamOptions) : StreamTemplate :=
  ⟨o.queueSize.getD t.queueSize, o.bufferTimeout.getD t.bufferTimeout⟩

def shown (t : StreamTemplate) : String :=
  Text.record "StreamTemplate"
    [("queue_size", toString t.queueSize), ("buffer_timeout", t.bufferTimeout.text)] .partly

/-- What a stream is asked to read and how its rows are mapped. -/
structure Query (Row R : Type) where
  statement : String
  bindings : Bindings
  mapper : Row → Nat → Except String R

variable {Row R : Type}

/-- The scan of a query under this template; a stream runs it on the runtime
that polls. -/
def plan (t : StreamTemplate) (query : Query Row R) : ScanPlan Row R where
  statement := query.statement
  bindings := query.bindings
  mapper := query.mapper
  timeout := t.bufferTimeout
  runtime := true

def stream (t : StreamTemplate) (query : Query Row R) : Except Abort (RowStream Row R) :=
  RowStream.open? (t.plan query) t.queueSize

/-- Opens a stream with the values of a call; values without meaning are refused. -/
def streamWith (t : StreamTemplate) (query : Query Row R) (o : StreamOptions) :
    Except Abort (Except Error (RowStream Row R)) :=
  match (t.override o).validate with
  | .error error => .ok (.error error)
  | .ok t => (t.stream query).map .ok

end StreamTemplate
end RowBridge
