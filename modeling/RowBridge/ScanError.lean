/-
# `RowBridge.ScanError` — failures of a row source

A failure has a kind, a message and possibly the statement that was being
scanned.  Three of the kinds mean that the source went away rather than that the
query is wrong; such a failure is *transient* and closes a stream quietly.
-/
import RowBridge.Text.Record

namespace RowBridge

/-- The kind of failure of a row source. -/
inductive ScanErrorKind
  | connectionClosed
  | resourceFailure
  | uncategorized
  | queryFailed
  | typeConversion
  | configuration
  | other
  deriving DecidableEq, Repr

namespace ScanErrorKind

def text : ScanErrorKind → String
  | connectionClosed => "connection_closed"
  | resourceFailure => "resource_failure"
  | uncategorized => "uncategorized"
  | queryFailed => "query_failed"
  | typeConversion => "type_conversion"
  | configuration => "configuration"
  | other => "other"

def label : ScanErrorKind → String
  | connectionClosed => "ConnectionClosed"
  | resourceFailure => "ResourceFailure"
  | uncategorized => "Uncategorized"
  | queryFailed => "QueryFailed"
  | typeConversion => "TypeConversion"
  | configuration => "Configuration"
  | other => "Other"

def isTransient : ScanErrorKind → Bool
  | connectionClosed | resourceFailure | uncategorized => true
  | _ => false

end ScanErrorKind

/-- A failure of a row source. -/
structure ScanError where
  kind : ScanErrorKind
  message : String
  statement : Option String
  deriving DecidableEq, Repr

namespace ScanError

def plain (kind : ScanErrorKind) (message : String) : ScanError :=
  ⟨kind, message, none⟩

/-- The failure with the statement that was being scanned, in place of any it
had. -/
def withStatement (e : ScanError) (statement : String) : ScanError :=
  { e with statement := some statement }

def isTransient (e : ScanError) : Bool := e.kind.isTransient

def text (e : ScanError) : String :=
  "Scan " ++ e.kind.text ++ " error: " ++ e.message ++
    match e.statement with
    | none => ""
    | some statement => " [statement: " ++ statement ++ "]"

def shown (e : ScanError) : String :=
  Text.record "ScanError"
    [("kind", e.kind.label), ("message", Text.quoted e.message),
      ("statement", Text.optional Text.quoted e.statement)] .whole

end ScanError
end RowBridge
