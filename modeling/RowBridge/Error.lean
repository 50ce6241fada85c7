/-
# `RowBridge.Error` — errors a consumer can see

Loading settings, opening a stream and polling it fail with one type of error.
A failure of the source never reaches a consumer as such: the stream is closed,
and the consumer sees the reason.
-/
import RowBridge.Closer
import RowBridge.ScanError

namespace RowBridge

/-- An error of the library, faults in settings apart. -/
inductive Error
  | closed (reason : ClosureReason)
  | scan (failure : ScanError)
  | validation (text : String)
  /-- The library was used in a way it does not support. -/
  | internal (text : String)
  deriving DecidableEq, Repr

namespace Error

def text : Error → String
  | closed reason => "Database connection is closed: " ++ reason.text
  | scan failure => failure.text
  | validation text => "Validation error: " ++ text
  | internal text => "Internal error: " ++ text

def shown : Error → String
  | closed reason => Text.tagged "Closed" reason.label
  | scan failure => Text.tagged "Scan" failure.shown
  | validation text => Text.tagged "Validation" (Text.quoted text)
  | internal text => Text.tagged "Internal" (Text.quoted text)

def closureReason : Error → Option ClosureReason
  | closed reason => some reason
  | _ => none

end Error
end RowBridge
