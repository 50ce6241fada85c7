/-
# `RowBridge.Log` — what the library reports about itself

An event has a severity, the component it comes from, a message and named
fields.  Components are named by paths; a subscriber selects events by severity
and path (`RowBridge.Filter`).
-/

namespace RowBridge

/-- How severe an event is. -/
inductive Level
  | error
  | warn
  | info
  | debug
  | trace
  deriving DecidableEq, Repr

namespace Level

def text : Level → String
  | error => "ERROR"
  | warn => "WARN"
  | info => "INFO"
  | debug => "DEBUG"
  | trace => "TRACE"

/-- How much a subscriber has to ask for to see events of this severity. -/
def verbosity : Level → Nat
  | error => 1
  | warn => 2
  | info => 3
  | debug => 4
  | trace => 5

end Level

/-- The component an event comes from. -/
inductive Component
  | observability
  | session
  | producer
  | scheduler
  | database
  deriving DecidableEq, Repr

def Component.path : Component → String
  | .observability => "rowflux::observability"
  | .session => "rowflux::stream::session"
  | .producer => "rowflux::stream::producer"
  | .scheduler => "rowflux::scheduler"
  | .database => "rowflux::database"

/-- The value of a field. -/
inductive FieldValue
  | text (value : String)
  | number (value : Nat)
  deriving DecidableEq, Repr

/-- An event with its fields in the order in which they were given. -/
structure LogEvent where
  level : Level
  component : Component
  message : String
  fields : List (String × FieldValue)
  deriving DecidableEq, Repr

/-- Whether the event has a field of this name; its message counts as one. -/
def LogEvent.hasField (event : LogEvent) (name : String) : Bool :=
  name == "message" || event.fields.any (·.1 == name)

end RowBridge
