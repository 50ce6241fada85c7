/-
# `RowBridge.Observability` — what a process prints about itself

A process prints the events that its filter lets pass.  The filter comes from
the log level of the settings with which logging was first initialised;
initialising it again changes nothing and is not reported, but its filter is
read.  Before the first time nothing is printed.
-/
import RowBridge.Config.Settings
import RowBridge.Filter

namespace RowBridge

/-- The logging of a process: its filter, and what it has printed. -/
structure Logging where
  filter : Option Filter
  printed : List LogEvent
  deriving DecidableEq, Repr

namespace Logging

def off : Logging := ⟨none, []⟩

/-- An event is printed if there is a filter and the event passes it. -/
def log (l : Logging) (event : LogEvent) : Logging :=
  match l.filter with
  | none => l
  | some filter => if filter.passes event then { l with printed := l.printed ++ [event] } else l

def logAll (l : Logging) (events : List LogEvent) : Logging := events.foldl log l

/-- The report of a logging that has just been initialised. -/
def initialized (settings : Settings) : LogEvent where
  level := .info
  component := .observability
  message := "Tracing initialized"
  fields := [("service", .text settings.service.name),
    ("environment", .text settings.service.environment),
    ("queue_size", .number settings.stream.queueSize),
    ("buffer_timeout_ms", .number settings.stream.bufferTimeoutMs)]

def shutDown : LogEvent where
  level := .info
  component := .observability
  message := "Tracing shutdown complete"
  fields := []

def useFilter (l : Logging) (settings : Settings) (filter : Filter) : Logging :=
  match l.filter with
  | some _ => l
  | none => { l with filter := some filter }.log (initialized settings)

def start (l : Logging) (settings : Settings) : Except Abort Logging :=
  (Filter.read settings.service.logLevel).map (l.useFilter settings)

def stop (l : Logging) : Logging := l.log shutDown

end Logging
end RowBridge
