/-
# `RowBridge.Config.Settings` — the settings of a service

What a service can be told from outside: who it is, how its streams behave, and
which database it reads.  Everything but the name and the address of a database
has a value of its own if nothing is said.  Only the stream settings are
validated.
-/
import RowBridge.Schedule.Setup
import RowBridge.Template

namespace RowBridge

/-- Who the service is. -/
structure ServiceSettings where
  name : String
  logLevel : String
  environment : String
  deriving DecidableEq, Repr

/-- How the streams of the service behave. -/
structure StreamSettings where
  queueSize : Nat
  bufferTimeoutMs : Nat
  maxConcurrentScans : Option Nat
  shutdownTimeoutSecs : Nat
  deriving DecidableEq, Repr

/-- Which database the service reads, and how patiently it connects. -/
structure DatabaseSettings where
  url : String
  maxConnections : Nat
  minConnections : Nat
  connectionTimeoutSecs : Nat
  maxRetries : Nat
  retryDelaySecs : Nat
  deriving DecidableEq, Repr

/-- All settings of a service. -/
structure Settings where
  service : ServiceSettings
  stream : StreamSettings
  database : Option DatabaseSettings
  deriving DecidableEq, Repr

namespace ServiceSettings

def named (name : String) : ServiceSettings := ⟨name, "info", "dev"⟩

end ServiceSettings

namespace StreamSettings

/-- A hundred rows, ten seconds, no bound on scans, five seconds to stop. -/
def default : StreamSettings := ⟨100, 10000, none, 5⟩

def bufferTimeout (s : StreamSettings) : TimeSpan := .ofMillis s.bufferTimeoutMs

def shutdownTimeout (s : StreamSettings) : TimeSpan := .ofSecs s.shutdownTimeoutSecs

/-- The first value that has no meaning, if there is one. -/
def fault? (s : StreamSettings) : Option String :=
  if s.queueSize = 0 then some "stream.queue_size must be greater than zero"
  else if s.bufferTimeoutMs = 0 then some "stream.buffer_timeout_ms must be greater than zero"
  else if s.maxConcurrentScans = some 0 then
    some "stream.max_concurrent_scans must be greater than zero when set"
  else none

def validate (s : StreamSettings) : Except Error Unit :=
  match s.fault? with
  | some text => .error (.validation text)
  | none => .ok ()

def template (s : StreamSettings) : Except Error StreamTemplate :=
  s.validate.bind fun _ => StreamTemplate.validate ⟨s.queueSize, s.bufferTimeout⟩

def worker (s : StreamSettings) : Except Abort Schedule.WorkerSettings :=
  let settings := { Schedule.WorkerSettings.default with shutdownTimeout := s.shutdownTimeout }
  match s.maxConcurrentScans with
  | none => .ok settings
  | some n => Schedule.WorkerSetup.change settings (.maxConcurrency n)

end StreamSettings

namespace DatabaseSettings

/-- The database at an address, with everything else as it is if nothing is said. -/
def ofUrl (url : String) : DatabaseSettings := ⟨url, 50, 5, 10, 5, 2⟩

end DatabaseSettings

namespace Settings

def default : Settings := ⟨.named "rowflux", .default, none⟩

def databaseUrl (s : Settings) : Option String := s.database.map (·.url)

end Settings
end RowBridge
