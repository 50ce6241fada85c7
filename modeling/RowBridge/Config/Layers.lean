/-
# `RowBridge.Config.Layers` — loading settings

Settings come in layers, each laid over the one before: what holds if nothing is
said, a file of the service for the whole machine, its file in the first base
directory that has one, the file `config.toml` of the working directory, and the
environment.  A file that is asked for by name alone is looked for in the
working directory and then in the directories around it.  Settings fit or fail
as a whole; the values for streams are validated last.
-/
import RowBridge.Config.Environment
import RowBridge.Config.Path
import RowBridge.Config.Reader
import RowBridge.Config.Toml.Document

namespace RowBridge

open Config

def ServiceSettings.value (s : ServiceSettings) : Value :=
  .table [
    ("environment", .text s.environment),
    ("log_level", .text s.logLevel),
    ("name", .text s.name)]

def StreamSettings.value (s : StreamSettings) : Value :=
  .table [
    ("buffer_timeout_ms", .unsigned s.bufferTimeoutMs),
    ("max_concurrent_scans", (s.maxConcurrentScans.map .unsigned).getD .absent),
    ("queue_size", .unsigned s.queueSize),
    ("shutdown_timeout_secs", .unsigned s.shutdownTimeoutSecs)]

def DatabaseSettings.value (s : DatabaseSettings) : Value :=
  .table [
    ("connection_timeout_secs", .unsigned s.connectionTimeoutSecs),
    ("max_connections", .unsigned s.maxConnections),
    ("max_retries", .unsigned s.maxRetries),
    ("min_connections", .unsigned s.minConnections),
    ("retry_delay_secs", .unsigned s.retryDelaySecs),
    ("url", .text s.url)]

def Settings.fields (s : Settings) : List (String × Value) :=
  [("database", (s.database.map (·.value)).getD .absent),
    ("service", s.service.value),
    ("stream", s.stream.value)]

namespace Config

def builtIn : Tree := .branch .defaults (Tree.ofFields .defaults Settings.default.fields)

/-- A settings file: how messages name it, and what is written in it. -/
structure File where
  shown : String
  text : String
  deriving DecidableEq, Repr

def File.tree (f : File) : Except LoadError Tree :=
  match Toml.read? f.text with
  | some fields => .ok (.branch (.file f.shown) (Tree.ofFields (.file f.shown) fields))
  | none => .error (.unreadable f.shown)

def overlay (layers : List Tree) : Tree := layers.foldl Tree.merge builtIn

/-- The settings that a tree says, if they have a meaning. -/
def settle (t : Tree) : Except LoadError Settings :=
  match Settings.ofTree t with
  | .error fault => .error (.unfit fault)
  | .ok s =>
      match s.stream.validate with
      | .error e => .error (.refused e)
      | .ok () => .ok s

/-- Loads the settings that files say, the less important first, under the
environment.  Reading the environment has to come back before a file is
missed. -/
def load (files : List File) (vars : List (String × String)) : Except LoadError Settings :=
  ((Environment.tree vars).mapError .aborted).bind fun environment =>
    (files.mapM File.tree).bind fun layers => settle (overlay (layers ++ [environment]))

/-- What stands at a path. -/
inductive Entry
  | file (text : String)
  | directory
  deriving DecidableEq, Repr

/-- What a process finds when it looks for settings. -/
structure Surroundings where
  working : String
  find : String → Option Entry
  /-- The base directories of settings, in the order in which they are searched. -/
  bases : List String
  vars : List (String × String)

namespace Surroundings

def stands (w : Surroundings) (path : String) : Bool := (w.find path).isSome

def file? (w : Surroundings) (path : String) : Option File :=
  match w.find path with
  | some (.file text) => some ⟨shownFrom w.working path, text⟩
  | _ => none

/-- The file of a name in the working directory, or else in the nearest
directory around it. -/
def nearestFile? (w : Surroundings) (name : String) : Option File :=
  (withAncestors w.working).findSome? fun directory => w.file? (joinPath directory name)

/-- The file of the working directory; where nothing of its name stands none is
looked for. -/
def workingFile? (w : Surroundings) : Option File :=
  if w.stands (joinPath w.working fileName) then w.nearestFile? fileName else none

/-- The file of a service in the first base directory where something of its
name stands. -/
def serviceFile? (w : Surroundings) (service : String) : Option File :=
  ((w.bases.map (settingsPath · service)).find? w.stands).bind w.file?

def machineFile? (w : Surroundings) (service : String) : Option File :=
  w.file? (settingsPath machineBase service)

def loadForService (w : Surroundings) (service : String) : Except LoadError Settings :=
  load ((w.machineFile? service).toList ++ (w.serviceFile? service).toList ++
    w.workingFile?.toList) w.vars

/-- Loads settings from the nearest file of a name, which may be missing, and
the environment. -/
def loadFrom (w : Surroundings) (name : String) : Except LoadError Settings :=
  load (w.nearestFile? name).toList w.vars

end Surroundings
end Config
end RowBridge
