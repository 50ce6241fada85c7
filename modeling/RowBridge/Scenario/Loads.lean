/-
# `RowBridge.Scenario.Loads` — loading settings, and finding a place for them

A process has a working directory beside its home directory and three base
directories of settings, each of which may hold a settings file, and an
environment.  It loads its settings in one of the ways there are, or asks where
the settings of a service belong.
-/
import RowBridge.Scenario.Disk

namespace RowBridge.Scenario

open Config

/-! ## Loading -/

/-- The files that are there, as they are written. -/
structure WrittenFiles where
  working : Option String
  inBase : Option String
  inSecondBase : Option String
  inThirdBase : Option String

/-- Where the directories of a process are. -/
structure Home where
  root : String

namespace Home

def working (h : Home) : String := joinPath h.root "cwd"

def home (h : Home) : String := joinPath h.root "home"

def told (h : Home) : String := joinPath h.root "xdg"

def bases (h : Home) : List String := [h.told, joinPath h.root "d0", joinPath h.root "d1"]

def disk (h : Home) : Disk := .ofDirectories (h.working :: h.home :: h.bases)

end Home

/-- The files by their paths in the order in which they are written, those in
base directories being for a service. -/
def WrittenFiles.byPath (files : WrittenFiles) (h : Home) (service : String) :
    List (String × String) :=
  ((joinPath h.working fileName, files.working) ::
    (h.bases.map (settingsPath · service)).zip
      [files.inBase, files.inSecondBase, files.inThirdBase]).filterMap fun (path, text) =>
    text.map (path, ·)

/-- A way to load settings. -/
inductive LoadCall
  | fromWorkingFile
  | forService (name : String)
  | builtIn
  deriving DecidableEq, Repr

def surroundings (h : Home) (files : WrittenFiles) (service : String)
    (assignments : List (String × String)) : Surroundings where
  working := h.working
  find := (h.disk.writeAll (files.byPath h service)).find
  bases := h.bases
  vars := Environment.ofAssignments assignments

def runLoad (h : Home) (call : LoadCall) (files : WrittenFiles) (service : String)
    (assignments : List (String × String)) : Except LoadError Settings :=
  let w := surroundings h files service assignments
  match call with
  | .fromWorkingFile => w.loadFrom fileName
  | .forService name => w.loadForService name
  | .builtIn => .ok .default

/-! ## Placing -/

/-- What the process is told about the first base directory. -/
inductive BaseDirectory
  | told
  | untold
  /-- Told by a path that does not start at the root. -/
  | toldRelative
  /-- Told, but a file stands where its directory would have to be made. -/
  | blocked
  deriving DecidableEq, Repr

def BaseDirectory.disk (h : Home) : BaseDirectory → Disk
  | blocked => h.disk.write (joinPath h.told "rowflux") ""
  | _ => h.disk

def BaseDirectory.directories (h : Home) (homeKnown : Bool) (base : BaseDirectory) :
    Directories where
  settings := match base with
    | told => some h.told
    | blocked => some h.told
    | untold => none
    | toldRelative => some "xdg"
  home := if homeKnown then some h.home else none
  accountHome := some "/root"

def runPlace (h : Home) (base : BaseDirectory) (homeKnown : Bool) (service : String) :
    Placement :=
  place (base.directories h homeKnown) (fun path => ((base.disk h).make? path).isSome) service

end RowBridge.Scenario
