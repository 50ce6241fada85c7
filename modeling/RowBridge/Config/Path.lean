/-
# `RowBridge.Config.Path` — where settings files are

The settings of a service are in the file `config.toml` of a directory of its
name, which is in the directory `rowflux` of a base directory.  The first base
directory is the one that the process is told, if its path starts at the root,
and otherwise `.config` in the home directory; a process that is not told its
home directory has the one of its account.
-/

namespace RowBridge.Config

/-- A path below another one; a path that starts at the root stands for itself. -/
def joinPath (base below : String) : String :=
  if below.startsWith "/" then below
  else if base.isEmpty || base.endsWith "/" then base ++ below
  else base ++ "/" ++ below

/-- What a path has between its slashes. -/
def pieces (path : String) : List String := (path.toList.splitOn '/').map String.ofList

def segments (path : String) : List String :=
  (pieces path).filter fun piece => piece ≠ "" ∧ piece ≠ "."

def fromRoot (names : List String) : String := "/" ++ "/".intercalate names

/-! ## Seen from a directory -/

/-- What is left of two lists behind what they have in common at their start. -/
def dropCommon : List String → List String → List String × List String
  | a :: as, b :: bs => if a = b then dropCommon as bs else (a :: as, b :: bs)
  | as, bs => (as, bs)

/-- The names along a way from one directory to what a path from the root leads
to. -/
def wayFrom (directory path : List String) : List String :=
  match dropCommon path directory with
  | (down, up) => up.map (fun _ => "..") ++ down

/-- A path from the root as it is shown to someone in a directory: the way from
there, if it has fewer names than the path, which has one for the root. -/
def shownFrom (directory path : String) : String :=
  let way := wayFrom (segments directory) (segments path)
  if way.length < (segments path).length + 1 then "/".intercalate way else path

def withAncestors (directory : String) : List String :=
  let names := segments directory
  (List.range (names.length + 1)).map fun k => fromRoot (names.take (names.length - k))

/-! ## Places of settings -/

def fileName : String := "config.toml"

def machineBase : String := "/etc"

def serviceFile (service : String) : String := joinPath service fileName

def settingsPath (base service : String) : String :=
  joinPath (joinPath base "rowflux") (serviceFile service)

def directoryOf (path : String) : String :=
  "/".intercalate (pieces path).dropLast

/-- What a process is told about its directories. -/
structure Directories where
  settings : Option String
  home : Option String
  /-- The home directory of the account that the process runs under. -/
  accountHome : Option String
  deriving DecidableEq, Repr

namespace Directories

def underHome (d : Directories) : Option String :=
  (d.home <|> d.accountHome).map (joinPath · ".config")

def base? (d : Directories) : Option String :=
  match d.settings with
  | some path => if path.startsWith "/" then some path else d.underHome
  | none => d.underHome

end Directories

/-- Where the settings of a service belong. -/
structure Placement where
  path : String
  prepared : Bool
  deriving DecidableEq, Repr

/-- The place in the home directory that the process is told, where nothing is
made. -/
def placeAtHome (d : Directories) (service : String) : Placement :=
  ⟨joinPath (joinPath (d.home.getD "~") ".config/rowflux") (serviceFile service), false⟩

/-- Finds the place for the settings of a service; `prepare` tells which
directories can be made. -/
def place (d : Directories) (prepare : String → Bool) (service : String) : Placement :=
  match d.base?.map (settingsPath · service) with
  | some path =>
      if prepare (directoryOf path) then ⟨path, true⟩ else placeAtHome d service
  | none => placeAtHome d service

end RowBridge.Config
