/-
# `RowBridge.Scenario.Disk` — directories and files under a root

A disk is a directory with named entries, which are files or directories again.
A place on it is the list of names that leads there from the root.  A path is
followed name by name; `..` leads back to the directory around, and nothing
leads on from where no directory is.  A name may take 255 bytes and a whole path
4095, and none has a NUL.
-/
import RowBridge.Config.Layers

namespace RowBridge.Scenario

open Config

/-- What stands at a place with all that is within it. -/
inductive Disk
  | file (text : String)
  | directory (entries : List (String × Disk))

namespace Disk

def at? : (place : List String) → Disk → Option Disk
  | [], d => some d
  | name :: rest, directory entries => (entries.lookup name).bind (at? rest)
  | _ :: _, file _ => none

def hasDirectory (d : Disk) (place : List String) : Bool :=
  match d.at? place with
  | some (directory _) => true
  | _ => false

/-- The disk with something else at a place; the directory around it has to be
there. -/
def put? (new : Disk) : (place : List String) → Disk → Option Disk
  | [], _ => some new
  | _ :: _, file _ => none
  | name :: rest, directory entries =>
      match entries.lookup name, rest with
      | some entry, rest => (put? new rest entry).map fun e => directory (putField name e entries)
      | none, [] => some (directory (putField name new entries))
      | none, _ => none

/-! ## Following paths -/

def next (place : List String) (name : String) : List String :=
  if name = ".." then place.dropLast else place ++ [name]

/-- The place at the end of a path, whether something stands there or not. -/
def place? (d : Disk) : (start : List String) → (path : List String) → Option (List String)
  | start, [] => some start
  | start, name :: rest =>
      if d.hasDirectory start then d.place? (next start name) rest else none

def find (d : Disk) (path : String) : Option Entry :=
  ((d.place? [] (segments path)).bind d.at?).map fun
    | file text => .file text
    | directory _ => .directory

/-! ## Making -/

def isPath (path : String) : Bool :=
  !path.contains '\x00' && path.utf8ByteSize ≤ 4095 &&
    (segments path).all (·.utf8ByteSize ≤ 255)

/-- The disk with a directory at a place, if no file stands there. -/
def addDirectory? (d : Disk) (place : List String) : Option Disk :=
  match d.at? place with
  | some (directory _) => some d
  | some (file _) => none
  | none => put? (directory []) place d

def addDirectories? (d : Disk) : (start : List String) → (path : List String) → Option Disk
  | _, [] => some d
  | start, name :: rest =>
      (d.addDirectory? (next start name)).bind (addDirectories? · (next start name) rest)

/-- The disk with the directory of a path, and those on the way to it, if it can
be made. -/
def make? (d : Disk) (path : String) : Option Disk :=
  if isPath path then d.addDirectories? [] (segments path) else none

/-- The disk with a file at a place, unless a directory stands there. -/
def putFile? (d : Disk) (place : List String) (text : String) : Option Disk :=
  if d.hasDirectory place then none else put? (file text) place d

/-- The disk with a file at a path, in a directory that is made for it; an
earlier file is replaced.  Where no file can be made nothing changes. -/
def write (d : Disk) (path text : String) : Disk :=
  ((d.make? (directoryOf path)).bind fun made =>
    (made.place? [] (segments path)).bind (made.putFile? · text)).getD d

def writeAll (d : Disk) (files : List (String × String)) : Disk :=
  files.foldl (fun d (path, text) => d.write path text) d

def ofDirectories (paths : List String) : Disk :=
  paths.foldl (fun d path => (d.make? path).getD d) (directory [])

end Disk
end RowBridge.Scenario
