/-
# `RowBridge.Config.Environment` — settings in the environment of the process

A variable whose name starts with `ROWFLUX_`, in letters of either case, says
one setting.  The rest of the name is the path of the setting, with two
underscores or a point between two names; case does not matter.  A variable with
an empty name in its path says nothing.  Later variables are laid over earlier
ones.
-/
import RowBridge.Config.Shorthand
import RowBridge.Config.Tree

namespace RowBridge.Config.Environment

open Text

/-- The variables of a process: setting one anew leaves it in its place. -/
def setVariable (name value : String) : List (String × String) → List (String × String)
  | [] => [(name, value)]
  | (n, v) :: rest =>
      if n = name then (n, value) :: rest else (n, v) :: setVariable name value rest

def ofAssignments (assignments : List (String × String)) : List (String × String) :=
  assignments.foldl (fun vars (name, value) => setVariable name value vars) []

def namePrefix : List Char := "ROWFLUX_".toList

def pointed : List Char → List Char
  | '_' :: '_' :: rest => '.' :: pointed rest
  | c :: rest => c :: pointed rest
  | [] => []

def splitPoints : List Char → List (List Char)
  | [] => [[]]
  | c :: rest =>
      match c, splitPoints rest with
      | '.', names => [] :: names
      | c, name :: names => (c :: name) :: names
      | c, [] => [[c]]

/-- The path of the setting that a variable says. -/
def path? (name : String) : Option (List String) :=
  let name := trimBlanks name.toList
  if (name.take namePrefix.length).map Char.toUpper = namePrefix then
    let path := splitPoints (trimBlanks (pointed (name.drop namePrefix.length)))
    if path.contains [] then none
    else some (path.map fun segment => String.ofList (segment.map Char.toLower))
  else none

def nested (v : Value) : List String → Tree
  | [] => .ofValue .environment v
  | name :: path => .branch .environment [(name, nested v path)]

def addVariable (t : Tree) (name value : String) : Except Abort Tree :=
  match path? name with
  | some path => (Shorthand.read value).map fun v => t.merge (nested v path)
  | none => .ok t

def tree (vars : List (String × String)) : Except Abort Tree :=
  vars.foldlM (fun t (name, value) => addVariable t name value) (.branch .environment [])

end RowBridge.Config.Environment
