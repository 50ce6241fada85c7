/-
# `RowBridge.Config.Tree` — what all sources say together

A tree is a table whose values know where they were said.  Sources are laid over
each other, the less important first: where both have a table the two are merged
field by field, anywhere else the more important one replaces what was there.  A
merged table counts as said by the more important of its two sources.
-/
import RowBridge.Config.Value

namespace RowBridge.Config

/-- Values with the source of each. -/
inductive Tree
  | leaf (source : Source) (value : Value)
  | branch (source : Source) (fields : List (String × Tree))

namespace Tree

def source : Tree → Source
  | leaf source _ => source
  | branch source _ => source

def fields : Tree → List (String × Tree)
  | leaf _ _ => []
  | branch _ fields => fields

def describe : Tree → String
  | leaf _ value => value.describe
  | branch _ _ => "map"

mutual

def ofValue (source : Source) : Value → Tree
  | .table fields => .branch source (ofFields source fields)
  | value => .leaf source value

def ofFields (source : Source) : List (String × Value) → List (String × Tree)
  | [] => []
  | (name, value) :: rest => (name, ofValue source value) :: ofFields source rest

end

/-- The fields with the one of this name made anew by `lay` from the fields it
had. -/
def layField (name : String) (lay : List (String × Tree) → Tree) : List (String × Tree) →
    List (String × Tree)
  | [] => [(name, lay [])]
  | (n, t) :: rest =>
      if name < n then (name, lay []) :: (n, t) :: rest
      else if n = name then (n, lay t.fields) :: rest
      else (n, t) :: layField name lay rest

mutual

def laidOn : Tree → List (String × Tree) → Tree
  | leaf source value, _ => leaf source value
  | branch source above, below => branch source (layFields above below)

def layFields : List (String × Tree) → List (String × Tree) → List (String × Tree)
  | [], below => below
  | (name, t) :: above, below => layFields above (layField name (laidOn t) below)

end

def merge (below above : Tree) : Tree := above.laidOn below.fields

end Tree
end RowBridge.Config
