/-
# `RowBridge.Config.Toml.Table` — tables as a settings file builds them

A table comes into being by a header, because a header names a table within it,
or because a key with points names a field within it.  Which of these it was
decides what may still be added: a header may open a table that is so far only
implied, never one twice; a key with points may add to tables made by such keys
and go through implied ones, never add to one with a header of its own.  Several
headers in double brackets make a list of tables, and the last of them is the
one that later lines speak of.
-/
import RowBridge.Config.Value

namespace RowBridge.Config.Toml

/-- What a table came into being by. -/
inductive Origin
  | header
  | implied
  | dotted
  deriving DecidableEq, Repr

/-- What stands under a name. -/
inductive Node
  | leaf (value : Value)
  | table (origin : Origin) (fields : List (String × Node))
  /-- A list of tables, the last one apart from those before it, which are in
  reverse order. -/
  | tables (last : List (String × Node)) (before : List (List (String × Node)))

abbrev Fields := List (String × Node)

namespace Fields

/-- Changes the table at the end of a path, and makes the tables on the way that
are missing; `dotted` when the path is the beginning of a key rather than of a
header. -/
def alter (dotted : Bool) (change : Origin → Fields → Option Fields) :
    List String → Origin → Fields → Option Fields
  | [], origin, fields => change origin fields
  | name :: path, _, fields =>
      match fields.lookup name with
      | none => do
        let origin := if dotted then .dotted else .implied
        return putField name (.table origin (← alter dotted change path origin [])) fields
      | some (.leaf _) => none
      | some (.table origin inner) =>
          if dotted ∧ origin = .header then none
          else do return putField name (.table origin (← alter dotted change path origin inner)) fields
      | some (.tables last before) => do
        return putField name (.tables (← alter dotted change path .header last) before) fields

def add? (name : String) (node : Node) (fields : Fields) : Option Fields :=
  if (fields.lookup name).isSome then none else some (putField name node fields)

/-- The path to the table that a key speaks of, and the name in it. -/
def splitKey? (key : List String) : Option (List String × String) :=
  key.getLast?.map fun name => (key.dropLast, name)

def assign? (key : List String) (value : Value) (fields : Fields) : Option Fields := do
  let (path, name) ← splitKey? key
  let change := fun (origin : Origin) fields =>
    if path.isEmpty ∨ origin = .dotted then add? name (.leaf value) fields else none
  alter true change path .header fields

def openTable? (key : List String) (fields : Fields) : Option Fields := do
  let (path, name) ← splitKey? key
  let change := fun (_ : Origin) fields =>
    match fields.lookup name with
    | none => some (putField name (.table .header []) fields)
    | some (.table .implied inner) => some (putField name (.table .header inner) fields)
    | some _ => none
  alter false change path .header fields

/-- Opens one more table of the list that a header in double brackets names. -/
def openNext? (key : List String) (fields : Fields) : Option Fields := do
  let (path, name) ← splitKey? key
  let change := fun (_ : Origin) fields =>
    match fields.lookup name with
    | none => some (putField name (.tables [] []) fields)
    | some (.tables last before) => some (putField name (.tables [] (last :: before)) fields)
    | some _ => none
  alter false change path .header fields

/-- Adds the value of a key to the table that the latest header opened. -/
def assignUnder? (header key : List String) (value : Value) (fields : Fields) : Option Fields :=
  alter false (fun _ fields => assign? key value fields) header .header fields

end Fields

mutual

def Node.value : Node → Value
  | .leaf value => value
  | .table _ fields => .table (fieldValues fields)
  | .tables last before => .list (tableValues before ++ [.table (fieldValues last)])

def fieldValues : List (String × Node) → List (String × Value)
  | [] => []
  | (name, node) :: rest => (name, node.value) :: fieldValues rest

def tableValues : List (List (String × Node)) → List Value
  | [] => []
  | fields :: before => tableValues before ++ [.table (fieldValues fields)]

end

end RowBridge.Config.Toml
