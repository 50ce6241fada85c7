/-
# `RowBridge.Config.Value` — settings before they have a type

A file or the process environment says values: truth values, numbers, texts,
lists, and tables of named values.  A whole number keeps whether it was written
in a place for signed or for unsigned ones, because messages tell the two apart.
The fields of a table stand in ascending order of their names, each name once.
-/
import RowBridge.Binary64
import RowBridge.Text.Quoted

namespace RowBridge.Config

/-- A value as it was said. -/
inductive Value
  | absent
  | bool (value : Bool)
  | signed (value : Int)
  | unsigned (value : Nat)
  | float (value : Binary64)
  | text (value : String)
  | list (items : List Value)
  | table (fields : List (String × Value))
  deriving Inhabited

/-- Where a value was said. -/
inductive Source
  | defaults
  /-- In a file, named by its path from the working directory. -/
  | file (path : String)
  | environment
  deriving DecidableEq, Repr

/-- The fields with one more, in its place by name; an earlier one of its name
is replaced. -/
def putField {α : Type} (name : String) (value : α) : List (String × α) → List (String × α)
  | [] => [(name, value)]
  | (n, v) :: rest =>
      if name < n then (name, value) :: (n, v) :: rest
      else if n = name then (name, value) :: rest
      else (n, v) :: putField name value rest

/-- Fields in order of their names; of several with one name the last. -/
def sortFields {α : Type} (fields : List (String × α)) : List (String × α) :=
  fields.foldl (fun sorted field => putField field.1 field.2 sorted) []

def Value.describe : Value → String
  | .absent => "unit"
  | .bool b => "bool " ++ if b then "true" else "false"
  | .signed n => "signed int `" ++ toString n ++ "`"
  | .unsigned n => "unsigned int `" ++ toString n ++ "`"
  | .float x => "float `" ++ x.text ++ "`"
  | .text s => "string " ++ Text.quoted s
  | .list _ => "sequence"
  | .table _ => "map"

end RowBridge.Config
