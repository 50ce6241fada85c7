/-
# `RowBridge.Text.Record` — records and optional values in messages

The one-line form in which a value of a structure is shown: its name, then its
fields between braces in declaration order.  A record that keeps some of its
fields to itself ends in `..`.
-/
import RowBridge.Text.Quoted

namespace RowBridge.Text

/-- Whether a record shows all of its fields. -/
inductive Extent
  | whole
  | partly
  deriving DecidableEq, Repr

/-- What stands between the braces: the shown fields, then the mark of the
hidden ones. -/
def recordParts (fields : List (String × String)) (extent : Extent) : List String :=
  fields.map (fun field => field.1 ++ ": " ++ field.2) ++
    match extent with
    | .whole => []
    | .partly => [".."]

def record (name : String) (fields : List (String × String)) (extent : Extent) : String :=
  match recordParts fields extent with
  | [] => name
  | parts => name ++ " \x7b " ++ String.intercalate ", " parts ++ " \x7d"

def tagged (tag inner : String) : String :=
  tag ++ "(" ++ inner ++ ")"

def optional {α : Type} (showValue : α → String) : Option α → String
  | none => "None"
  | some value => tagged "Some" (showValue value)

def truth (b : Bool) : String :=
  if b then "true" else "false"

end RowBridge.Text
