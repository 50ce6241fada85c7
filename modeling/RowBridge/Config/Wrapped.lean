/-
# `RowBridge.Config.Wrapped` — values that a file wraps in a table

A table with a field of a reserved name stands for the value of that field; its
other fields say nothing.  A second reserved name would tell where the value was
said.  No file can say that, and a file that tries cannot be read.  Both names
are reserved in every table but the outermost one.
-/
import RowBridge.Config.Value

namespace RowBridge.Config

def wrappedField : String := "___figment_value_value"

def originField : String := "___figment_value_id"

/-- The value that a table with these fields stands for, if it can be read. -/
def ofTable? (fields : List (String × Value)) : Option Value :=
  if (fields.lookup originField).isSome then none
  else some ((fields.lookup wrappedField).getD (.table fields))

mutual

def Value.unwrapped? : Value → Option Value
  | .list items => (unwrappedItems? items).map .list
  | .table fields => (unwrappedFields? fields).bind ofTable?
  | v => some v

def unwrappedItems? : List Value → Option (List Value)
  | [] => some []
  | v :: rest => do return (← v.unwrapped?) :: (← unwrappedItems? rest)

def unwrappedFields? : List (String × Value) → Option (List (String × Value))
  | [] => some []
  | (name, v) :: rest => do return (name, ← v.unwrapped?) :: (← unwrappedFields? rest)

end

end RowBridge.Config
