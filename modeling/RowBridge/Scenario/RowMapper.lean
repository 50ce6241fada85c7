/-
# `RowBridge.Scenario.RowMapper` — the mappers of scripted runs
-/
import RowBridge.Document

namespace RowBridge.Scenario

/-- A mapper of documents. -/
inductive RowMapper
  | identity
  | pair
  | raising (index : Nat)
  deriving DecidableEq, Repr

def RowMapper.apply : RowMapper → Document → Nat → Except String Document
  | identity, row, _ => .ok row
  | pair, row, index => .ok (.list [.int index, row])
  | raising chosen, row, index =>
      if index = chosen then .error ("mapper exploded at " ++ toString index) else .ok row

end RowBridge.Scenario
