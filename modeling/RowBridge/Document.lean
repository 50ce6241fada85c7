/-
# `RowBridge.Document` — values without a schema

A row, a bound document and a mapped value are of one dynamic type: nothing, a
truth value, a whole number, a text, a list, or an object.  The fields of an
object stand in ascending order of their names, each name once, so two documents
are equal exactly when they are built alike.
-/

namespace RowBridge

/-- A value without a schema. -/
inductive Document
  | null
  | bool (value : Bool)
  | int (value : Int)
  | text (value : String)
  | list (items : List Document)
  | object (fields : List (String × Document))
  deriving Inhabited

namespace Document

mutual

def same : Document → Document → Bool
  | .null, .null => true
  | .bool a, .bool b => a == b
  | .int a, .int b => a == b
  | .text a, .text b => a == b
  | .list a, .list b => sameItems a b
  | .object a, .object b => sameFields a b
  | _, _ => false

def sameItems : List Document → List Document → Bool
  | [], [] => true
  | a :: as, b :: bs => same a b && sameItems as bs
  | _, _ => false

def sameFields : List (String × Document) → List (String × Document) → Bool
  | [], [] => true
  | (m, a) :: as, (n, b) :: bs => m == n && same a b && sameFields as bs
  | _, _ => false

end

instance : BEq Document := ⟨same⟩

end Document
end RowBridge
