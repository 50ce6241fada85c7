/-
# `RowBridge.Bindings` — values bound to statement parameters

A statement is run with named parameters.  `Bindings` keeps them in the order in
which their names were first bound, because some drivers bind by position:
binding a name again replaces the value and leaves the position as it is.

`ToBindValue` says which types can be bound; an absent optional value binds
nothing (`null`).
-/
import RowBridge.Binary64
import RowBridge.Document

namespace RowBridge

/-- A value bound to a statement parameter. -/
inductive BindValue
  | null
  | bool (value : Bool)
  | integer (value : Int)
  | float (value : Binary64)
  | text (value : String)
  | bytes (value : List UInt8)
  | json (value : Document)
  | textList (value : List String)
  | integerList (value : List Int)

namespace BindValue

/-- Equality of values; numbers compare as numbers, so no NaN equals itself. -/
def same : BindValue → BindValue → Bool
  | null, null => true
  | bool a, bool b => a == b
  | integer a, integer b => a == b
  | float a, float b => a.equal b
  | text a, text b => a == b
  | bytes a, bytes b => a == b
  | json a, json b => a == b
  | textList a, textList b => a == b
  | integerList a, integerList b => a == b
  | _, _ => false

/-- The name of the value's type. -/
def typeName : BindValue → String
  | null => "null"
  | bool _ => "bool"
  | integer _ => "integer"
  | float _ => "float"
  | text _ => "text"
  | bytes _ => "bytes"
  | json _ => "json"
  | textList _ => "text_list"
  | integerList _ => "integer_list"

end BindValue

/-- The types whose values can be bound to a parameter. -/
class ToBindValue (α : Type) where
  toBindValue : α → BindValue

export ToBindValue (toBindValue)

instance : ToBindValue BindValue := ⟨id⟩

instance : ToBindValue Bool := ⟨.bool⟩

instance : ToBindValue Int := ⟨.integer⟩

instance : ToBindValue Int32 := ⟨fun n => .integer n.toInt⟩

instance : ToBindValue Binary64 := ⟨.float⟩

instance : ToBindValue String := ⟨.text⟩

instance : ToBindValue (List UInt8) := ⟨.bytes⟩

instance : ToBindValue Document := ⟨.json⟩

instance : ToBindValue (List String) := ⟨.textList⟩

instance : ToBindValue (List Int) := ⟨.integerList⟩

/-- An absent value binds nothing, a present one itself. -/
instance {α : Type} [ToBindValue α] : ToBindValue (Option α) where
  toBindValue
    | none => .null
    | some value => toBindValue value

/-- Named parameters in the order of their first binding. -/
structure Bindings where
  params : List (String × BindValue)

namespace Bindings

def empty : Bindings := ⟨[]⟩

/-- The list with the value under the name: in its place if the name occurs,
else at the end. -/
def upsert (name : String) (value : BindValue) :
    List (String × BindValue) → List (String × BindValue)
  | [] => [(name, value)]
  | (n, v) :: rest => if n = name then (n, value) :: rest else (n, v) :: upsert name value rest

def bind {α : Type} [ToBindValue α] (b : Bindings) (name : String) (value : α) : Bindings :=
  ⟨upsert name (toBindValue value) b.params⟩

def get? (b : Bindings) (name : String) : Option BindValue :=
  (b.params.find? (·.1 == name)).map (·.2)

def toList (b : Bindings) : List (String × BindValue) := b.params

def names (b : Bindings) : List String := b.params.map (·.1)

def values (b : Bindings) : List BindValue := b.params.map (·.2)

def size (b : Bindings) : Nat := b.params.length

def isEmpty (b : Bindings) : Bool := b.params.isEmpty

def ofList (pairs : List (String × BindValue)) : Bindings :=
  pairs.foldl (fun b pair => b.bind pair.1 pair.2) empty

/-- Whether two lists pair the same names with the same values in the same order. -/
def samePairs : List (String × BindValue) → List (String × BindValue) → Bool
  | [], [] => true
  | (m, a) :: as, (n, b) :: bs => m == n && a.same b && samePairs as bs
  | _, _ => false

def same (a b : Bindings) : Bool := samePairs a.params b.params

end Bindings
end RowBridge
