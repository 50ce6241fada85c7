/-
# `RowBridge.Scenario.Daos` — data access objects at work

A repository over rows of an identifier and a name is asked for streams in each
way it offers, and the streams are read to their ends.  A mapper given by the
caller makes `name#index` of a row; the entity of the repository makes
`index:id:name` of it.
-/
import RowBridge.Dao
import RowBridge.Scenario.Subscriptions

namespace RowBridge.Scenario

/-- A row of an identifier and a name. -/
structure OrderRow where
  id : Int
  name : String
  deriving DecidableEq, Repr

/-- The text an order is shown by. -/
structure Order where
  text : String
  deriving DecidableEq, Repr

instance : MapRow OrderRow Order where
  mapRow row index := ⟨toString index ++ ":" ++ toString row.id ++ ":" ++ row.name⟩

def labelRow (row : OrderRow) (index : Nat) : Order :=
  ⟨row.name ++ "#" ++ toString index⟩

/-- The ways to ask for a stream. -/
inductive DaoCall
  | selectStream
  | selectStreamWith
  | findStream
  | findStreamWith
  | findStreamWithMapper
  deriving DecidableEq, Repr

/-- Asks a repository for a stream. -/
def DaoCall.open (call : DaoCall) (repository : Repository OrderRow Order) (statement : String)
    (bindings : Bindings) (options : StreamOptions) :
    Except Abort (Except Error (RowStream OrderRow Order)) :=
  match call with
  | .selectStream => (repository.dao.selectStream statement bindings labelRow).map .ok
  | .selectStreamWith => repository.dao.selectStreamWith statement bindings labelRow options
  | .findStream => (repository.findStream statement bindings).map .ok
  | .findStreamWith => repository.findStreamWith statement bindings options
  | .findStreamWithMapper =>
      (repository.findStreamWithMapper statement bindings labelRow).map .ok

def Recording.error? {R : Type} (m : Recording R) : Option Error :=
  m.signals.findSome? fun
    | .complete => none
    | .failed error => some error

/-- Reads a stream of a repository to its end. -/
def collect (stream : RowStream OrderRow Order) (rows : List OrderRow) :
    Except Error (List String) :=
  let run := SubscriptionRun.readAll (recorder none false) ⟨[], []⟩
    (.fresh stream (.elastic (.fresh false))) rows .ok
  match run.memory.error? with
  | some error => .error error
  | none => .ok (run.memory.rows.reverse.map (·.text))

def DaoCall.run (call : DaoCall) (repository : Repository OrderRow Order) (statement : String)
    (bindings : Bindings) (options : StreamOptions) : Except Abort (Except Error (List String)) :=
  (call.open repository statement bindings options).map fun opened =>
    opened.bind fun stream => collect stream repository.dao.source.rows

def runDao (call : DaoCall) (repository : Repository OrderRow Order) (statement : String)
    (bindings : Bindings) (options : StreamOptions) (times : Nat) :
    Except Abort (List (Except Error (List String))) :=
  (List.range times).mapM fun _ => call.run repository statement bindings options

end RowBridge.Scenario
