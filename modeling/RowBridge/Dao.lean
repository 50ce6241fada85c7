/-
# `RowBridge.Dao` — data access objects that stream rows

A data access object joins a template with a row source.  A repository is such
an object for one type of entities, which says itself how it is made from a row.
-/
import RowBridge.Template

namespace RowBridge

/-- The types of entities that are made from rows of one type. -/
class MapRow (Row : Type) (Entity : Type) where
  mapRow : Row → Nat → Entity

/-- A template with the source its streams read. -/
structure Dao (Row : Type) where
  template : StreamTemplate
  source : MemorySource Row

namespace Dao

variable {Row R : Type}

def query (statement : String) (bindings : Bindings) (mapper : Row → Nat → R) :
    StreamTemplate.Query Row R :=
  ⟨statement, bindings, fun row index => .ok (mapper row index)⟩

def selectStream (dao : Dao Row) (statement : String) (bindings : Bindings)
    (mapper : Row → Nat → R) : Except Abort (RowStream Row R) :=
  dao.template.stream (query statement bindings mapper)

def selectStreamWith (dao : Dao Row) (statement : String) (bindings : Bindings)
    (mapper : Row → Nat → R) (options : StreamOptions) :
    Except Abort (Except Error (RowStream Row R)) :=
  dao.template.streamWith (query statement bindings mapper) options

def shown (dao : Dao Row) : String :=
  Text.record "StreamDaoSupport" [("template", dao.template.shown)] .partly

end Dao

/-- A data access object for one type of entities, known by name. -/
structure Repository (Row Entity : Type) where
  entityName : String
  dao : Dao Row

namespace Repository

variable {Row Entity R : Type}

def findStream [MapRow Row Entity] (repository : Repository Row Entity) (statement : String)
    (bindings : Bindings) : Except Abort (RowStream Row Entity) :=
  repository.dao.selectStream statement bindings MapRow.mapRow

def findStreamWith [MapRow Row Entity] (repository : Repository Row Entity) (statement : String)
    (bindings : Bindings) (options : StreamOptions) :
    Except Abort (Except Error (RowStream Row Entity)) :=
  repository.dao.selectStreamWith statement bindings MapRow.mapRow options

def findStreamWithMapper (repository : Repository Row Entity) (statement : String)
    (bindings : Bindings) (mapper : Row → Nat → R) : Except Abort (RowStream Row R) :=
  repository.dao.selectStream statement bindings mapper

def shown (repository : Repository Row Entity) : String :=
  Text.record "StreamRepositorySupport"
    [("entity", Text.quoted repository.entityName), ("dao", repository.dao.shown)] .whole

end Repository
end RowBridge
