/-
# `RowBridge.Config.Reader` — typed settings out of a tree

A reader takes a tree and gives a typed value or the first fault.  A record can
be written as a table, whose fields are visited in the order of their names, or
as a list, whose items are visited in the order in which the record declares its
fields.  Fields that the record does not know, and items beyond its last field,
are passed over; a field that is not there keeps the value it has in the blank
record, unless the record requires it.
-/
import RowBridge.Config.Fault
import RowBridge.Config.Settings
import RowBridge.Config.Tree

namespace RowBridge.Config

/-- Takes a tree that stands at a path. -/
abbrev Reader (α : Type) := List String → Tree → Except Fault α

namespace Reader

def mismatch (expected : String) (path : List String) (t : Tree) : Fault :=
  ⟨.invalidType t.describe expected, path, t.source⟩

def text : Reader String
  | _, .leaf _ (.text s) => .ok s
  | path, t => .error (mismatch "a string" path t)

/-- A whole number below a limit; `kind` names the numbers below it. -/
def below (limit : Nat) (kind : String) : Reader Nat
  | path, .leaf source (.signed n) =>
      if 0 ≤ n ∧ n < limit then .ok n.toNat
      else .error ⟨.invalidValue (Value.describe (.signed n)) kind, path, source⟩
  | path, .leaf source (.unsigned n) =>
      if n < limit then .ok n
      else .error ⟨.invalidValue (Value.describe (.unsigned n)) kind, path, source⟩
  | path, t => .error (mismatch kind path t)

def word32 : Reader Nat := below 4294967296 "u32"

def word64 : Reader Nat := below 18446744073709551616 "u64"

def count : Reader Nat := below 18446744073709551616 "usize"

def optional {α : Type} (read : Reader α) : Reader (Option α)
  | _, .leaf _ .absent => .ok none
  | path, t => (read path t).map some

end Reader

/-! ## Records -/

/-- A field of a record: its name, whether it must be there, and how it is taken. -/
structure RecordField (α : Type) where
  name : String
  required : Bool
  take : Reader (α → α)

namespace RecordField

def mayHave {α β : Type} (name : String) (read : Reader β) (set : β → α → α) : RecordField α :=
  ⟨name, false, fun path t => (read path t).map set⟩

def mustHave {α β : Type} (name : String) (read : Reader β) (set : β → α → α) : RecordField α :=
  ⟨name, true, fun path t => (read path t).map set⟩

end RecordField

/-- How a record is written: its name, its fields in order, and the record
without them. -/
structure RecordForm (α : Type) where
  name : String
  fields : List (RecordField α)
  blank : α

namespace RecordForm

variable {α : Type}

def expected (form : RecordForm α) : String := "struct " ++ form.name

def expectedItems (form : RecordForm α) : String :=
  form.expected ++ " with " ++ toString form.fields.length ++ " elements"

def takeFields (form : RecordForm α) (path : List String) :
    List (String × Tree) → α → Except Fault α
  | [], record => .ok record
  | (name, t) :: rest, record =>
      match form.fields.find? (·.name == name) with
      | none => form.takeFields path rest record
      | some field =>
          (field.take (path ++ [name]) t).bind fun set => form.takeFields path rest (set record)

def missing? (form : RecordForm α) (fields : List (String × Tree)) : Option String :=
  (form.fields.find? fun f => f.required && !fields.any (·.1 == f.name)).map (·.name)

def takeTable (form : RecordForm α) (path : List String) (source : Source)
    (fields : List (String × Tree)) : Except Fault α :=
  (form.takeFields path fields form.blank).bind fun record =>
    match form.missing? fields with
    | some name => .error ⟨.missingField name, path, source⟩
    | none => .ok record

/-- Takes the items of a list for the fields from position `index` on. -/
def takeItems (form : RecordForm α) (path : List String) (source : Source) (index : Nat) :
    List (RecordField α) → List Value → α → Except Fault α
  | [], _, record => .ok record
  | field :: fields, item :: items, record =>
      (field.take (path ++ [toString index]) (.ofValue source item)).bind fun set =>
        form.takeItems path source (index + 1) fields items (set record)
  | field :: fields, [], record =>
      if field.required then .error ⟨.invalidLength index form.expectedItems, path, source⟩
      else form.takeItems path source (index + 1) fields [] record

def read (form : RecordForm α) : Reader α
  | path, .branch source fields => form.takeTable path source fields
  | path, .leaf source (.list items) =>
      form.takeItems path source 0 form.fields items form.blank
  | path, t => .error (Reader.mismatch form.expected path t)

end RecordForm
end RowBridge.Config

/-! ## The settings -/

namespace RowBridge

open Config RecordField

def ServiceSettings.form : RecordForm ServiceSettings where
  name := "ServiceConfig"
  fields := [
    mustHave "name" .text fun v s => { s with name := v },
    mayHave "log_level" .text fun v s => { s with logLevel := v },
    mayHave "environment" .text fun v s => { s with environment := v }]
  blank := .named ""

def StreamSettings.form : RecordForm StreamSettings where
  name := "StreamConfig"
  fields := [
    mayHave "queue_size" .count fun v s => { s with queueSize := v },
    mayHave "buffer_timeout_ms" .word64 fun v s => { s with bufferTimeoutMs := v },
    mayHave "max_concurrent_scans" (.optional .count) fun v s =>
      { s with maxConcurrentScans := v },
    mayHave "shutdown_timeout_secs" .word64 fun v s => { s with shutdownTimeoutSecs := v }]
  blank := .default

/-- How it is written which database is read. -/
def DatabaseSettings.form : RecordForm DatabaseSettings where
  name := "DatabaseConfig"
  fields := [
    mustHave "url" .text fun v s => { s with url := v },
    mayHave "max_connections" .word32 fun v s => { s with maxConnections := v },
    mayHave "min_connections" .word32 fun v s => { s with minConnections := v },
    mayHave "connection_timeout_secs" .word64 fun v s => { s with connectionTimeoutSecs := v },
    mayHave "max_retries" .word32 fun v s => { s with maxRetries := v },
    mayHave "retry_delay_secs" .word64 fun v s => { s with retryDelaySecs := v }]
  blank := .ofUrl ""

def Settings.form : RecordForm Settings where
  name := "Config"
  fields := [
    mustHave "service" ServiceSettings.form.read fun v s => { s with service := v },
    mayHave "stream" StreamSettings.form.read fun v s => { s with stream := v },
    mayHave "database" (.optional DatabaseSettings.form.read) fun v s =>
      { s with database := v }]
  blank := .default

def Settings.ofTree (t : Tree) : Except Fault Settings := Settings.form.read [] t

end RowBridge
