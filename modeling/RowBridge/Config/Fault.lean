/-
# `RowBridge.Config.Fault` — why settings do not load

Settings do not load because a file cannot be read, because a value does not fit
the place it is meant for, or because a value that fits has no meaning.  A fault
of the second kind says what is wrong, where in the settings, and which source
said it; names in a file are shown under the table `default`, names in the
environment in upper case.  Reading the environment may also not come back at
all.
-/
import RowBridge.Abort
import RowBridge.Config.Value
import RowBridge.Error

namespace RowBridge.Config

/-- What is wrong with a value. -/
inductive Defect
  /-- A value of one kind where one of another kind is meant. -/
  | invalidType (found expected : String)
  /-- A value of the right kind, but out of range. -/
  | invalidValue (found expected : String)
  /-- A list that ends before the last value that is needed. -/
  | invalidLength (length : Nat) (expected : String)
  | missingField (name : String)
  deriving DecidableEq, Repr

def Defect.text : Defect → String
  | invalidType found expected => "invalid type: found " ++ found ++ ", expected " ++ expected
  | invalidValue found expected => "invalid value " ++ found ++ ", expected " ++ expected
  | invalidLength length expected =>
      "invalid length " ++ toString length ++ ", expected " ++ expected
  | missingField name => "missing field `" ++ name ++ "`"

/-- A value that does not fit its place. -/
structure Fault where
  defect : Defect
  path : List String
  source : Source
  deriving DecidableEq, Repr

def Source.shownPath (path : List String) : Source → String
  | environment => ".".intercalate (path.map (·.map Char.toUpper))
  | _ => ".".intercalate ("default" :: path)

def Source.shown : Source → String
  | defaults => ""
  | file path => " in " ++ path ++ " TOML file"
  | environment => " in `ROWFLUX_` environment variable(s)"

def Fault.message (f : Fault) : String :=
  let key :=
    if f.path.isEmpty then "" else " for key " ++ Text.quoted (f.source.shownPath f.path)
  "Configuration error: " ++ f.defect.text ++ key ++ f.source.shown

/-- Why settings do not load. -/
inductive LoadError
  | unreadable (path : String)
  | unfit (fault : Fault)
  | refused (error : Error)
  | aborted (abort : Abort)
  deriving DecidableEq, Repr

end RowBridge.Config
