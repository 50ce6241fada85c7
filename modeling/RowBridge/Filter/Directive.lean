/-
# `RowBridge.Filter.Directive` — one directive of a filter

A directive is a level, or a target, or a target with a level behind an equals
sign; between target and level there may be brackets with the name of a span,
with a field in braces, or with both.  `[name]` speaks of what happens within
spans, and so does a field with a value; a field without one also speaks of
events that have a field of its name.

Blanks at the ends of a directive are not looked at when its signs are sought,
but they are counted as part of its words: a blank before a directive shifts
every word in it.  A word may then start or end inside a character, and reading
does not come back.
-/
import RowBridge.Pattern.Reader
import RowBridge.Log
import RowBridge.Text.Cut

namespace RowBridge

open Text

/-- A field that a directive asks for. -/
structure FieldTest where
  name : String
  /-- The value it asks for, if it asks for one. -/
  value : Option String
  deriving DecidableEq, Repr

/-- One directive of a filter. -/
structure Directive where
  /-- The start of the paths it speaks for; all paths if absent. -/
  target : Option String
  span : Option String
  field : Option FieldTest
  /-- How much it lets pass, from nothing (0) to everything (5). -/
  verbosity : Nat
  deriving DecidableEq, Repr

namespace Directive

/-! ## Levels -/

/-- The verbosity a number stands for; leading zeros and a plus sign are allowed. -/
def numberedVerbosity (word : List Char) : Option Nat :=
  let digits := match word with
    | '+' :: rest => rest
    | _ => word
  if digits.isEmpty || !digits.all Char.isDigit then none
  else
    let n := digits.foldl (fun n c => n * 10 + (c.toNat - '0'.toNat)) 0
    if n ≤ 5 then some n else none

/-- The verbosity a name stands for, in any case. -/
def namedVerbosity (word : List Char) : Option Nat :=
  match String.ofList (word.map Char.toLower) with
  | "off" => some 0
  | "error" => some 1
  | "warn" => some 2
  | "info" => some 3
  | "debug" => some 4
  | "trace" => some 5
  | _ => none

def verbosity? (word : List Char) : Option Nat :=
  (numberedVerbosity word).orElse fun _ => namedVerbosity word

/-- The verbosity from a place behind an equals sign on; nothing there asks for
everything. -/
def verbosityFrom (written : List Char) (place : Nat) : Except Refusal Nat := do
  let word ← orAborted (cutFrom place written)
  if word.isEmpty then return 5 else orUnreadable (verbosity? word)

/-- The verbosity behind brackets; `after` follows them, and starts at the place. -/
def verbosityAfter (written : List Char) (place : Nat) (after : List Char) :
    Except Refusal Nat :=
  match after with
  | [] => return 5
  | '=' :: _ => verbosityFrom written (place + 1)
  | _ => throw .unreadable

/-! ## Fields -/

/-- Whether a text is a number that starts with a plus sign, which no pattern
does. -/
def isPositive : List Char → Bool
  | '+' :: rest =>
      (decimal? ('+' :: rest)).isSome ||
        ["inf", "infinity", "nan"].contains (String.ofList (rest.map Char.toLower))
  | _ => false

def isFieldValue (s : List Char) : Bool := isPositive s || Pattern.isPattern s

/-- The field that a text between braces asks for; a second equals sign ends its
value. -/
def fieldTest? (s : List Char) : Option FieldTest :=
  let name := String.ofList (s.takeWhile (· != '='))
  if s.isEmpty then none
  else
    match s.dropWhile (· != '=') with
    | [] => some ⟨name, none⟩
    | _ :: rest =>
        let value := rest.takeWhile (· != '=')
        if isFieldValue value then some ⟨name, some (String.ofList value)⟩ else none

/-! ## Brackets and braces -/

/-- A directive from what follows its opening brace on, which starts at the
place. -/
def readBraces (written : List Char) (target span : Option String) (place : Nat)
    (rest : List Char) : Except Refusal Directive := do
  let inner := rest.takeWhile (· != '}')
  let stop := place + byteLength inner
  match rest.dropWhile (· != '}') with
  | [] => throw .unreadable
  | _ :: after =>
      let field ← orUnreadable (fieldTest? (← orAborted (cutBetween place stop written)))
      match after with
      | ']' :: after =>
          return ⟨target, span, some field, ← verbosityAfter written (stop + 2) after⟩
      | _ => throw .unreadable

/-- A directive from what follows its opening bracket on, which starts at the
place. -/
def readBrackets (written : List Char) (target : Option String) (place : Nat)
    (rest : List Char) : Except Refusal Directive := do
  let isInner := fun c => c != ']' && c != '{'
  let stop := place + byteLength (rest.takeWhile isInner)
  match rest.dropWhile isInner with
  | [] => throw .unreadable
  | c :: after =>
      let name := String.ofList (← orAborted (cutBetween place stop written))
      if c == ']' then
        return ⟨target, some name, none, ← verbosityAfter written (stop + 1) after⟩
      else readBraces written target (if name.isEmpty then none else some name) (stop + 1) after

/-! ## Directives -/

def isStart (c : Char) : Bool := c == '-' || c == ':' || c == '_' || isAlphanumeric c

/-- A directive without a sign: a level, or a target for which everything passes. -/
def readWord (word : List Char) : Directive :=
  match verbosity? word with
  | some n => ⟨none, none, none, n⟩
  | none => ⟨some (String.ofList word), none, none, 5⟩

def readFromWord (written trimmed : List Char) : Except Refusal Directive := do
  let isInner := fun c => c != '=' && c != '['
  let stop := byteLength (trimmed.takeWhile isInner)
  match trimmed.dropWhile isInner with
  | [] => return readWord written
  | c :: rest =>
      let target := some (String.ofList (← orAborted (cutBefore stop written)))
      if c == '[' then readBrackets written target (stop + 1) rest
      else return ⟨target, none, none, ← verbosityFrom written (stop + 1)⟩

def read (written : List Char) : Except Refusal Directive :=
  match trimBlanks written with
  | [] => throw .unreadable
  | '[' :: rest => readBrackets written none 1 rest
  | c :: rest => if isStart c then readFromWord written (c :: rest) else throw .unreadable

/-! ## What a directive says -/

def coversPath (d : Directive) (path : String) : Bool :=
  match d.target with
  | none => true
  | some target => target.toList.isPrefixOf path.toList

def coversFields (d : Directive) (event : LogEvent) : Bool :=
  match d.field with
  | none => true
  | some test => test.value.isNone && event.hasField test.name

def speaksFor (d : Directive) (event : LogEvent) : Bool :=
  d.span.isNone && d.coversPath event.component.path && d.coversFields event

def reach (d : Directive) : Nat :=
  match d.target with
  | none => 0
  | some target => target.utf8ByteSize + 1

/-- Whether the first directive is more specific than the second: it has the
longer target, or else alone a field, or else the field whose name comes
later. -/
def outranks (d e : Directive) : Bool :=
  if d.reach ≠ e.reach then e.reach < d.reach
  else
    match d.field, e.field with
    | some f, some g => g.name < f.name
    | some _, none => true
    | none, _ => false

def prefer (earlier : Option Directive) (later : Directive) : Option Directive :=
  match earlier with
  | none => some later
  | some d => if d.outranks later then some d else some later

end Directive
end RowBridge
