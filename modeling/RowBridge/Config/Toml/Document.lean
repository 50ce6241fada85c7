/-
# `RowBridge.Config.Toml.Document` — a settings file

A settings file is a sequence of lines: blank ones, comments, headers of tables,
and keys with their values.  The values are texts, words, lists in brackets and
tables in braces; the latter stand on one line.
-/
import RowBridge.Config.Toml.Lexeme
import RowBridge.Config.Toml.Scalar
import RowBridge.Config.Toml.Table
import RowBridge.Config.Wrapped

namespace RowBridge.Config.Toml

open Text

/-! ## Values -/

/-- Takes the items of a list up to its closing bracket, at most `fuel` of them. -/
def items (value : Rule Value) : Nat → Rule (List Value)
  | 0, _ => none
  | fuel + 1, s =>
      match skipBlanks false s with
      | ']' :: rest => some ([], rest)
      | s => do
        let (v, rest) ← value s
        match skipBlanks false rest with
        | ',' :: rest => (items value fuel rest).map fun (vs, rest) => (v :: vs, rest)
        | ']' :: rest => some ([v], rest)
        | _ => none

def assignment (value : Rule Value) : Rule (List String × Value) := fun s => do
  let (k, rest) ← key s
  match rest with
  | '=' :: rest => (value (skipSpaces rest)).map fun (v, rest) => ((k, v), rest)
  | _ => none

/-- Takes fields up to the closing brace, at most `fuel` of them, and adds them
to a table. -/
def inlineFields (value : Rule Value) : Nat → Fields → Rule Fields
  | 0, _, _ => none
  | fuel + 1, fields, s => do
    let ((k, v), rest) ← assignment value s
    let fields ← fields.assign? k v
    match skipSpaces rest with
    | ',' :: rest => inlineFields value fuel fields rest
    | '\x7d' :: rest => some (fields, rest)
    | _ => none

def inlineTable (value : Rule Value) : Rule Fields := fun s =>
  match skipSpaces s with
  | '\x7d' :: rest => some ([], rest)
  | s => inlineFields value (s.length + 1) [] s

def flatValue : Rule Value
  | '"' :: rest => (text ('"' :: rest)).map fun (t, rest) => (.text t, rest)
  | '\'' :: rest => (text ('\'' :: rest)).map fun (t, rest) => (.text t, rest)
  | s => scalar s

/-- Takes a value with at most `depth` lists and tables in braces around one
another. -/
def value : Nat → Rule Value
  | 0, s => flatValue s
  | depth + 1, s =>
      match s with
      | '[' :: rest =>
          (items (value depth) (rest.length + 1) rest).map fun (vs, rest) => (.list vs, rest)
      | '\x7b' :: rest =>
          (inlineTable (value depth) rest).map fun (fs, rest) => (.table (fieldValues fs), rest)
      | s => flatValue s

/-! ## Lines -/

/-- The fields read so far, and the table that the latest header opened. -/
structure Reading where
  fields : Fields
  header : List String

/-- Takes a header: the key between its brackets, and the rest of its line. -/
def header (brackets : Nat) : Rule (List String) := fun s => do
  let (k, rest) ← key s
  let rest ← after? (List.replicate brackets ']') rest
  return (k, ← afterLineRest? rest)

/-- Takes a line that is neither blank nor a comment. -/
def line (r : Reading) : List Char → Option (Reading × List Char)
  | '[' :: '[' :: rest => do
    let (k, rest) ← header 2 rest
    return (⟨← r.fields.openNext? k, k⟩, rest)
  | '[' :: rest => do
    let (k, rest) ← header 1 rest
    return (⟨← r.fields.openTable? k, k⟩, rest)
  | s => do
    let ((k, v), rest) ← assignment (value depthLimit) s
    return (⟨← r.fields.assignUnder? r.header k v, r.header⟩, ← afterLineRest? rest)

/-- Takes at most `fuel` lines. -/
def linesFrom : Nat → Reading → List Char → Option Fields
  | 0, _, _ => none
  | fuel + 1, r, s =>
      match skipSpaces s with
      | [] => some r.fields
      | '#' :: rest => (afterLine? (skipComment ('#' :: rest))).bind (linesFrom fuel r)
      | s =>
          match afterNewline? s with
          | some rest => linesFrom fuel r rest
          | none => (line r s).bind fun (r, rest) => linesFrom fuel r rest

/-- The settings that a file says, if it can be read, with wrapped values in
place of their wrappers; it may start with a byte order mark. -/
def read? (text : String) : Option (List (String × Value)) :=
  let s := match text.toList with
    | '\ufeff' :: rest => rest
    | s => s
  (linesFrom (s.length + 1) ⟨[], []⟩ s).bind fun fields => unwrappedFields? (fieldValues fields)

end RowBridge.Config.Toml
