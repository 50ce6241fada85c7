/-
# `RowBridge.Config.Shorthand` — values in one line of text

The value of an environment variable is a text that may say more than a text: a
truth value, a number, a list `[1, 2]`, a table `{a = 1}`, a text in quotes, or
a single character between apostrophes.  Anything else is the text as it stands.
Blanks around a value are passed over.

A text in quotes may have escapes.  What stands before the first of them is
counted in characters but cut off in bytes: characters of several bytes there
make the text lose some of them, and a place inside a character ends the whole
call.
-/
import RowBridge.Config.Value
import RowBridge.Text.Cut
import RowBridge.Text.Escaped
import RowBridge.Text.Letter

namespace RowBridge.Config.Shorthand

open Text

def isBlank (c : Char) : Bool := [' ', '\t', '\n', '\x0c', '\r'].contains c

def skipBlanks (s : List Char) : List Char := s.dropWhile isBlank

def isDelimiter (c : Char) : Bool := [',', '{', '}', '[', ']'].contains c

/-- Whether a character may stand in the name of a field that is not in quotes. -/
def isNameChar (c : Char) : Bool := c.isAlphanum || c == '_' || c == '-'

/-! ## Words -/

/-- A whole number: of 64 bits without a sign, or of as many with one if there
is a minus. -/
def wholeNumber? (word : List Char) : Option Value :=
  (integer? word).bind fun n =>
    if word.head? = some '-' then if -9223372036854775808 ≤ n then some (.signed n) else none
    else if n < 18446744073709551616 then some (.unsigned n.toNat) else none

/-- The value of a word: a number with a point, a whole number, or the word
itself. -/
def ofWord (word : List Char) : Value :=
  let float := if word.contains '.' then (decimal? word).map Value.float else none
  (float <|> wholeNumber? word).getD (.text (String.ofList word))

/-- Takes a word up to a delimiter; blanks around it are no part of it. -/
def word (s : List Char) : Value × List Char :=
  (ofWord (trimBlanks (s.takeWhile (!isDelimiter ·))), s.dropWhile (!isDelimiter ·))

/-! ## Texts in quotes -/

/-- What stands before the closing quote, with its escapes, and what follows the
quote. -/
def upToQuote? : List Char → Option (List Char × List Char)
  | '"' :: rest => some ([], rest)
  | '\\' :: c :: rest => (upToQuote? rest).map fun (inner, rest) => ('\\' :: c :: inner, rest)
  | c :: rest => (upToQuote? rest).map fun (inner, rest) => (c :: inner, rest)
  | [] => none

/-- Characters with their escapes replaced; at most `fuel` of them. -/
def unescaped? : Nat → List Char → Option (List Char)
  | 0, _ => none
  | fuel + 1, s =>
      match s with
      | [] => some []
      | '\\' :: rest => (escape? rest).bind fun (c, rest) => (unescaped? fuel rest).map (c :: ·)
      | c :: rest => if isPlain c then (unescaped? fuel rest).map (c :: ·) else none

def unquoted (inner : List Char) : Except Refusal String := do
  let before := inner.takeWhile (· != '\\')
  if !before.all isPlain then throw .unreadable
  let after := inner.dropWhile (· != '\\')
  if after.isEmpty then return String.ofList inner
  let kept ← orAborted (cutBefore before.length inner)
  return String.ofList (kept ++ (← orUnreadable (unescaped? (after.length + 1) after)))

def quotedText : Reading String := fun s => do
  let (inner, rest) ← orUnreadable (upToQuote? s)
  return (← unquoted inner, rest)

/-! ## Lists and tables -/

/-- Takes the items of a list up to its closing bracket. -/
def items (value : Reading Value) : Nat → Reading (List Value)
  | 0, _ => throw .unreadable
  | fuel + 1, s =>
      match s with
      | ']' :: rest => return ([], rest)
      | s => do
        let (v, rest) ← value s
        match rest with
        | ',' :: rest => (items value fuel rest).map fun (vs, rest) => (v :: vs, rest)
        | ']' :: rest => return ([v], rest)
        | _ => throw .unreadable

/-- Takes the name of a field: a text in quotes, or a run of at least one name
character. -/
def fieldName : Reading String
  | '"' :: rest => quotedText rest
  | s =>
      let name := s.takeWhile isNameChar
      if name.isEmpty then throw .unreadable
      else return (String.ofList name, s.dropWhile isNameChar)

def field (value : Reading Value) : Reading (String × Value) := fun s => do
  let (name, rest) ← fieldName (skipBlanks s)
  match skipBlanks rest with
  | '=' :: rest => (value rest).map fun (v, rest) => ((name, v), rest)
  | _ => throw .unreadable

/-- Takes the fields of a table up to its closing brace. -/
def fields (value : Reading Value) : Nat → Reading (List (String × Value))
  | 0, _ => throw .unreadable
  | fuel + 1, s =>
      match s with
      | '}' :: rest => return ([], rest)
      | s => do
        let (f, rest) ← field value s
        match rest with
        | ',' :: rest => (fields value fuel rest).map fun (fs, rest) => (f :: fs, rest)
        | '}' :: rest => return ([f], rest)
        | _ => throw .unreadable

/-! ## Values -/

/-- Takes a value that starts at once; `value` takes the values within it. -/
def plainValue (value : Reading Value) : Reading Value
  | '[' :: rest => (items value (rest.length + 1) rest).map fun (vs, rest) => (.list vs, rest)
  | '{' :: rest =>
      (fields value (rest.length + 1) rest).map fun (fs, rest) => (.table (sortFields fs), rest)
  | '"' :: rest => (quotedText rest).map fun (t, rest) => (.text t, rest)
  | '\'' :: rest =>
      match rest with
      | c :: '\'' :: rest => return (.text c.toString, rest)
      | _ => throw .unreadable
  | s =>
      match after? "true".toList s, after? "false".toList s with
      | some rest, _ => return (.bool true, rest)
      | none, some rest => return (.bool false, rest)
      | none, none => return word s

/-- Takes a value with at most `depth` values around one another, and the blanks
around it. -/
def value : Nat → Reading Value
  | 0, _ => throw .unreadable
  | depth + 1, s => (plainValue (value depth) (skipBlanks s)).map fun (v, rest) =>
      (v, skipBlanks rest)

def read (text : String) : Except Abort Value :=
  match value (text.length + 1) text.toList with
  | .ok (v, []) => .ok v
  | .error (.aborted abort) => .error abort
  | _ => .ok (.text text)

end RowBridge.Config.Shorthand
