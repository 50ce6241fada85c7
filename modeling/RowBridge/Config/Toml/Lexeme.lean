/-
# `RowBridge.Config.Toml.Lexeme` — blanks, keys and texts of a settings file

The smallest parts of a settings file: spaces and line ends, comments, the four
ways to write a text, and keys.  A text between triple quotes may span lines; a
line end directly behind the opening quotes is no part of it, and one or two
quotes directly before the closing ones are.
-/
import RowBridge.Text.Escaped

namespace RowBridge.Config.Toml

open Text

/-! ## Blanks -/

def isSpace (c : Char) : Bool := c == ' ' || c == '\t'

def skipSpaces (s : List Char) : List Char := s.dropWhile isSpace

def afterNewline? : List Char → Option (List Char)
  | '\n' :: rest => some rest
  | '\r' :: '\n' :: rest => some rest
  | _ => none

/-- What follows a line end; the end of the file ends a line as well. -/
def afterLine? : List Char → Option (List Char)
  | [] => some []
  | s => afterNewline? s

def skipComment : List Char → List Char
  | '#' :: rest => rest.dropWhile isPlain
  | s => s

/-- What follows the line, if nothing is left on it but a comment. -/
def afterLineRest? (s : List Char) : Option (List Char) := afterLine? (skipComment (skipSpaces s))

/-- What follows spaces, line ends and comments; `inComment` when one has begun. -/
def skipBlanks (inComment : Bool) : List Char → List Char
  | '\n' :: rest => skipBlanks false rest
  | '\r' :: '\n' :: rest => skipBlanks false rest
  | [] => []
  | c :: rest =>
      if inComment then if isPlain c then skipBlanks true rest else c :: rest
      else if c == '#' then skipBlanks true rest
      else if isSpace c then skipBlanks false rest
      else c :: rest

/-! ## Texts -/

/-- Takes a text up to the apostrophe that closes it; nothing is escaped. -/
def literal : Rule String := fun s =>
  match s.dropWhile fun c => isPlain c && c != '\'' with
  | '\'' :: rest => some (String.ofList (s.takeWhile fun c => isPlain c && c != '\''), rest)
  | _ => none

def skipBlankLines : List Char → List Char
  | '\n' :: rest => skipBlankLines rest
  | '\r' :: '\n' :: rest => skipBlankLines rest
  | [] => []
  | c :: rest => if isSpace c then skipBlankLines rest else c :: rest

/-- What follows the line ends and spaces behind a backslash at the end of a
line. -/
def afterContinuation? (s : List Char) : Option (List Char) :=
  (afterNewline? (skipSpaces s)).map skipBlankLines

/-- The closing quotes of a text that spans lines: how many quotes before them
belong to the text, and what follows them. -/
def closing? (quote : Char) (s : List Char) : Option (Nat × List Char) :=
  let run := ((s.take 5).takeWhile (· == quote)).length
  if run < 3 then none else some (run - 3, s.drop run)

/-- Takes at most `fuel` characters of a text that spans lines; `escapes` when a
backslash stands for another character. -/
def linesUpTo (quote : Char) (escapes : Bool) : Nat → Rule (List Char)
  | 0, _ => none
  | fuel + 1, s =>
      match closing? quote s, afterNewline? s with
      | some (quotes, rest), _ => some (List.replicate quotes quote, rest)
      | none, some rest =>
          (linesUpTo quote escapes fuel rest).map fun (cs, rest) => ('\n' :: cs, rest)
      | none, none =>
          match s with
          | [] => none
          | c :: rest =>
              if escapes && c == '\\' then
                match afterContinuation? rest with
                | some rest => linesUpTo quote escapes fuel rest
                | none => do
                  let (c, rest) ← escape? rest
                  let (cs, rest) ← linesUpTo quote escapes fuel rest
                  return (c :: cs, rest)
              else if isPlain c then
                (linesUpTo quote escapes fuel rest).map fun (cs, rest) => (c :: cs, rest)
              else none

/-- Takes a text that spans lines and whose opening quotes have been taken. -/
def lines (quote : Char) (escapes : Bool) : Rule String := fun s =>
  let s := (afterNewline? s).getD s
  (linesUpTo quote escapes (s.length + 1) s).map fun (cs, rest) => (String.ofList cs, rest)

/-- Takes a text in any of the four ways to write one. -/
def text : Rule String
  | '"' :: '"' :: '"' :: rest => lines '"' true rest
  | '\'' :: '\'' :: '\'' :: rest => lines '\'' false rest
  | '"' :: rest => escaped rest
  | '\'' :: rest => literal rest
  | _ => none

/-! ## Keys -/

def isKeyChar (c : Char) : Bool := c.isAlphanum || c == '_' || c == '-'

/-- Takes one name: bare, or a text on one line. -/
def name : Rule String
  | '"' :: rest => escaped rest
  | '\'' :: rest => literal rest
  | s =>
      let word := s.takeWhile isKeyChar
      if word.isEmpty then none else some (String.ofList word, s.dropWhile isKeyChar)

/-- Takes at most `fuel` names with points between them. -/
def namesUpTo : Nat → Rule (List String)
  | 0, _ => none
  | fuel + 1, s => do
    let (n, rest) ← name (skipSpaces s)
    match skipSpaces rest with
    | '.' :: rest => (namesUpTo fuel rest).map fun (ns, rest) => (n :: ns, rest)
    | rest => some ([n], rest)

/-- How many names a key may have, and how many lists and tables may stand
around a value. -/
def depthLimit : Nat := 79

def key : Rule (List String) := namesUpTo depthLimit

end RowBridge.Config.Toml
