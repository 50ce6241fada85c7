/-
# `RowBridge.Text.Escaped` — text with escapes

Settings write a text between double quotes.  Every character stands for itself
but the quote, the backslash and the control characters other than the tab; a
backslash with a letter, a quote or a backslash stands for one character, and
`\u` and `\U` with four and eight hexadecimal digits stand for the character of
that number.
-/
import RowBridge.Text.Rule

namespace RowBridge.Text

def isPlain (c : Char) : Bool := c == '\t' || (' ' ≤ c && c != '\x7f')

def shortEscape? : Char → Option Char
  | 'b' => some '\x08'
  | 'f' => some '\x0c'
  | 'n' => some '\n'
  | 'r' => some '\r'
  | 't' => some '\t'
  | '"' => some '"'
  | '\\' => some '\\'
  | _ => none

def codePoint? (digits : List Char) : Option Char :=
  (natural? 16 digits).bind fun n => if n.isValidChar then some (Char.ofNat n) else none

/-- What a backslash and the characters behind it stand for. -/
def escape? : Rule Char
  | 'u' :: a :: b :: c :: d :: rest => (codePoint? [a, b, c, d]).map (·, rest)
  | 'U' :: a :: b :: c :: d :: e :: f :: g :: h :: rest =>
      (codePoint? [a, b, c, d, e, f, g, h]).map (·, rest)
  | c :: rest => (shortEscape? c).map (·, rest)
  | [] => none

/-- Takes at most `fuel` characters up to the closing quote. -/
def escapedUpTo : Nat → Rule (List Char)
  | 0, _ => none
  | fuel + 1, s =>
      match s with
      | '"' :: rest => some ([], rest)
      | '\\' :: rest => do
        let (c, rest) ← escape? rest
        let (cs, rest) ← escapedUpTo fuel rest
        return (c :: cs, rest)
      | c :: rest =>
          if isPlain c then (escapedUpTo fuel rest).map fun (cs, rest) => (c :: cs, rest) else none
      | [] => none

def escaped : Rule String := fun s =>
  (escapedUpTo (s.length + 1) s).map fun (cs, rest) => (String.ofList cs, rest)

end RowBridge.Text
