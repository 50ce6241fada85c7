/-
# `RowBridge.Text.Quoted` — text between double quotes

The form in which messages and records show a text: double quotes around it, a
backslash before a quote or a backslash, short names for tab, return, newline
and NUL, and `\u{…}` with the code point in hexadecimal for every other
character without a glyph of its own (`RowBridge.Text.isInvisible`).  A single
quote stays as it is.
-/
import RowBridge.Text.Invisible

namespace RowBridge.Text

def hexText (n : Nat) : String :=
  String.ofList (Nat.toDigits 16 n)

def quotedChar (c : Char) : String :=
  match c with
  | '\x00' => "\\0"
  | '\t' => "\\t"
  | '\r' => "\\r"
  | '\n' => "\\n"
  | '"' => "\\\""
  | '\\' => "\\\\"
  | c => if isInvisible c then "\\u\x7b" ++ hexText c.toNat ++ "\x7d" else c.toString

def quoted (s : String) : String :=
  "\"" ++ String.join (s.toList.map quotedChar) ++ "\""

/-- One character between single quotes; here it is the double quote that stays
as it is. -/
def quotedAlone (c : Char) : String :=
  match c with
  | '\'' => "'\\''"
  | '"' => "'\"'"
  | c => "'" ++ quotedChar c ++ "'"

end RowBridge.Text
