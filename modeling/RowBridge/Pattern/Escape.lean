/-
# `RowBridge.Pattern.Escape` — blanks, and what stands behind a backslash

In a spaced pattern blanks are skipped, and so is a remark: all from a number
sign to the end of its line.  They are skipped before the digits of a
character's number too, but not between a backslash and what follows it.

A pattern here has no closing brace, because it is part of a directive in
braces.  Whatever needs one (a counted repetition, a class or a number in
braces) is therefore never written in full, and no rule below has a place for
it.
-/
import RowBridge.Pattern.Basic
import RowBridge.Text.Letter
import RowBridge.Text.Rule

namespace RowBridge.Pattern

open Text

/-! ## Blanks -/

def behindBlanks : (inRemark : Bool) → List Char → List Char
  | _, [] => []
  | true, c :: rest => behindBlanks (c != '\n') rest
  | false, c :: rest =>
      if c == '#' then behindBlanks true rest
      else if isBlank c then behindBlanks false rest
      else c :: rest

def upcoming (spaced : Bool) (s : List Char) : List Char :=
  if spaced then behindBlanks false s else s

/-! ## Escapes -/

/-- What a backslash and the characters behind it stand for. -/
inductive Escape
  | letter (letter : Letter)
  | shorthand (isNegated : Bool)
  | edge
  | wordEdge
  deriving DecidableEq, Repr

def hexDigits? (spaced : Bool) : (count : Nat) → Rule (List Char)
  | 0, s => some ([], s)
  | count + 1, s =>
      match upcoming spaced s with
      | [] => none
      | c :: rest =>
          if (digitValue? c).isSome then
            (hexDigits? spaced count rest).map fun (digits, rest) => (c :: digits, rest)
          else none

/-- Takes the number of a character; a number of two digits is that of a byte. -/
def numbered? (spaced : Bool) (count : Nat) : Rule Escape := fun s => do
  let (digits, rest) ← hexDigits? spaced count s
  let n ← natural? 16 digits
  if n.isValidChar then return (.letter ⟨Char.ofNat n, count == 2⟩, rest) else none

def namedLetters : List (Char × Char) :=
  [('a', '\x07'), ('f', '\x0c'), ('t', '\t'), ('n', '\n'), ('r', '\r'), ('v', '\x0b')]

def isSign (c : Char) : Bool :=
  c.toNat < 0x80 && !c.isAlphanum && c != '<' && c != '>'

def Escape.ofChar? (c : Char) : Option Escape :=
  if ['d', 's', 'w'].contains c then some (.shorthand false)
  else if ['D', 'S', 'W'].contains c then some (.shorthand true)
  else if ['A', 'z'].contains c then some .edge
  else if ['b', 'B', '<', '>'].contains c then some .wordEdge
  else if isSign c then some (.letter ⟨c, false⟩)
  else (namedLetters.lookup c).map fun named => .letter ⟨named, false⟩

def escape? (spaced : Bool) : Rule Escape
  | [] => none
  | 'x' :: rest => numbered? spaced 2 rest
  | 'u' :: rest => numbered? spaced 4 rest
  | 'U' :: rest => numbered? spaced 8 rest
  | c :: rest => (Escape.ofChar? c).map (·, rest)

end RowBridge.Pattern
