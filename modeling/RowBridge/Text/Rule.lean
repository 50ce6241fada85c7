/-
# `RowBridge.Text.Rule` — taking a text apart from the left

A rule takes characters from the left of a text and gives what they mean
together with what is left of the text, or refuses.  Numerals are read here as
well, because more than one grammar has them.
-/
import RowBridge.Binary64

namespace RowBridge.Text

/-- Takes a value from the left of a text. -/
abbrev Rule (α : Type) := List Char → Option (α × List Char)

def after? (beginning : List Char) (s : List Char) : Option (List Char) :=
  if beginning.isPrefixOf s then some (s.drop beginning.length) else none

/-! ## Numerals -/

def digitValue? (c : Char) : Option Nat :=
  if '0' ≤ c ∧ c ≤ '9' then some (c.toNat - '0'.toNat)
  else if 'a' ≤ c ∧ c ≤ 'f' then some (c.toNat - 'a'.toNat + 10)
  else if 'A' ≤ c ∧ c ≤ 'F' then some (c.toNat - 'A'.toNat + 10)
  else none

/-- The number that digits denote to a base of at most sixteen; there is at
least one digit. -/
def natural? (base : Nat) (digits : List Char) : Option Nat :=
  if digits.isEmpty then none
  else digits.foldlM (fun n c => (digitValue? c).bind fun d =>
    if d < base then some (n * base + d) else none) 0

def splitSign : List Char → Bool × List Char
  | '-' :: rest => (true, rest)
  | '+' :: rest => (false, rest)
  | s => (false, s)

def integer? (s : List Char) : Option Int :=
  (natural? 10 (splitSign s).2).map fun n => if (splitSign s).1 then -(n : Int) else n

/-- A decimal numeral: a sign, digits with a point among, before or behind them,
and a power of ten; sign, point and power may be left out. -/
def decimal? (s : List Char) : Option Binary64 := do
  let (negative, body) := splitSign s
  let isMark := fun c => c == 'e' || c == 'E'
  let digits := body.takeWhile (!isMark ·)
  let whole := digits.takeWhile (· != '.')
  let fraction := (digits.dropWhile (· != '.')).drop 1
  let value ← natural? 10 (whole ++ fraction)
  let power ← match body.dropWhile (!isMark ·) with
    | [] => some 0
    | _ :: rest => integer? rest
  return .ofDecimal negative value (power - fraction.length)

end RowBridge.Text
