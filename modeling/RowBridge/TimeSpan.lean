/-
# `RowBridge.TimeSpan` — lengths of time

A time span is a whole number of nanoseconds.  Timeouts and pauses are compared
and multiplied as such; `TimeSpan.text` shows one in the largest unit that
leaves at least one whole, with the fraction written out and no zero at its end.
-/
import RowBridge.Text.Record

namespace RowBridge

/-- A length of time, counted in nanoseconds. -/
structure TimeSpan where
  nanos : Nat
  deriving DecidableEq, Repr

namespace TimeSpan

def ofMillis (n : Nat) : TimeSpan := ⟨n * 1000000⟩

def ofSecs (n : Nat) : TimeSpan := ⟨n * 1000000000⟩

def millis (t : TimeSpan) : Nat := t.nanos / 1000000

def secs (t : TimeSpan) : Nat := t.nanos / 1000000000

def isZero (t : TimeSpan) : Bool := t.nanos == 0

/-- The digits of a fraction given by its numerator over `10 ^ places`, no zero
at the end. -/
def fractionDigits (places numerator : Nat) : List Char :=
  let digits := Nat.toDigits 10 numerator
  let padded := List.replicate (places - digits.length) '0' ++ digits
  (padded.reverse.dropWhile (· == '0')).reverse

/-- A whole number and a fraction over `10 ^ places`, with the point only where
needed. -/
def decimalText (whole numerator places : Nat) : String :=
  if numerator = 0 then toString whole
  else toString whole ++ "." ++ String.ofList (fractionDigits places numerator)

/-- The span in its largest fitting unit: `10s`, `1.5µs`, `0ns`. -/
def text (t : TimeSpan) : String :=
  if 1000000000 ≤ t.nanos then
    decimalText (t.nanos / 1000000000) (t.nanos % 1000000000) 9 ++ "s"
  else if 1000000 ≤ t.nanos then
    decimalText (t.nanos / 1000000) (t.nanos % 1000000) 6 ++ "ms"
  else if 1000 ≤ t.nanos then
    decimalText (t.nanos / 1000) (t.nanos % 1000) 3 ++ "µs"
  else
    toString t.nanos ++ "ns"

end TimeSpan
end RowBridge
