/-
# `RowBridge.Binary64` — double precision numbers as their bits

A number of this format is kept as its 64 bits, so that two numbers are the same
value of the type exactly when they are the same bits, and everything below is
arithmetic on natural numbers.

* `Binary64.equal` is the comparison of the format: a NaN equals nothing, the
  two zeros are equal.
* `Binary64.text` writes the fewest significant digits that read back as the
  same number (of two such numerals the nearer, and the larger if they are
  equally near), always in positional notation and without a point for a whole
  number.
* `Binary64.ofDecimal` reads `digits · 10 ^ exponent`, rounding to the nearest
  number and a tie to the even significand.

**How the shortest digits are found.**  A finite number is `m · 2 ^ q`.  The
reals that round to it form an interval whose ends belong to it when `m` is
even.  For one digit, two digits and so on, the two neighbours of the number on
that decimal grid are tested against the interval, all over a common
denominator; the first grid with a hit wins.
-/

namespace RowBridge

/-- A double precision number, given by its bits. -/
structure Binary64 where
  bits : UInt64
  deriving DecidableEq, Repr

namespace Binary64

def signUnit : Nat := 9223372036854775808

/-- The number whose only bit is the lowest of the exponent; all of a fraction
are below it. -/
def exponentUnit : Nat := 4503599627370496

def isNegative (x : Binary64) : Bool := x.bits.toNat / signUnit == 1

def exponentField (x : Binary64) : Nat := x.bits.toNat / exponentUnit % 2048

def fractionField (x : Binary64) : Nat := x.bits.toNat % exponentUnit

def isNaN (x : Binary64) : Bool := x.exponentField == 2047 && x.fractionField != 0

def isInfinite (x : Binary64) : Bool := x.exponentField == 2047 && x.fractionField == 0

def isZero (x : Binary64) : Bool := x.exponentField == 0 && x.fractionField == 0

/-- Equality of the format: no NaN equals anything, and zero equals minus zero. -/
def equal (x y : Binary64) : Bool :=
  !x.isNaN && !y.isNaN && ((x.isZero && y.isZero) || x == y)

def ofMagnitude (negative : Bool) (magnitude : Nat) : Binary64 :=
  ⟨UInt64.ofNat (if negative then signUnit + magnitude else magnitude)⟩

def infinity (negative : Bool) : Binary64 := ofMagnitude negative (2047 * exponentUnit)

def nan (negative : Bool) : Binary64 := ofMagnitude negative (2047 * exponentUnit + exponentUnit / 2)

/-! ## Writing -/

/-- A finite number as `significand · 2 ^ exponent`. -/
structure Parts where
  significand : Nat
  exponent : Int

def parts (x : Binary64) : Parts :=
  if x.exponentField = 0 then ⟨x.fractionField, -1074⟩
  else ⟨exponentUnit + x.fractionField, (x.exponentField : Int) - 1075⟩

/-- A positive rational, or zero, as numerator over denominator. -/
structure Ratio where
  num : Nat
  den : Nat

def Ratio.scaled (n : Nat) (e : Int) : Ratio :=
  if 0 ≤ e then ⟨n * Nat.pow 2 e.toNat, 1⟩ else ⟨n, Nat.pow 2 (-e).toNat⟩

def Ratio.decimal (n : Nat) (e : Int) : Ratio :=
  if 0 ≤ e then ⟨n * Nat.pow 10 e.toNat, 1⟩ else ⟨n, Nat.pow 10 (-e).toNat⟩

def Ratio.le (a b : Ratio) : Bool := a.num * b.den ≤ b.num * a.den

def Ratio.lt (a b : Ratio) : Bool := a.num * b.den < b.num * a.den

/-- The reals that round to a number, and whether the two ends do. -/
structure Rounding where
  low : Ratio
  high : Ratio
  closed : Bool

/-- Halfway to each neighbour; below a power of two the lower neighbour is twice
as near. -/
def rounding (x : Binary64) : Rounding :=
  let p := x.parts
  let near := x.fractionField = 0 && 1 < x.exponentField
  { low := Ratio.scaled (4 * p.significand - if near then 1 else 2) (p.exponent - 2)
    high := Ratio.scaled (4 * p.significand + 2) (p.exponent - 2)
    closed := p.significand % 2 == 0 }

def Rounding.admits (r : Rounding) (v : Ratio) : Bool :=
  if r.closed then r.low.le v && v.le r.high else r.low.lt v && v.lt r.high

/-- How many places a ratio below one may be moved left before it reaches one. -/
def leadingZeros : Nat → Ratio → Nat
  | 0, _ => 0
  | fuel + 1, v => if v.num * 10 < v.den then leadingZeros fuel ⟨v.num * 10, v.den⟩ + 1 else 0

def decimalPlace (v : Ratio) : Int :=
  if v.den ≤ v.num then (Nat.toDigits 10 (v.num / v.den)).length
  else -(leadingZeros 400 v : Int)

/-- A decimal numeral: `digits · 10 ^ exponent`. -/
structure Numeral where
  digits : Nat
  exponent : Int

/-- The neighbour of `v` on the grid of `count` digits that rounds back; the
nearer if both do, and the larger if they are equally near. -/
def gridHit (r : Rounding) (v : Ratio) (place : Int) (count : Nat) : Option Numeral :=
  let e := place - count
  let unit := Ratio.decimal 1 e
  let below := v.num * unit.den / (v.den * unit.num)
  let lower := Ratio.decimal below e
  let upper := Ratio.decimal (below + 1) e
  let lowerIn := r.admits lower
  let upperIn := r.admits upper
  if lowerIn && upperIn then
    let twice : Ratio := ⟨2 * v.num, v.den⟩
    let middle := Ratio.decimal (2 * below + 1) e
    if twice.lt middle then some ⟨below, e⟩ else some ⟨below + 1, e⟩
  else if lowerIn then some ⟨below, e⟩
  else if upperIn then some ⟨below + 1, e⟩
  else none

/-- The shortest numeral that reads back as the number; seventeen digits always
do. -/
def shortest (x : Binary64) : Numeral :=
  let p := x.parts
  let v := Ratio.scaled p.significand p.exponent
  let place := decimalPlace v
  let counts := (List.range 17).map (· + 1)
  (counts.findSome? (gridHit x.rounding v place)).getD ⟨0, 0⟩

/-- A numeral in positional notation, without a point when it is whole. -/
def Numeral.positional (n : Numeral) : String :=
  let digits := Nat.toDigits 10 n.digits
  if 0 ≤ n.exponent then String.ofList (digits ++ List.replicate n.exponent.toNat '0')
  else
    let places := (-n.exponent).toNat
    let padded := List.replicate (places + 1 - digits.length) '0' ++ digits
    let whole := padded.take (padded.length - places)
    let rest := padded.drop (padded.length - places)
    let shown := (rest.reverse.dropWhile (· == '0')).reverse
    if shown.isEmpty then String.ofList whole
    else String.ofList whole ++ "." ++ String.ofList shown

/-- The number as text: `1000`, `1.5`, `-0`, `NaN`, `inf`. -/
def text (x : Binary64) : String :=
  if x.isNaN then "NaN"
  else
    let sign := if x.isNegative then "-" else ""
    if x.isInfinite then sign ++ "inf"
    else if x.isZero then sign ++ "0"
    else sign ++ x.shortest.positional

/-! ## Reading -/

/-- The quotient rounded to the nearest whole number, a tie to the even one. -/
def roundToEven (num den : Nat) : Nat :=
  let q := num / den
  let twice := 2 * (num % den)
  if twice < den || (twice == den && q % 2 == 0) then q else q + 1

/-- The bits of the positive number nearest to `v`, infinity when `v` is beyond
the largest. -/
def magnitudeOf (v : Ratio) : Nat :=
  let estimate : Int := (v.num.log2 : Int) - v.den.log2 - 53
  let wide := Ratio.scaled 1 (estimate + 53)
  let exponent := max (-1074) (if wide.le v then estimate + 1 else estimate)
  let step := Ratio.scaled 1 exponent
  let significand := roundToEven (v.num * step.den) (v.den * step.num)
  let field := (exponent + 1074).toNat * exponentUnit + significand
  min field (2047 * exponentUnit)

/-- The number nearest to `digits · 10 ^ exponent`. -/
def ofDecimal (negative : Bool) (digits : Nat) (exponent : Int) : Binary64 :=
  if digits = 0 then ofMagnitude negative 0
  else
    let place := (Nat.toDigits 10 digits).length + exponent
    if 310 < place then infinity negative
    else if place < -330 then ofMagnitude negative 0
    else ofMagnitude negative (magnitudeOf (Ratio.decimal digits exponent))

end Binary64
end RowBridge
