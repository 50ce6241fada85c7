/-
# `RowBridge.Config.Toml.Scalar` — words of a settings file

A word is a run of letters, digits and the characters `+ - _ . :`.  It is a
truth value, a whole number of 64 bits with a sign, a number with a point or a
power of ten, or a moment: a date, a time of day, or both.  An underscore may
stand between two digits.  A moment is a table with one private field, so that
it can stand for a record without saying anything about it.
-/
import RowBridge.Config.Value
import RowBridge.Text.Rule

namespace RowBridge.Config.Toml

open Text

def isWordChar (c : Char) : Bool := c.isAlphanum || ['+', '-', '_', '.', ':'].contains c

/-! ## Numbers -/

/-- Digits of a base without the underscores that stand between two of them. -/
def plainDigits? (base : Nat) : List Char → Option (List Char)
  | [] => none
  | c :: rest =>
      if (digitValue? c).any (· < base) then
        match rest with
        | [] => some [c]
        | '_' :: rest => (plainDigits? base rest).map (c :: ·)
        | rest => (plainDigits? base rest).map (c :: ·)
      else none

def signed64? (n : Int) : Option Value :=
  if -9223372036854775808 ≤ n ∧ n < 9223372036854775808 then some (.signed n) else none

/-- Decimal digits that do not start with a zero, unless it is the only one. -/
def leadingDigits? (s : List Char) : Option (List Char) :=
  (plainDigits? 10 s).bind fun digits =>
    if digits.head? = some '0' ∧ digits.length ≠ 1 then none else some digits

def decimalInteger? (s : List Char) : Option Value := do
  let (negative, body) := splitSign s
  let n ← natural? 10 (← leadingDigits? body)
  signed64? (if negative then -(n : Int) else n)

def basedInteger? (base : Nat) (s : List Char) : Option Value := do
  let n ← natural? base (← plainDigits? base s)
  signed64? n

def integer? : List Char → Option Value
  | '0' :: 'x' :: rest => basedInteger? 16 rest
  | '0' :: 'o' :: rest => basedInteger? 8 rest
  | '0' :: 'b' :: rest => basedInteger? 2 rest
  | s => decimalInteger? s

def power? (s : List Char) : Option (List Char) :=
  match s with
  | '-' :: rest => (plainDigits? 10 rest).map ('-' :: ·)
  | '+' :: rest => plainDigits? 10 rest
  | s => plainDigits? 10 s

/-- A fraction and the power of ten behind it, if there is one, without
underscores. -/
def fraction? (s : List Char) : Option (List Char) := do
  let isMark := fun c => c == 'e' || c == 'E'
  let digits ← plainDigits? 10 (s.takeWhile (!isMark ·))
  match s.dropWhile (!isMark ·) with
  | [] => return digits
  | _ :: rest => return digits ++ 'e' :: (← power? rest)

/-- What follows the whole digits of a number with a point or a power of ten. -/
def floatTail? : List Char → Option (List Char)
  | '.' :: rest => (fraction? rest).map ('.' :: ·)
  | 'e' :: rest => (power? rest).map ('e' :: ·)
  | 'E' :: rest => (power? rest).map ('e' :: ·)
  | _ => none

/-- A number with a point or a power of ten, or one of the words for infinity
and no number; digits that denote a number above the largest are refused. -/
def float? (s : List Char) : Option Value := do
  let (negative, body) := splitSign s
  if body = "inf".toList then return .float (.infinity negative)
  else if body = "nan".toList then return .float (.nan negative)
  else
    let isWhole := fun c : Char => c.isDigit || c == '_'
    let whole ← leadingDigits? (body.takeWhile isWhole)
    let tail ← floatTail? (body.dropWhile isWhole)
    let x ← decimal? ((if negative then ['-'] else []) ++ whole ++ tail)
    if x = .infinity false then none else return .float x

/-! ## Moments -/

def digits? (count : Nat) : Rule Nat := fun s =>
  let taken := s.take count
  if taken.length = count ∧ taken.all Char.isDigit then
    (natural? 10 taken).map (·, s.drop count)
  else none

def isLeapYear (year : Nat) : Bool := year % 4 == 0 && (year % 100 != 0 || year % 400 == 0)

def daysIn (year month : Nat) : Nat :=
  if month == 2 then if isLeapYear year then 29 else 28
  else if [4, 6, 9, 11].contains month then 30
  else 31

def afterChar? (c : Char) : List Char → Option (List Char)
  | d :: rest => if d = c then some rest else none
  | [] => none

def afterDate? (s : List Char) : Option (List Char) := do
  let (year, rest) ← digits? 4 s
  let (month, rest) ← digits? 2 (← afterChar? '-' rest)
  let (day, rest) ← digits? 2 (← afterChar? '-' rest)
  if 1 ≤ month ∧ month ≤ 12 ∧ 1 ≤ day ∧ day ≤ daysIn year month then some rest else none

def afterMinutes? (s : List Char) : Option (List Char) := do
  let (hour, rest) ← digits? 2 s
  let (minute, rest) ← digits? 2 (← afterChar? ':' rest)
  if hour ≤ 23 ∧ minute ≤ 59 then some rest else none

def afterSecondFraction? : List Char → Option (List Char)
  | '.' :: rest =>
      if (rest.takeWhile Char.isDigit).isEmpty then none else some (rest.dropWhile Char.isDigit)
  | s => some s

/-- What follows a time of day, `07:32:00.5`; a minute may have a leap second. -/
def afterTime? (s : List Char) : Option (List Char) := do
  let (second, rest) ← digits? 2 (← afterChar? ':' (← afterMinutes? s))
  if second ≤ 60 then afterSecondFraction? rest else none

/-- Whether a text is the distance from universal time, or nothing. -/
def isOffset : List Char → Bool
  | [] => true
  | ['Z'] => true
  | ['z'] => true
  | '+' :: rest => afterMinutes? rest == some []
  | '-' :: rest => afterMinutes? rest == some []
  | _ => false

/-- Whether a text is a time of day with or without a distance from universal
time. -/
def isTime (s : List Char) : Bool := (afterTime? s).any isOffset

def isDate (s : List Char) : Bool := afterDate? s == some []

/-- Whether a word is a moment: a date, a time of day, or both with `T` between
them. -/
def isMoment (s : List Char) : Bool :=
  isDate s || afterTime? s == some [] ||
  match afterDate? s with
  | some ('T' :: rest) => isTime rest
  | some ('t' :: rest) => isTime rest
  | _ => false

def moment (s : List Char) : Value :=
  .table [("$__toml_private_datetime", .text (String.ofList s))]

/-! ## Words -/

def ofWord? (word : List Char) : Option Value :=
  if word = "true".toList then some (.bool true)
  else if word = "false".toList then some (.bool false)
  else if isMoment word then some (moment word)
  else float? word <|> integer? word

/-- Takes a word, or a date and a time of day with one space between them. -/
def scalar : Rule Value := fun s =>
  let word := s.takeWhile isWordChar
  let rest := s.dropWhile isWordChar
  let time := (rest.drop 1).takeWhile isWordChar
  if isDate word ∧ rest.head? = some ' ' ∧ isTime time then
    some (moment (word ++ ' ' :: time), rest.drop (time.length + 1))
  else (ofWord? word).map (·, rest)

end RowBridge.Config.Toml
