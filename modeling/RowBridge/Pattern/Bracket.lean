/-
# `RowBridge.Pattern.Bracket` — sets of characters in brackets

Between brackets stand characters, ranges, classes and further brackets, one
behind another, and operations on all that stands to their two sides.  Some
signs stand for themselves only where a bracket has just opened: minus signs,
and a closing bracket that comes first of all.
-/
import RowBridge.Pattern.Escape

namespace RowBridge.Pattern

open Text

/-! ## Single members -/

def bracketItem? (spaced : Bool) : Rule Escape
  | [] => none
  | '\\' :: rest => escape? spaced rest
  | c :: rest => some (.letter ⟨c, false⟩, rest)

/-- What an item is in a set by itself; a place is no member of a set. -/
def Escape.member? : Escape → Option CharSet
  | .letter l => some (.letter l)
  | .shorthand isNegated => some (.shorthand isNegated)
  | .edge | .wordEdge => none

def Escape.range? : Escape → Escape → Option CharSet
  | .letter first, .letter last =>
      if first.char ≤ last.char then some (.range first last) else none
  | _, _ => none

/-- The sign behind a minus sign, by which a range is told.  Blanks before it
are passed over, and so is the beginning of a remark, but not what the remark
says. -/
def signBehind? (spaced : Bool) (s : List Char) : Option Char :=
  if !spaced then s.head?
  else
    let seen := match s.dropWhile isBlank with
      | '#' :: remark => remark.dropWhile isBlank
      | seen => seen
    seen.head?.orElse fun _ => s.head?

/-- Takes an item, or a range.  A minus sign is part of no range if it is the
first of two, or the last sign in its brackets. -/
def member? (spaced : Bool) : Rule CharSet := fun s => do
  let (first, rest) ← bracketItem? spaced s
  let rest := upcoming spaced rest
  match rest with
  | '-' :: more =>
      if [some ']', some '-'].contains (signBehind? spaced more) then
        return (← first.member?, rest)
      else
        let (last, rest) ← bracketItem? spaced (upcoming spaced more)
        return (← first.range? last, rest)
  | rest => return (← first.member?, rest)

def namedClasses : List String :=
  ["alnum", "alpha", "ascii", "blank", "cntrl", "digit", "graph", "lower", "print", "punct",
    "space", "upper", "word", "xdigit"]

/-- Takes a class with a name, from behind its opening bracket on. -/
def namedClass? : Rule CharSet
  | ':' :: rest =>
      let isNegated := rest.head? == some '^'
      let rest := if isNegated then rest.drop 1 else rest
      match rest.dropWhile (· != ':') with
      | ':' :: ']' :: after =>
          if namedClasses.contains (String.ofList (rest.takeWhile (· != ':'))) then
            some (.named isNegated, after)
          else none
      | _ => none
  | _ => none

/-! ## Brackets -/

/-- What has been read behind a bracket that is still open. -/
structure OpenBracket where
  isNegated : Bool
  /-- The left side of an operation, if its right side is being read. -/
  left : Option CharSet
  members : List CharSet
  isFresh : Bool

namespace OpenBracket

def inner (b : OpenBracket) : CharSet :=
  let right := CharSet.ofList b.members.reverse
  match b.left with
  | none => right
  | some left => .combined left right

def closed (b : OpenBracket) : CharSet := .bracket b.isNegated b.inner

def add (b : OpenBracket) (member : CharSet) : OpenBracket :=
  { b with members := member :: b.members, isFresh := false }

def combine (b : OpenBracket) : OpenBracket :=
  { b with left := some b.inner, members := [], isFresh := false }

def isOwn (b : OpenBracket) (c : Char) : Bool :=
  b.isFresh && (c == '-' || c == ']' && b.members.isEmpty)

def addOwn (b : OpenBracket) (c : Char) : OpenBracket :=
  { b.add (.letter ⟨c, false⟩) with isFresh := c == '-' }

end OpenBracket

def openBracket (spaced : Bool) (s : List Char) : OpenBracket × List Char :=
  match upcoming spaced s with
  | '^' :: rest => (⟨true, none, [], true⟩, rest)
  | rest => (⟨false, none, [], true⟩, rest)

def behindOperation? : List Char → Option (List Char)
  | '&' :: '&' :: rest => some rest
  | '-' :: '-' :: rest => some rest
  | '~' :: '~' :: rest => some rest
  | _ => none

/-- Takes the rest of the brackets that are open, the innermost being `b`; they
have at most `fuel` signs. -/
def closeBrackets? (spaced : Bool) : (fuel : Nat) → List OpenBracket → OpenBracket → Rule CharSet
  | 0, _, _, _ => none
  | fuel + 1, outer, b, s =>
      match upcoming spaced s with
      | [] => none
      | c :: rest =>
          if b.isOwn c then closeBrackets? spaced fuel outer (b.addOwn c) rest
          else if c == '[' then
            match namedClass? rest with
            | some (named, rest) => closeBrackets? spaced fuel outer (b.add named) rest
            | none =>
                let (inner, rest) := openBracket spaced rest
                closeBrackets? spaced fuel (b :: outer) inner rest
          else if c == ']' then
            match outer with
            | [] => some (b.closed, rest)
            | around :: outer => closeBrackets? spaced fuel outer (around.add b.closed) rest
          else
            match behindOperation? (c :: rest) with
            | some rest => closeBrackets? spaced fuel outer b.combine rest
            | none => do
              let (member, rest) ← member? spaced (c :: rest)
              closeBrackets? spaced fuel outer (b.add member) rest

def bracket? (spaced : Bool) : Rule CharSet := fun s =>
  let (b, rest) := openBracket spaced s
  closeBrackets? spaced (s.length + 1) [] b rest

end RowBridge.Pattern
