/-
# `RowBridge.Pattern.Reader` — reading a pattern

A pattern is read from the left with one group inside another kept open.  What
follows an opening parenthesis tells whether there is a group at all: flags in
front of a colon are set for the group, flags in front of a closing parenthesis
for all that follows in the group around them.
-/
import RowBridge.Pattern.Bracket
import RowBridge.Pattern.Modes

namespace RowBridge.Pattern

open Text

/-! ## What opens a group -/

/-- What stands behind an opening parenthesis. -/
inductive Opening
  | group (name : Option (List Char)) (flags : Flags)
  /-- There is no group; flags are set for what follows. -/
  | flags (flags : Flags)
  deriving DecidableEq, Repr

def isNameChar (c : Char) : Bool := ['_', '.', '[', ']'].contains c || isAlphanumeric c

def isGroupName : List Char → Bool
  | [] => false
  | c :: rest => (c == '_' || isLetter c) && rest.all isNameChar

def groupName? : Rule Opening := fun s =>
  let name := s.takeWhile (· != '>')
  match s.dropWhile (· != '>') with
  | _ :: rest => if isGroupName name then some (.group (some name) [], rest) else none
  | [] => none

/-- The signs that flags are written with; those behind the minus sign are
switched off. -/
def flagSigns : List Char := ['i', 'm', 's', 'U', 'u', 'R', 'x', '-']

/-- Flags as they are written: no sign twice, and something behind a minus sign. -/
def Flags.ofChars? (signs : List Char) : Option Flags :=
  if signs.all flagSigns.contains && signs.eraseDups.length == signs.length &&
      signs.getLast? != some '-' then
    some ((signs.takeWhile (· != '-')).map (·, true) ++
      ((signs.dropWhile (· != '-')).drop 1).map (·, false))
  else none

def flags? : Rule Opening := fun s => do
  let isEnd := fun c => c == ':' || c == ')'
  let flags ← Flags.ofChars? (s.takeWhile (!isEnd ·))
  match s.dropWhile (!isEnd ·) with
  | ':' :: rest => return (.group none flags, rest)
  | _ :: rest => if flags.isEmpty then none else return (.flags flags, rest)
  | [] => none

/-- Takes what follows an opening parenthesis and tells what it opens. -/
def opening? (spaced : Bool) : Rule Opening := fun s =>
  match upcoming spaced s with
  | '?' :: 'P' :: '<' :: rest => groupName? rest
  | '?' :: '<' :: rest => groupName? rest
  | '?' :: rest => flags? rest
  | rest => some (.group none [], rest)

/-! ## What has been read -/

/-- The branches of a group that is still open. -/
structure Branches where
  finished : List Part
  parts : List Part

namespace Branches

def empty : Branches := ⟨[], []⟩

def part (b : Branches) : Part :=
  let latest := Part.ofList b.parts.reverse
  if b.finished.isEmpty then latest else .choice (latest :: b.finished).reverse

def add (b : Branches) (part : Part) : Branches := { b with parts := part :: b.parts }

def branch (b : Branches) : Branches := ⟨Part.ofList b.parts.reverse :: b.finished, []⟩

/-- The latest part is repeated; there has to be one that is more than flags. -/
def repeatLatest? (b : Branches) : Option Branches :=
  match b.parts with
  | [] | .flags _ :: _ => none
  | part :: parts => some { b with parts := .repeated part :: parts }

end Branches

/-- A group that is still open. -/
structure OpenGroup where
  flags : Flags
  around : Branches
  spacedAround : Bool

/-- What has been read of a pattern. -/
structure Progress where
  groups : List OpenGroup
  branches : Branches
  spaced : Bool
  names : List (List Char)

namespace Progress

def start : Progress := ⟨[], .empty, false, []⟩

def add (p : Progress) (part : Part) : Progress := { p with branches := p.branches.add part }

/-- A group opens, or flags are set.  No two groups have one name. -/
def open? (p : Progress) : Opening → Option Progress
  | .flags flags =>
      some { p.add (.flags flags) with spaced := (flags.lookup 'x').getD p.spaced }
  | .group name flags =>
      if name.any p.names.contains then none
      else some ⟨⟨flags, p.branches, p.spaced⟩ :: p.groups, .empty,
        (flags.lookup 'x').getD p.spaced, name.toList ++ p.names⟩

def close? (p : Progress) : Option Progress :=
  match p.groups with
  | [] => none
  | group :: groups =>
      some { p with
        groups := groups
        branches := group.around.add (.group group.flags p.branches.part)
        spaced := group.spacedAround }

def pattern? (p : Progress) : Option Part :=
  if p.groups.isEmpty then some p.branches.part else none

end Progress

/-! ## Reading -/

def Escape.part : Escape → Part
  | .letter l => .letter l
  | .shorthand isNegated => .shorthand isNegated
  | .edge => .edge
  | .wordEdge => .wordEdge

def Part.ofChar (c : Char) : Part :=
  if c == '.' then .anything
  else if c == '^' || c == '$' then .edge
  else .letter ⟨c, false⟩

/-- What follows the sign of a repetition; a question mark directly behind it
belongs to it. -/
def behindRepetition : List Char → List Char
  | '?' :: rest => rest
  | rest => rest

/-- Reads on from a character. -/
def advance? (p : Progress) (c : Char) (rest : List Char) : Option (Progress × List Char) :=
  if c == '(' then do
    let (opening, rest) ← opening? p.spaced rest
    return (← p.open? opening, rest)
  else if c == ')' then p.close?.map (·, rest)
  else if c == '|' then some ({ p with branches := p.branches.branch }, rest)
  else if c == '[' then
    (bracket? p.spaced rest).map fun (chars, rest) => (p.add (.oneOf chars), rest)
  else if c == '\\' then
    (escape? p.spaced rest).map fun (escape, rest) => (p.add escape.part, rest)
  else if c == '?' || c == '*' || c == '+' then
    p.branches.repeatLatest?.map fun branches =>
      ({ p with branches := branches }, behindRepetition rest)
  else if c == '\x7b' then none
  else some (p.add (.ofChar c), rest)

/-- Reads to the end of a pattern, for which at most `fuel` characters are left. -/
def readRest? : (fuel : Nat) → Progress → List Char → Option Part
  | 0, _, _ => none
  | fuel + 1, p, s =>
      match upcoming p.spaced s with
      | [] => p.pattern?
      | c :: rest => (advance? p c rest).bind fun (p, rest) => readRest? fuel p rest

def read? (s : List Char) : Option Part := readRest? (s.length + 1) .start s

def depthLimit : Nat := 250

def isPattern (s : List Char) : Bool :=
  (read? s).any fun part => part.depth ≤ depthLimit && part.runs

end RowBridge.Pattern
