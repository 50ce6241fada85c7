/-
# `RowBridge.Pattern.Basic` — what a pattern is made of

A pattern describes texts: its parts stand one behind another, and a part is a
character, a set of characters, a place, or something made of smaller parts.
Nothing is matched here.  What is kept of a pattern is what decides whether it
can be run: how deep it is nested, and which of its parts go beyond the modes
they stand in.

Flags switch modes.  A part that only sets flags does so up to the end of the
group it stands in, in the branches that follow as well.
-/
namespace RowBridge.Pattern

/-- A character that stands for itself. -/
structure Letter where
  char : Char
  /-- It is written as the number of a byte, in two digits. -/
  isByte : Bool
  deriving DecidableEq, Repr

/-- Flags, each with whether it is switched on. -/
abbrev Flags := List (Char × Bool)

/-- A set of characters in brackets, or something that stands within brackets. -/
inductive CharSet
  | nothing
  | letter (letter : Letter)
  | range (first last : Letter)
  /-- A class with a name between colons, or the characters outside it. -/
  | named (isNegated : Bool)
  /-- A class of one letter behind a backslash, or the characters outside it. -/
  | shorthand (isNegated : Bool)
  | bracket (isNegated : Bool) (inner : CharSet)
  | union (sets : List CharSet)
  | combined (left right : CharSet)

/-- A part of a pattern. -/
inductive Part
  | nothing
  | flags (flags : Flags)
  | letter (letter : Letter)
  | anything
  /-- The start or the end of a line or of the text. -/
  | edge
  /-- A place that depends on where words start and end. -/
  | wordEdge
  | shorthand (isNegated : Bool)
  | oneOf (chars : CharSet)
  | repeated (part : Part)
  | group (flags : Flags) (inner : Part)
  | sequence (parts : List Part)
  /-- Two or more branches, one of which is to match. -/
  | choice (branches : List Part)

def CharSet.ofList : List CharSet → CharSet
  | [] => .nothing
  | [set] => set
  | sets => .union sets

def Part.ofList : List Part → Part
  | [] => .nothing
  | [part] => part
  | parts => .sequence parts

/-! ## Depth

Whatever encloses something else is one deeper than the deepest thing it
encloses.  A branch of one part encloses nothing: it is that part. -/

mutual
def CharSet.depth : CharSet → Nat
  | .nothing | .letter _ | .range _ _ | .named _ | .shorthand _ => 0
  | .bracket _ inner => inner.depth + 1
  | .union sets => CharSet.depthList sets + 1
  | .combined left right => max left.depth right.depth + 1
def CharSet.depthList : List CharSet → Nat
  | [] => 0
  | set :: sets => max set.depth (CharSet.depthList sets)
end

mutual
def Part.depth : Part → Nat
  | .nothing | .flags _ | .letter _ | .anything | .edge | .wordEdge | .shorthand _ => 0
  | .oneOf chars => chars.depth
  | .repeated part => part.depth + 1
  | .group _ inner => inner.depth + 1
  | .sequence parts => Part.depthList parts + 1
  | .choice branches => Part.depthList branches + 1
def Part.depthList : List Part → Nat
  | [] => 0
  | part :: parts => max part.depth (Part.depthList parts)
end

end RowBridge.Pattern
