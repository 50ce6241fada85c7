/-
# `RowBridge.Pattern.Modes` — which patterns can be run

A pattern speaks of characters of all scripts, or of bytes.  In either mode some
parts are beyond the automata that run patterns:

* of characters nothing is known but their order, so neither their case, nor
  what is a digit, a blank or part of a word, nor where words start and end;
* of bytes these things are known, but what matches must still be whole
  characters, so nothing may match a byte above `0x7f` by itself, and brackets
  may not name a character that is more than one byte.

A pattern starts in the mode of characters, upper and lower case apart.
-/
import RowBridge.Pattern.Basic

namespace RowBridge.Pattern

/-- How a part of a pattern is meant. -/
structure Modes where
  wide : Bool
  caseless : Bool
  deriving DecidableEq, Repr

namespace Modes

def initial : Modes := ⟨true, false⟩

def apply (m : Modes) (flags : Flags) : Modes :=
  ⟨(flags.lookup 'u').getD m.wide, (flags.lookup 'i').getD m.caseless⟩

def runsLetter (m : Modes) (l : Letter) : Bool :=
  if m.wide then !m.caseless else !(l.isByte && 0x7f < l.char.toNat)

def runsMember (m : Modes) (l : Letter) : Bool :=
  if m.wide then !m.caseless else l.char.toNat ≤ 0x7f

def runsNamed (m : Modes) (isNegated : Bool) : Bool :=
  if m.wide then !m.caseless else !isNegated

def runsShorthand (m : Modes) (isNegated : Bool) : Bool := !m.wide && !isNegated

end Modes

mutual
def CharSet.runs (m : Modes) : CharSet → Bool
  | .nothing => true
  | .letter l => m.runsMember l
  | .range first last => m.runsMember first && m.runsMember last
  | .named isNegated => m.runsNamed isNegated
  | .shorthand isNegated => m.runsShorthand isNegated
  | .bracket isNegated inner => (m.wide || !isNegated) && inner.runs m
  | .union sets => CharSet.runList m sets
  | .combined left right => left.runs m && right.runs m
def CharSet.runList (m : Modes) : List CharSet → Bool
  | [] => true
  | set :: sets => set.runs m && CharSet.runList m sets
end

mutual
/-- The modes behind a part, if it can be run. -/
def Part.run? (m : Modes) : Part → Option Modes
  | .nothing | .edge => some m
  | .flags changed => some (m.apply changed)
  | .letter l => if m.runsLetter l then some m else none
  | .anything => if m.wide then some m else none
  | .wordEdge => if m.wide then none else some m
  | .shorthand isNegated => if m.runsShorthand isNegated then some m else none
  | .oneOf chars => if chars.runs m then some m else none
  | .repeated part => part.run? m
  | .group changed inner => (inner.run? (m.apply changed)).map fun _ => m
  | .sequence parts => Part.runList? m parts
  | .choice branches => Part.runList? m branches
def Part.runList? (m : Modes) : List Part → Option Modes
  | [] => some m
  | part :: parts => (part.run? m).bind fun m => Part.runList? m parts
end

def Part.runs (part : Part) : Bool := (part.run? .initial).isSome

end RowBridge.Pattern
