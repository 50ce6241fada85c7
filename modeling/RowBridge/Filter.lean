/-
# `RowBridge.Filter` — which events a subscriber sees

A filter is written as directives separated by commas
(`RowBridge.Filter.Directive`).  Of the directives that speak for an event the
most specific one decides: the one with the longest target, among those one with
a field, and of two that say the same place the later one.  An event that no
directive speaks for is not seen.  An empty filter lets errors pass.

Levels are named in any case or by a number from 0 (nothing) to 5 (everything);
a word that is no level is a target.  A filter that cannot be read counts as
`info`.
-/
import RowBridge.Filter.Directive

namespace RowBridge

/-- Directives in the order in which they were written. -/
structure Filter where
  directives : List Directive
  deriving DecidableEq, Repr

namespace Filter

def pieces : List Char → List (List Char)
  | [] => [[]]
  | c :: rest =>
      match pieces rest with
      | [] => [[c]]
      | piece :: others => if c == ',' then [] :: piece :: others else (c :: piece) :: others

def errorsOnly : Filter := ⟨[⟨none, none, none, 1⟩]⟩

def informative : Filter := ⟨[⟨none, none, none, 3⟩]⟩

def ofPieces (written : List (List Char)) : Except Text.Refusal Filter :=
  if written.isEmpty then .ok errorsOnly else (written.mapM Directive.read).map Filter.mk

/-- A filter from its text; one that cannot be read counts as `info`.  Empty
pieces are skipped. -/
def read (text : String) : Except Abort Filter :=
  match ofPieces ((pieces text.toList).filter (!·.isEmpty)) with
  | .ok f => .ok f
  | .error .unreadable => .ok informative
  | .error (.aborted abort) => .error abort

/-! ## Deciding -/

def decisive (f : Filter) (event : LogEvent) : Option Directive :=
  (f.directives.filter (·.speaksFor event)).foldl Directive.prefer none

def passes (f : Filter) (event : LogEvent) : Bool :=
  match f.decisive event with
  | none => false
  | some d => event.level.verbosity ≤ d.verbosity

end Filter
end RowBridge
