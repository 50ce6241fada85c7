/-
# `RowBridge.Text.Cut` — pieces of a text between two bytes

A place in a text is a number of bytes of its UTF-8 form.  A text can be cut at
a place between two characters or at one of its ends; a cut inside a character
is an `Abort`.  A reader that counts places in one text and cuts another one may
meet such a place, so its refusals are of two kinds.
-/
import RowBridge.Abort
import RowBridge.Text.Rule

namespace RowBridge.Text

def byteLength : List Char → Nat
  | [] => 0
  | c :: rest => c.utf8Size + byteLength rest

/-- What stands before and behind a place of a text whose first byte has the
number `first`; a place beyond the end counts as the end. -/
def cutAt (cutEnd : CutEnd) (place : Nat) : (first : Nat) → List Char →
    Except Abort (List Char × List Char)
  | _, [] => .ok ([], [])
  | first, c :: rest =>
      if place ≤ first then .ok ([], c :: rest)
      else if place < first + c.utf8Size then .error (.cutInside cutEnd place c first)
      else (cutAt cutEnd place (first + c.utf8Size) rest).map fun (before, after) =>
        (c :: before, after)

def cutBefore (place : Nat) (s : List Char) : Except Abort (List Char) :=
  (cutAt .stop place 0 s).map (·.1)

def cutFrom (place : Nat) (s : List Char) : Except Abort (List Char) :=
  (cutAt .start place 0 s).map (·.2)

/-- The text between two places, of which the first is looked at first. -/
def cutBetween (start stop : Nat) (s : List Char) : Except Abort (List Char) :=
  (cutFrom start s).bind fun rest => (cutAt .stop stop start rest).map (·.1)

/-! ## Readers that cut -/

/-- Why a reader gives no value. -/
inductive Refusal
  /-- The text is not written as the reader wants it. -/
  | unreadable
  | aborted (abort : Abort)
  deriving DecidableEq, Repr

/-- Takes a value from the left of a text, or says why not. -/
abbrev Reading (α : Type) := List Char → Except Refusal (α × List Char)

def orAborted {α : Type} (cut : Except Abort α) : Except Refusal α := cut.mapError .aborted

/-- A value, for a reader that refuses the text if there is none. -/
def orUnreadable {α : Type} : Option α → Except Refusal α
  | some value => .ok value
  | none => .error .unreadable

end RowBridge.Text
