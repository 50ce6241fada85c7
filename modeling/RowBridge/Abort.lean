/-
# `RowBridge.Abort` — calls that cannot go on

Some calls refuse their argument outright instead of answering with an error: a
queue without room for one item, more permits than a counter holds, a back-off
factor beyond its range, a text to be cut at a byte that lies inside a
character.  User code (a row mapper, a row source) may give up in the same way,
with a text of its own.  Such a call ends in an `Abort`, which reaches whoever
made it.
-/
import RowBridge.Text.Quoted

namespace RowBridge

/-- Which end of a piece of text a place is. -/
inductive CutEnd
  | start
  | stop
  deriving DecidableEq, Repr

def CutEnd.text : CutEnd → String
  | start => "start"
  | stop => "end"

/-- Why a call could not go on. -/
inductive Abort
  /-- A queue was asked for without room for one item. -/
  | emptyQueue
  /-- More permits were asked for than a counter of permits holds. -/
  | tooManyPermits
  | factorOverflow
  | pauseOverflow
  | deadlineOverflow
  /-- A store was asked for without room for one item. -/
  | emptyStore
  /-- A text was to be cut at a byte inside a character, whose first byte is the
  one given. -/
  | cutInside (cutEnd : CutEnd) (place : Nat) (character : Char) (first : Nat)
  | raised (text : String)
  deriving DecidableEq, Repr

namespace Abort

def maxPermits : Nat := 2305843009213693951

/-- The text an abort carries. -/
def text : Abort → String
  | emptyQueue => "mpsc bounded channel requires buffer > 0"
  | tooManyPermits =>
      "a semaphore may not have more than MAX_PERMITS permits (" ++ toString maxPermits ++ ")"
  | factorOverflow => "attempt to exponentiate with overflow"
  | pauseOverflow => "overflow when multiplying duration by scalar"
  | deadlineOverflow => "overflow when adding duration to instant"
  | emptyStore => "capacity must be non-zero"
  | cutInside cutEnd place character first =>
      cutEnd.text ++ " byte index " ++ toString place ++
        " is not a char boundary; it is inside " ++ Text.quotedAlone character ++
        " (bytes " ++ toString first ++ ".." ++ toString (first + character.utf8Size) ++
        " of string)"
  | raised text => text

end Abort
end RowBridge
