/-
# `RowBridge.Subscriber` — being told instead of asking

A subscriber is told of every row and then, once, that the rows are complete or
that the stream was closed early.  It may answer a row by cancelling; then it is
told nothing more.

A subscriber's memory is a value of any type `σ`.
-/
import RowBridge.RowStream

namespace RowBridge

/-- A subscriber's answer to a row. -/
inductive Demand
  | more
  | cancel
  deriving DecidableEq, Repr

/-- What is done with each signal. -/
structure Subscriber (R σ : Type) where
  onNext : R → σ → Demand × σ
  onComplete : σ → σ
  onError : Error → σ → σ

def Subscriber.ofRows {R σ : Type} (onNext : R → σ → Demand × σ) : Subscriber R σ where
  onNext := onNext
  onComplete := id
  onError _ := id

/-- A stream that is being driven on behalf of a subscriber. -/
structure Subscription (Row R σ : Type) where
  stream : RowStream Row R
  memory : σ
  delivered : Nat
  /-- The stream has been driven to its end, or cancelled. -/
  ended : Bool

namespace Subscription

variable {Row R σ : Type}

def fresh (stream : RowStream Row R) (memory : σ) : Subscription Row R σ :=
  ⟨stream, memory, 0, false⟩

def leave (s : Subscription Row R σ) : Subscription Row R σ :=
  { s with stream := s.stream.drop, ended := true }

/-- The subscriber is told what a poll gave. -/
def react (subscriber : Subscriber R σ) (s : Subscription Row R σ) :
    Next R → Subscription Row R σ
  | .pending => s
  | .finished => { s with memory := subscriber.onComplete s.memory }.leave
  | .failed error => { s with memory := subscriber.onError error s.memory }.leave
  | .row row =>
      let answer := subscriber.onNext row s.memory
      let s := { s with memory := answer.2, delivered := s.delivered + 1 }
      match answer.1 with
      | .more => s
      | .cancel => { s with stream := s.stream.cancel }.leave

def pull (subscriber : Subscriber R σ) (runtime : Bool) (reception : Reception)
    (s : Subscription Row R σ) : Subscription Row R σ :=
  if s.ended then s
  else
    let polled := s.stream.poll runtime reception
    react subscriber { s with stream := polled.1 } polled.2

end Subscription
end RowBridge
