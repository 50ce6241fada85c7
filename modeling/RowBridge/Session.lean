/-
# `RowBridge.Session` — one queue, two halves, one closer

A session joins a scan with its consumer: a bounded queue of items, a closer
that both sides and any holder of a handle share, and two halves that disappear
independently of each other.

Every operation is a function from a session to a session, small enough that an
interleaving of the two sides is a sequence of operations.  Enqueuing takes
several moments and has a module of its own (`RowBridge.Session.Send`).

**The bell.**  A consumer that finds nothing leaves its bell to be rung: at the
queue, and as a stream also at the closer.  An item or the end of the producer
half rings it at the queue, a closing rings it at the closer; whoever rings it
gives it up.  A poll that finds something leaves the bell where it is.
`Bell.rung` says whether the bell has been rung since the latest poll.
-/
import RowBridge.Abort
import RowBridge.Closer
import RowBridge.Item

namespace RowBridge

/-- The consumer's bell: where it hangs, and whether it has been rung since the
latest poll. -/
structure Bell where
  atQueue : Bool
  atCloser : Bool
  rung : Bool
  deriving DecidableEq, Repr

namespace Bell

def absent : Bell := ⟨false, false, false⟩

/-- A poll begins, and with it the time for which `rung` speaks. -/
def hush (b : Bell) : Bell := { b with rung := false }

def hangAtQueue (b : Bell) : Bell := { b with atQueue := true }

def leaveQueue (b : Bell) : Bell := { b with atQueue := false }

def hangAtCloser (b : Bell) : Bell := { b with atCloser := true }

/-- The queue rings the bell that hangs there and gives it up. -/
def ringAtQueue (b : Bell) : Bell :=
  if b.atQueue then { b with atQueue := false, rung := true } else b

/-- The closer rings the bell that hangs there and gives it up. -/
def ringAtCloser (b : Bell) : Bell :=
  if b.atCloser then { b with atCloser := false, rung := true } else b

end Bell

/-- The shared state of one invocation. -/
structure Session (R : Type) where
  capacity : Nat
  queue : List (Item R)
  closer : Closer
  /-- The consumer takes no further items. -/
  refusing : Bool
  producerGone : Bool
  consumerGone : Bool
  bell : Bell

/-- What one look at the queue finds. -/
inductive Received (R : Type)
  | item (item : Item R)
  | pending
  /-- The producer half is gone, or items are refused, and the queue is empty. -/
  | disconnected
  deriving DecidableEq, Repr

namespace Session

variable {R : Type}

/-- A session with an empty queue and both halves. -/
def fresh (capacity : Nat) : Session R where
  capacity := capacity
  queue := []
  closer := .fresh
  refusing := false
  producerGone := false
  consumerGone := false
  bell := .absent

/-- Opens a session; a queue has room for at least one item and for no more than
can be counted. -/
def open? (capacity : Nat) : Except Abort (Session R) :=
  if capacity = 0 then .error .emptyQueue
  else if Abort.maxPermits < capacity then .error .tooManyPermits
  else .ok (fresh capacity)

def isClosed (s : Session R) : Bool := s.closer.isClosed

def reason (s : Session R) : Option ClosureReason := s.closer.reason

def hasRoom (s : Session R) : Bool := s.queue.length < s.capacity

/-- Closes the session; only the closing that sets the reason rings. -/
def close (s : Session R) (reason : ClosureReason) : Session R :=
  if s.isClosed then s
  else { s with closer := s.closer.close reason, bell := s.bell.ringAtCloser }

def cancel (s : Session R) : Session R :=
  { s.close .cancelled with refusing := true }

def dropProducer (s : Session R) : Session R :=
  if s.producerGone then s
  else { s with producerGone := true, bell := s.bell.ringAtQueue }

/-- The consumer half goes away and takes the queue and its bell with it. -/
def dropConsumer (s : Session R) : Session R :=
  let s := s.close .cancelled
  { s with
    refusing := true
    queue := []
    consumerGone := true
    bell := { s.bell with atQueue := false, atCloser := false } }

def enqueue (s : Session R) (item : Item R) : Session R :=
  { s with queue := s.queue ++ [item], bell := s.bell.ringAtQueue }

def hush (s : Session R) : Session R := { s with bell := s.bell.hush }

/-- One look at the queue, leaving a bell where an item or the producer's end
may still come. -/
def poll (s : Session R) : Session R × Received R :=
  let s := s.hush
  match s.queue with
  | item :: rest => ({ s with queue := rest }, .item item)
  | [] =>
      if s.producerGone then (s, .disconnected)
      else
        ({ s with bell := s.bell.hangAtQueue }, if s.refusing then .disconnected else .pending)

/-- A look at the queue by another party, which takes the bell's place there and
then goes. -/
def receiveAside (s : Session R) : Session R × Received R :=
  match s.queue with
  | item :: rest => ({ s with queue := rest }, .item item)
  | [] =>
      if s.producerGone then (s, .disconnected)
      else
        ({ s with bell := s.bell.leaveQueue }, if s.refusing then .disconnected else .pending)

def watchCloser (s : Session R) : Session R := { s with bell := s.bell.hangAtCloser }

/-! ## What the operations leave alone

A closing and the end of the producer half look before they act; the rest of
this theory knows them by these equations. -/

theorem isClosed_eq_isSome (s : Session R) : s.isClosed = s.reason.isSome := rfl

theorem isClosed_of_reason {s : Session R} {reason : ClosureReason} (h : s.reason = some reason) :
    s.isClosed = true := by
  rw [isClosed_eq_isSome, h]; rfl

theorem reason_of_isOpen {s : Session R} (h : s.isClosed = false) : s.reason = none := by
  rw [isClosed_eq_isSome] at h
  exact Option.not_isSome_iff_eq_none.mp (by simp [h])

theorem close_of_isClosed {s : Session R} (reason : ClosureReason) (h : s.isClosed = true) :
    s.close reason = s := by
  rw [close, if_pos h]

@[simp] theorem close_capacity (s : Session R) (reason : ClosureReason) :
    (s.close reason).capacity = s.capacity := by unfold close; split <;> rfl

@[simp] theorem close_queue (s : Session R) (reason : ClosureReason) :
    (s.close reason).queue = s.queue := by unfold close; split <;> rfl

@[simp] theorem close_refusing (s : Session R) (reason : ClosureReason) :
    (s.close reason).refusing = s.refusing := by unfold close; split <;> rfl

@[simp] theorem close_producerGone (s : Session R) (reason : ClosureReason) :
    (s.close reason).producerGone = s.producerGone := by unfold close; split <;> rfl

@[simp] theorem close_consumerGone (s : Session R) (reason : ClosureReason) :
    (s.close reason).consumerGone = s.consumerGone := by unfold close; split <;> rfl

/-- The reason of a closing counts only where there was none. -/
@[simp] theorem close_reason (s : Session R) (reason : ClosureReason) :
    (s.close reason).reason = some (s.reason.getD reason) := by
  cases h : s.isClosed with
  | true =>
      obtain ⟨r, hr⟩ := Option.isSome_iff_exists.mp h
      rw [close_of_isClosed reason h, Session.reason, hr, Option.getD_some]
  | false =>
      have hr : s.closer.reason = none := reason_of_isOpen h
      simp [close, h, Session.reason, Closer.close, hr]

/-- An attempt to close, as far as the reason is concerned. -/
theorem close_reason_eq_or (s : Session R) (reason : ClosureReason) :
    (s.close reason).reason = s.reason.or (some reason) := by
  rw [close_reason]
  cases s.reason <;> rfl

@[simp] theorem close_isClosed (s : Session R) (reason : ClosureReason) :
    (s.close reason).isClosed = true := isClosed_of_reason (close_reason s reason)

/-- A queue that could be opened is empty and has the room that was asked for. -/
theorem eq_fresh_of_open? {capacity : Nat} {s : Session R} (h : open? capacity = .ok s) :
    s = fresh capacity := by
  unfold open? at h
  split at h
  · cases h
  · split at h
    · cases h
    · exact (Except.ok.inj h).symm

@[simp] theorem dropProducer_capacity (s : Session R) :
    s.dropProducer.capacity = s.capacity := by unfold dropProducer; split <;> rfl

@[simp] theorem dropProducer_queue (s : Session R) : s.dropProducer.queue = s.queue := by
  unfold dropProducer; split <;> rfl

@[simp] theorem dropProducer_refusing (s : Session R) :
    s.dropProducer.refusing = s.refusing := by unfold dropProducer; split <;> rfl

@[simp] theorem dropProducer_consumerGone (s : Session R) :
    s.dropProducer.consumerGone = s.consumerGone := by unfold dropProducer; split <;> rfl

@[simp] theorem dropProducer_producerGone (s : Session R) :
    s.dropProducer.producerGone = true := by
  unfold dropProducer
  split
  · assumption
  · rfl

@[simp] theorem dropProducer_reason (s : Session R) : s.dropProducer.reason = s.reason := by
  unfold dropProducer; split <;> rfl

@[simp] theorem dropProducer_isClosed (s : Session R) : s.dropProducer.isClosed = s.isClosed := by
  unfold dropProducer; split <;> rfl

/-- A later state of a session in which the queue and the consumer half are as
they were. -/
structure Keeps (s s' : Session R) : Prop where
  queue : s'.queue = s.queue
  capacity : s'.capacity = s.capacity
  refusing : s'.refusing = s.refusing
  consumerGone : s'.consumerGone = s.consumerGone
  producerGone : s.producerGone = true → s'.producerGone = true
  reason : ∀ {reason : ClosureReason}, s.reason = some reason → s'.reason = some reason

theorem Keeps.refl (s : Session R) : s.Keeps s := ⟨rfl, rfl, rfl, rfl, id, id⟩

theorem Keeps.trans {s t u : Session R} (h : s.Keeps t) (h' : t.Keeps u) : s.Keeps u where
  queue := h'.queue.trans h.queue
  capacity := h'.capacity.trans h.capacity
  refusing := h'.refusing.trans h.refusing
  consumerGone := h'.consumerGone.trans h.consumerGone
  producerGone := h'.producerGone ∘ h.producerGone
  reason := h'.reason ∘ h.reason

theorem Keeps.isClosed {s s' : Session R} (h : s.Keeps s') (hc : s.isClosed = true) :
    s'.isClosed = true := by
  obtain ⟨reason, hr⟩ := Option.isSome_iff_exists.mp hc
  exact isClosed_of_reason (h.reason hr)

/-- The bell is nobody's business but the consumer's. -/
theorem keeps_bell (s : Session R) (bell : Bell) : s.Keeps { s with bell := bell } :=
  ⟨rfl, rfl, rfl, rfl, id, id⟩

theorem keeps_close (s : Session R) (reason : ClosureReason) : s.Keeps (s.close reason) where
  queue := close_queue s reason
  capacity := close_capacity s reason
  refusing := close_refusing s reason
  consumerGone := close_consumerGone s reason
  producerGone h := (close_producerGone s reason).trans h
  reason h := by rw [close_reason, h, Option.getD_some]

theorem keeps_dropProducer (s : Session R) : s.Keeps s.dropProducer where
  queue := dropProducer_queue s
  capacity := dropProducer_capacity s
  refusing := dropProducer_refusing s
  consumerGone := dropProducer_consumerGone s
  producerGone _ := dropProducer_producerGone s
  reason h := (dropProducer_reason s).trans h

end Session
end RowBridge
