/-
# `RowBridge.Proofs.Session.Traffic` — the laws of a session, whoever acts next

A session is used by several parties at once: one thread enqueues, another one
takes items or goes away, and anybody with a handle closes.  `Traffic` is a
session in use together with a record of what has happened to it: the items
received, the enqueues that are over, and every attempt to close.
`Traffic.step?` is one move of one of the parties; an enqueue takes several
moves, and any other party may move in between.

**Proved here**, of every state that any schedule of moves leads to (`Lawful`):

* what the consumer received, followed by what is queued, is what was accepted,
  in order;
* the queue never holds more than its capacity;
* an enqueue that began after a closing is not accepted, and one that is not
  accepted leaves the session closed;
* at most one attempt to close succeeds, and its reason is the recorded one;
* a session that refuses items is closed, and one whose consumer is gone refuses
  them and holds none.

The reason of a closing and the list of accepted items of a refusing session
never change again (`Settled`).

The record is only written, never read: it has no influence on what the session
does.
-/
import RowBridge.Proofs.Run
import RowBridge.Proofs.Session.Enqueue

namespace RowBridge

/-- The item that a look at the queue found. -/
def Received.item? {R : Type} : Received R → Option (Item R)
  | .item found => some found
  | _ => none

/-- The reason with which a moment of an enqueue tries to close the session. -/
def SendStage.attempt? {R : Type} (runtime : Bool) (s : Session R) :
    SendStage → Option ClosureReason
  | .entering => if s.isClosed || runtime then none else some .sourceFailure
  | .settling outcome => SendStage.closing outcome
  | _ => none

/-- An enqueue under way. -/
structure Sending (R : Type) where
  item : Item R
  stage : SendStage
  /-- The session was closed when the enqueue began. -/
  late : Bool

/-- An enqueue that is over. -/
structure Dispatch (R : Type) where
  item : Item R
  late : Bool
  outcome : SendOutcome

/-- A session in use, and what has happened to it. -/
structure Traffic (R : Type) where
  session : Session R
  sending : Option (Sending R)
  received : List (Item R)
  dispatches : List (Dispatch R)
  /-- The attempts to close the session, and whether they succeeded. -/
  attempts : List (ClosureReason × Bool)

/-- A move of one of the parties to a session. -/
inductive SessionMove (R : Type)
  | send (item : Item R)
  /-- The enqueue under way goes one moment further. -/
  | advance (runtime expired : Bool)
  /-- The waiting enqueue is woken. -/
  | recheck
  | receive
  | receiveAside
  /-- Whoever holds a half or a closer closes the session. -/
  | close (reason : ClosureReason)
  | cancel
  | dropProducer
  | dropConsumer

/-- The item of an enqueue that succeeded. -/
def Dispatch.accepted? {R : Type} (d : Dispatch R) : Option (Item R) :=
  match d.outcome with
  | .sent => some d.item
  | _ => none

variable {R : Type}

namespace Session

/-- A session that refuses items, or has lost its consumer, is closed. -/
structure Guarded (s : Session R) : Prop where
  refusing : s.refusing = true → s.isClosed = true
  gone : s.consumerGone = true → s.isClosed = true

theorem guarded_fresh (capacity : Nat) : (fresh capacity : Session R).Guarded := ⟨nofun, nofun⟩

theorem Guarded.of_frame {s s' : Session R} (h : s.Guarded)
    (hc : s.isClosed = true → s'.isClosed = true) (hr : s'.refusing = s.refusing)
    (hg : s'.consumerGone = s.consumerGone) : s'.Guarded :=
  ⟨fun h' => hc (h.refusing (hr ▸ h')), fun h' => hc (h.gone (hg ▸ h'))⟩

end Session

namespace Traffic

/-- A session that nobody has used. -/
def start (session : Session R) : Traffic R := ⟨session, none, [], [], []⟩

/-- The items of the enqueues that succeeded, in order. -/
def accepted (t : Traffic R) : List (Item R) := t.dispatches.filterMap Dispatch.accepted?

/-- The reasons of the attempts to close that succeeded. -/
def successes (t : Traffic R) : List ClosureReason := (t.attempts.filter (·.2)).map (·.1)

/-- Notes an attempt to close, which succeeds if the session is open. -/
def note (t : Traffic R) : Option ClosureReason → Traffic R
  | none => t
  | some reason => { t with attempts := t.attempts ++ [(reason, !t.session.isClosed)] }

/-- Takes over what a look at the queue left behind and found. -/
def take (t : Traffic R) (polled : Session R × Received R) : Traffic R :=
  { t with session := polled.1, received := t.received ++ polled.2.item?.toList }

/-- The enqueue under way goes on, and is on record once it is over. -/
def goOn (t : Traffic R) (x : Sending R) : SendStage → Traffic R
  | .done outcome =>
      { t with sending := none, dispatches := t.dispatches ++ [⟨x.item, x.late, outcome⟩] }
  | stage => { t with sending := some { x with stage := stage } }

/-- One moment of the enqueue under way. -/
def advance (runtime expired : Bool) (t : Traffic R) (x : Sending R) : Traffic R :=
  let step := x.stage.advance runtime expired t.session x.item
  let noted := t.note (x.stage.attempt? runtime t.session)
  { noted with session := step.session }.goOn x step.stage

/-- Whether the producer half is there and free for an enqueue. -/
def isFree (t : Traffic R) : Bool := !t.session.producerGone && t.sending.isNone

/-- One move; a half that is gone or busy makes none. -/
def step? (t : Traffic R) : SessionMove R → Option (Traffic R)
  | .send item =>
      if t.isFree then some { t with sending := some ⟨item, .entering, t.session.isClosed⟩ }
      else none
  | .advance runtime expired => t.sending.map (t.advance runtime expired)
  | .recheck =>
      t.sending.map fun x => { t with sending := some { x with stage := x.stage.recheck } }
  | .receive => if t.session.consumerGone then none else some (t.take t.session.poll)
  | .receiveAside =>
      if t.session.consumerGone then none else some (t.take t.session.receiveAside)
  | .close reason => some { t.note (some reason) with session := t.session.close reason }
  | .cancel =>
      if t.session.consumerGone then none
      else some { t.note (some .cancelled) with session := t.session.cancel }
  | .dropProducer =>
      if t.isFree then some { t with session := t.session.dropProducer } else none
  | .dropConsumer =>
      if t.session.consumerGone then none
      else some { t.note (some .cancelled) with session := t.session.dropConsumer }

/-! ## The laws -/

/-- What holds of a session whose queue was opened with room for `capacity`
items. -/
structure Lawful (capacity : Nat) (t : Traffic R) : Prop where
  /-- While the consumer is there nothing is lost, doubled or moved. -/
  conserved : t.session.consumerGone = false → t.received ++ t.session.queue = t.accepted
  /-- Nothing is received but what was accepted, and in that order. -/
  received_accepted : t.received <+: t.accepted
  bounded : t.session.queue.length ≤ capacity
  late_refused : ∀ d ∈ t.dispatches, d.late = true → d.outcome ≠ .sent
  unsent_closed : ∀ d ∈ t.dispatches, d.outcome ≠ .sent → t.session.isClosed = true
  /-- The attempt that succeeded is the one whose reason is recorded, and there
  is no other. -/
  closed_once : t.successes = t.session.reason.toList
  refusing_closed : t.session.refusing = true → t.session.isClosed = true
  dropped_refusing : t.session.consumerGone = true → t.session.refusing = true
  dropped_empty : t.session.consumerGone = true → t.session.queue = []

/-- What a session that was in state `t` keeps for good. -/
structure Settled (t later : Traffic R) : Prop where
  reason_kept : ∀ reason, t.session.reason = some reason → later.session.reason = some reason
  refusing_kept : t.session.refusing = true → later.session.refusing = true
  /-- A session that refuses items accepts none. -/
  accepts_none : t.session.refusing = true → later.accepted = t.accepted

/-- The laws, and where the enqueue under way stands. -/
structure Invariant (capacity : Nat) (t : Traffic R) : Prop extends Lawful capacity t where
  capacity_eq : t.session.capacity = capacity
  sound : ∀ x, t.sending = some x → x.stage.Sound t.session ∧ x.stage.isDone = false
  /-- An enqueue that began late is turned away in its first moment. -/
  late_entering : ∀ x, t.sending = some x → x.late = true →
    x.stage = .entering ∧ t.session.isClosed = true

/-! ## The record -/

/-- A successful attempt is the one that finds the session open. -/
theorem successes_note (t : Traffic R) (attempt : Option ClosureReason)
    (h : t.successes = t.session.reason.toList) :
    (t.note attempt).successes = (t.session.reason.or attempt).toList := by
  cases attempt with
  | none => simpa [note] using h
  | some reason =>
      unfold successes at h ⊢
      cases hr : t.session.reason with
      | none =>
          rw [hr] at h
          simp [note, Session.isClosed_eq_isSome, hr, h]
      | some first =>
          rw [hr] at h
          simp [note, Session.isClosed_eq_isSome, hr, h]

@[simp] theorem note_session (t : Traffic R) (attempt : Option ClosureReason) :
    (t.note attempt).session = t.session := by cases attempt <;> rfl

@[simp] theorem note_sending (t : Traffic R) (attempt : Option ClosureReason) :
    (t.note attempt).sending = t.sending := by cases attempt <;> rfl

@[simp] theorem note_received (t : Traffic R) (attempt : Option ClosureReason) :
    (t.note attempt).received = t.received := by cases attempt <;> rfl

@[simp] theorem note_dispatches (t : Traffic R) (attempt : Option ClosureReason) :
    (t.note attempt).dispatches = t.dispatches := by cases attempt <;> rfl

/-! ## Each move keeps the laws

The moves fall into three kinds: an attempt to close, with whatever else it does
to the two halves; a look at the queue; and a moment of the enqueue under way. -/

section
variable {capacity : Nat} {t : Traffic R}

theorem invariant_start {s : Session R} (hs : Session.open? capacity = .ok s) :
    Invariant capacity (start s) := by
  cases Session.eq_fresh_of_open? hs
  exact {
    conserved := fun _ => rfl
    received_accepted := List.prefix_refl _
    bounded := Nat.zero_le _
    late_refused := fun _ h => absurd h List.not_mem_nil
    unsent_closed := fun _ h => absurd h List.not_mem_nil
    closed_once := rfl
    refusing_closed := fun h => nomatch h
    dropped_refusing := fun h => nomatch h
    dropped_empty := fun _ => rfl
    capacity_eq := rfl
    sound := fun _ h => nomatch h
    late_entering := fun _ h => nomatch h }

/-- A session that was closed stays closed when somebody attempts to close it. -/
theorem isClosed_of_or {s s' : Session R} {attempt : Option ClosureReason}
    (h : s'.reason = s.reason.or attempt) (hc : s.isClosed = true) : s'.isClosed = true := by
  rw [Session.isClosed_eq_isSome] at hc ⊢
  rw [h, Option.isSome_or, hc, Bool.true_or]

/-- An attempt to close, made by a party that may also go away with the queue. -/
theorem Invariant.closing (h : Invariant capacity t) {s : Session R}
    (attempt : Option ClosureReason) (hreason : s.reason = t.session.reason.or attempt)
    (hcapacity : s.capacity = t.session.capacity)
    (hqueue : (s.queue = t.session.queue ∧ s.consumerGone = t.session.consumerGone) ∨
      (s.queue = [] ∧ s.consumerGone = true))
    (hrefusing : s.refusing = true → s.isClosed = true)
    (hgone : s.consumerGone = true → s.refusing = true) :
    Invariant capacity { t.note attempt with session := s } := by
  have hclosed : t.session.isClosed = true → s.isClosed = true := isClosed_of_or hreason
  exact {
    conserved := by
      intro hc
      obtain ⟨hq, hc'⟩ | ⟨-, hc'⟩ := hqueue
      · simpa [accepted, hq] using h.conserved (hc' ▸ hc)
      · exact absurd (hc.symm.trans hc') Bool.false_ne_true
    received_accepted := by simpa [accepted] using h.received_accepted
    bounded := by
      obtain ⟨hq, -⟩ | ⟨hq, -⟩ := hqueue
      · exact hq ▸ h.bounded
      · exact hq ▸ Nat.zero_le _
    late_refused := by simpa using h.late_refused
    unsent_closed := by
      intro d hd ho
      exact hclosed (h.unsent_closed d (by simpa using hd) ho)
    closed_once := by
      rw [hreason, ← successes_note t attempt h.closed_once]
      rfl
    refusing_closed := hrefusing
    dropped_refusing := hgone
    dropped_empty := by
      intro hg
      obtain ⟨hq, hc⟩ | ⟨hq, -⟩ := hqueue
      · exact hq.trans (h.dropped_empty (hc.symm.trans hg))
      · exact hq
    capacity_eq := hcapacity.trans h.capacity_eq
    sound := by
      intro x hx
      obtain ⟨hs, hd⟩ := h.sound x (by simpa using hx)
      exact ⟨hs.of_isClosed hclosed, hd⟩
    late_entering := by
      intro x hx hl
      obtain ⟨he, hc⟩ := h.late_entering x (by simpa using hx) hl
      exact ⟨he, hclosed hc⟩ }

/-- What a look at the queue does: the first item, if there is one, has left the
queue. -/
structure Looked (s : Session R) (polled : Session R × Received R) : Prop where
  queue : polled.2.item?.toList ++ polled.1.queue = s.queue
  reason : polled.1.reason = s.reason
  capacity : polled.1.capacity = s.capacity
  refusing : polled.1.refusing = s.refusing
  consumerGone : polled.1.consumerGone = s.consumerGone

theorem looked_receiveAside (s : Session R) : Looked s s.receiveAside := by
  unfold Session.receiveAside
  split
  · next item rest hq => exact ⟨hq.symm, rfl, rfl, rfl, rfl⟩
  · next hq =>
    split
    · exact ⟨rfl, rfl, rfl, rfl, rfl⟩
    · refine ⟨?_, rfl, rfl, rfl, rfl⟩
      cases s.refusing <;> rfl

/-- A poll looks at the queue as any other party does; it differs in the bell
only. -/
theorem looked_poll (s : Session R) : Looked s s.poll := by
  dsimp only [Session.poll]
  split
  · next item rest hq => exact ⟨hq.symm, rfl, rfl, rfl, rfl⟩
  · next hq =>
    split
    · exact ⟨rfl, rfl, rfl, rfl, rfl⟩
    · refine ⟨?_, rfl, rfl, rfl, rfl⟩
      cases s.hush.refusing <;> rfl

theorem Invariant.looking (h : Invariant capacity t) (hc : t.session.consumerGone = false)
    {polled : Session R × Received R} (hl : Looked t.session polled) :
    Invariant capacity (t.take polled) := by
  have hclosed : polled.1.isClosed = t.session.isClosed := by
    rw [Session.isClosed_eq_isSome, Session.isClosed_eq_isSome, hl.reason]
  have hflow : (t.received ++ polled.2.item?.toList) ++ polled.1.queue = t.accepted := by
    rw [List.append_assoc, hl.queue, h.conserved hc]
  exact {
    conserved := fun _ => hflow
    received_accepted := ⟨polled.1.queue, hflow⟩
    bounded := by
      have hlen := congrArg List.length hl.queue
      rw [List.length_append] at hlen
      exact Nat.le_trans (by simp [take]; omega) h.bounded
    late_refused := h.late_refused
    unsent_closed := fun d hd ho => hclosed.trans (h.unsent_closed d hd ho)
    closed_once := by
      show t.successes = polled.1.reason.toList
      rw [hl.reason, h.closed_once]
    refusing_closed := fun hr => hclosed.trans (h.refusing_closed (hl.refusing ▸ hr))
    dropped_refusing := fun hg => hl.refusing.trans (h.dropped_refusing (hl.consumerGone ▸ hg))
    dropped_empty := by
      intro hg
      exact absurd (hc.symm.trans (hl.consumerGone.symm.trans hg)) Bool.false_ne_true
    capacity_eq := hl.capacity.trans h.capacity_eq
    sound := by
      intro x hx
      obtain ⟨hs, hd⟩ := h.sound x hx
      exact ⟨hs.of_isClosed fun hc => hclosed.trans hc, hd⟩
    late_entering := by
      intro x hx hl'
      obtain ⟨he, hc⟩ := h.late_entering x hx hl'
      exact ⟨he, hclosed.trans hc⟩ }

/-! ### A moment of the enqueue under way -/

theorem reserve_reason (s : Session R) (item : Item R) (expired : Bool) :
    (SendStage.reserve s item expired).1.reason = s.reason := by
  unfold SendStage.reserve
  split
  · rfl
  · split
    · rfl
    · split <;> rfl

/-- The reason after a moment of an enqueue is that of the attempt the moment
makes, if any. -/
theorem advance_reason (runtime expired : Bool) (s : Session R) (item : Item R)
    (stage : SendStage) :
    (stage.advance runtime expired s item).session.reason =
      s.reason.or (stage.attempt? runtime s) := by
  cases stage with
  | entering =>
      cases hc : s.isClosed with
      | true => simp [SendStage.advance, SendStage.attempt?, hc]
      | false =>
          cases runtime with
          | true => simp [SendStage.advance, SendStage.attempt?, hc]
          | false =>
              simp [SendStage.advance, SendStage.attempt?, hc, Session.reason_of_isOpen hc]
  | settling outcome =>
      cases hr : SendStage.closing outcome with
      | none => simp [SendStage.advance, SendStage.attempt?, hr]
      | some reason =>
          simp only [SendStage.advance, SendStage.attempt?, hr, Session.close_reason]
          cases s.reason <;> rfl
  | polling => simp [SendStage.advance, SendStage.attempt?]
  | reserving => exact (reserve_reason s item expired).trans Option.or_none.symm
  | waiting =>
      cases hc : s.isClosed with
      | true => simp [SendStage.advance, SendStage.attempt?, hc]
      | false =>
          simpa [SendStage.advance, SendStage.attempt?, hc] using reserve_reason s item expired
  | done outcome => simp [SendStage.advance, SendStage.attempt?]

/-- An enqueue that began late is turned away at once. -/
theorem moves_of_late {runtime expired : Bool} {s s' : Session R} {item : Item R}
    {stage stage' : SendStage} (h : SendStage.Moves runtime expired s item stage s' stage')
    (he : stage = .entering) (hc : s.isClosed = true) : stage' = .done .closed := by
  subst he
  cases h with
  | turnedAway => rfl
  | strands ho => exact absurd (ho.symm.trans hc) Bool.false_ne_true
  | goesIn ho => exact absurd (ho.symm.trans hc) Bool.false_ne_true
  | refused _ hl => cases hl
  | lands _ _ hl => cases hl
  | expires _ _ _ hl => cases hl
  | waits _ _ _ hl => cases hl

/-- What the session of an enqueue is after a moment that did not end it well. -/
theorem Invariant.unsent (h : Invariant capacity t) {s : Session R} {attempt : Option ClosureReason}
    (hreason : s.reason = t.session.reason.or attempt) (hqueue : s.queue = t.session.queue)
    (hframe : s.capacity = t.session.capacity ∧ s.refusing = t.session.refusing ∧
      s.producerGone = t.session.producerGone ∧ s.consumerGone = t.session.consumerGone) :
    Invariant capacity { t.note attempt with session := s } := by
  obtain ⟨hcap, href, -, hgone⟩ := hframe
  refine h.closing attempt hreason hcap (Or.inl ⟨hqueue, hgone⟩) ?_ ?_
  · intro hr
    exact isClosed_of_or hreason (h.refusing_closed (href ▸ hr))
  · intro hg
    exact href.trans (h.dropped_refusing (hgone ▸ hg))

/-- The laws do not speak of the enqueue under way. -/
theorem Invariant.withSending (h : Invariant capacity t) {sending : Option (Sending R)}
    (hs : ∀ x, sending = some x → x.stage.Sound t.session ∧ x.stage.isDone = false)
    (hl : ∀ x, sending = some x → x.late = true →
      x.stage = .entering ∧ t.session.isClosed = true) :
    Invariant capacity { t with sending := sending } where
  conserved := h.conserved
  received_accepted := h.received_accepted
  bounded := h.bounded
  late_refused := h.late_refused
  unsent_closed := h.unsent_closed
  closed_once := h.closed_once
  refusing_closed := h.refusing_closed
  dropped_refusing := h.dropped_refusing
  dropped_empty := h.dropped_empty
  capacity_eq := h.capacity_eq
  sound := hs
  late_entering := hl

/-- The enqueue under way is not over yet. -/
theorem Invariant.goesOn (h : Invariant capacity t) (x : Sending R) {stage : SendStage}
    (hs : stage.Sound t.session) (hd : stage.isDone = false) (hl : x.late = false) :
    Invariant capacity (t.goOn x stage) := by
  have heq : t.goOn x stage = { t with sending := some { x with stage := stage } } := by
    cases stage with
    | done => cases hd
    | _ => rfl
  rw [heq]
  refine h.withSending ?_ ?_
  · intro y hy
    cases hy
    exact ⟨hs, hd⟩
  · intro y hy hl'
    cases hy
    exact absurd (hl.symm.trans hl') Bool.false_ne_true

theorem accepted_goOn_done (t : Traffic R) (x : Sending R) (outcome : SendOutcome) :
    (t.goOn x (.done outcome)).accepted =
      t.accepted ++ (Dispatch.accepted? ⟨x.item, x.late, outcome⟩).toList := by
  simp only [accepted, goOn, List.filterMap_append]
  cases outcome <;> rfl

/-- The enqueue under way ends without success. -/
theorem Invariant.fails (h : Invariant capacity t) (x : Sending R) {outcome : SendOutcome}
    (ho : outcome ≠ .sent) (hc : t.session.isClosed = true) :
    Invariant capacity (t.goOn x (.done outcome)) := by
  have haccepted : (t.goOn x (.done outcome)).accepted = t.accepted := by
    rw [accepted_goOn_done]
    cases outcome with
    | sent => exact absurd rfl ho
    | _ => exact List.append_nil _
  exact {
    conserved := fun hg => haccepted ▸ h.conserved hg
    received_accepted := haccepted ▸ h.received_accepted
    bounded := h.bounded
    late_refused := by
      intro d hd hl
      rcases List.mem_append.mp hd with hd | hd
      · exact h.late_refused d hd hl
      · cases List.mem_singleton.mp hd
        exact ho
    unsent_closed := fun _ _ _ => hc
    closed_once := h.closed_once
    refusing_closed := h.refusing_closed
    dropped_refusing := h.dropped_refusing
    dropped_empty := h.dropped_empty
    capacity_eq := h.capacity_eq
    sound := fun _ hx => nomatch hx
    late_entering := fun _ hx => nomatch hx }

/-- The enqueue under way finds room. -/
theorem Invariant.lands (h : Invariant capacity t) (x : Sending R) (hl : x.late = false)
    (hr : t.session.refusing = false) (hroom : t.session.hasRoom = true) :
    Invariant capacity
      ({ t with session := t.session.enqueue x.item }.goOn x (.done .sent)) := by
  have hthere : t.session.consumerGone = false := by
    cases hg : t.session.consumerGone with
    | false => rfl
    | true => exact absurd (hr.symm.trans (h.dropped_refusing hg)) Bool.false_ne_true
  have hflow : t.received ++ (t.session.queue ++ [x.item]) = t.accepted ++ [x.item] := by
    rw [← List.append_assoc, h.conserved hthere]
  have haccepted : ({ t with session := t.session.enqueue x.item }.goOn x (.done .sent)).accepted =
      t.accepted ++ [x.item] := accepted_goOn_done _ _ _
  exact {
    conserved := fun _ => haccepted ▸ hflow
    received_accepted := haccepted ▸ ⟨t.session.queue ++ [x.item], hflow⟩
    bounded := by
      have hlt : t.session.queue.length < capacity := by
        simpa [Session.hasRoom, h.capacity_eq] using hroom
      show (t.session.queue ++ [x.item]).length ≤ capacity
      rw [List.length_append, List.length_singleton]
      omega
    late_refused := by
      intro d hd hl'
      rcases List.mem_append.mp hd with hd | hd
      · exact h.late_refused d hd hl'
      · cases List.mem_singleton.mp hd
        exact absurd (hl.symm.trans hl') Bool.false_ne_true
    unsent_closed := by
      intro d hd ho
      rcases List.mem_append.mp hd with hd | hd
      · exact h.unsent_closed d hd ho
      · cases List.mem_singleton.mp hd
        exact absurd rfl ho
    closed_once := h.closed_once
    refusing_closed := h.refusing_closed
    dropped_refusing := h.dropped_refusing
    dropped_empty := by
      intro hg
      exact absurd (hthere.symm.trans hg) Bool.false_ne_true
    capacity_eq := h.capacity_eq
    sound := fun _ hx => nomatch hx
    late_entering := fun _ hx => nomatch hx }

theorem attempt?_of_looksForRoom {runtime : Bool} {s : Session R} {stage : SendStage}
    (h : stage.looksForRoom = true) : stage.attempt? runtime s = none := by
  cases stage with
  | reserving => rfl
  | waiting => rfl
  | _ => cases h

theorem Invariant.advance (h : Invariant capacity t) {x : Sending R} (hx : t.sending = some x)
    (runtime expired : Bool) : Invariant capacity (t.advance runtime expired x) := by
  obtain ⟨hs, hd⟩ := h.sound x hx
  have hm := SendStage.advance_moves runtime expired x.item hs hd
  have hreason := advance_reason runtime expired t.session x.item x.stage
  -- from here on only the rules for enqueues count, not how `advance` computes
  dsimp only [Traffic.advance]
  generalize (x.stage.advance runtime expired t.session x.item).session = s at *
  generalize (x.stage.advance runtime expired t.session x.item).stage = stage at *
  have hbase : stage ≠ .done .sent →
      Invariant capacity { t.note (x.stage.attempt? runtime t.session) with session := s } := by
    intro hne
    rcases hm.queue with ⟨heq, -⟩ | ⟨-, hqueue⟩
    · exact absurd heq hne
    · exact h.unsent hreason hqueue hm.frame
  have hlate : stage ≠ .done .closed → x.late = false := by
    intro hne
    cases hl : x.late with
    | false => rfl
    | true =>
        obtain ⟨he, hc⟩ := h.late_entering x hx hl
        exact absurd (moves_of_late hm he hc) hne
  have hsound := hm.sound
  cases stage with
  | done outcome =>
      rcases hm.queue with ⟨heq, hlooks, hr, hroom, rfl⟩ | ⟨hne, -⟩
      · cases heq
        rw [attempt?_of_looksForRoom hlooks]
        exact h.lands x (hlate (by simp)) hr hroom
      · have ho : outcome ≠ .sent := fun ho => hne (by rw [ho])
        exact (hbase hne).fails x ho (hsound.resolve_left ho)
  | _ => exact (hbase (by simp)).goesOn x hsound rfl (hlate (by simp))

/-- Every move keeps the laws. -/
theorem Invariant.step (h : Invariant capacity t) {move : SessionMove R} {t' : Traffic R}
    (hstep : t.step? move = some t') : Invariant capacity t' := by
  cases move with
  | send item =>
      obtain ⟨-, ⟨⟩⟩ := Option.ite_none_right_eq_some.mp hstep
      refine h.withSending ?_ ?_
      · intro x hx
        cases hx
        exact ⟨trivial, rfl⟩
      · intro x hx hl
        cases hx
        exact ⟨rfl, hl⟩
  | advance runtime expired =>
      obtain ⟨x, hx, rfl⟩ := Option.map_eq_some_iff.mp hstep
      exact h.advance hx runtime expired
  | recheck =>
      obtain ⟨x, hx, rfl⟩ := Option.map_eq_some_iff.mp hstep
      obtain ⟨hs, hd⟩ := h.sound x hx
      refine h.withSending ?_ ?_
      · intro y hy
        cases hy
        exact ⟨hs.recheck, (x.stage.isDone_recheck).trans hd⟩
      · intro y hy hl
        cases hy
        obtain ⟨he, hc⟩ := h.late_entering x hx hl
        exact ⟨by rw [he]; rfl, hc⟩
  | receive =>
      obtain ⟨hc, ⟨⟩⟩ := Option.ite_none_left_eq_some.mp hstep
      exact h.looking (by simpa using hc) (looked_poll _)
  | receiveAside =>
      obtain ⟨hc, ⟨⟩⟩ := Option.ite_none_left_eq_some.mp hstep
      exact h.looking (by simpa using hc) (looked_receiveAside _)
  | close reason =>
      cases hstep
      refine h.closing (some reason) ?_ (Session.close_capacity _ _)
        (Or.inl ⟨Session.close_queue _ _, Session.close_consumerGone _ _⟩)
        (fun _ => Session.close_isClosed _ _) ?_
      · exact Session.close_reason_eq_or _ _
      · intro hg
        rw [Session.close_consumerGone] at hg
        rw [Session.close_refusing]
        exact h.dropped_refusing hg
  | cancel =>
      obtain ⟨hc, ⟨⟩⟩ := Option.ite_none_left_eq_some.mp hstep
      refine h.closing (some .cancelled) ?_ (Session.close_capacity _ .cancelled)
        (Or.inl ⟨Session.close_queue _ .cancelled, Session.close_consumerGone _ .cancelled⟩)
        (fun _ => Session.close_isClosed _ .cancelled) (fun _ => rfl)
      exact Session.close_reason_eq_or _ .cancelled
  | dropProducer =>
      obtain ⟨-, ⟨⟩⟩ := Option.ite_none_right_eq_some.mp hstep
      refine h.closing none ?_ (Session.dropProducer_capacity _)
        (Or.inl ⟨Session.dropProducer_queue _, Session.dropProducer_consumerGone _⟩)
        ?_ ?_
      · rw [Session.dropProducer_reason, Option.or_none]
      · intro hr
        rw [Session.dropProducer_refusing] at hr
        rw [Session.dropProducer_isClosed]
        exact h.refusing_closed hr
      · intro hg
        rw [Session.dropProducer_consumerGone] at hg
        rw [Session.dropProducer_refusing]
        exact h.dropped_refusing hg
  | dropConsumer =>
      obtain ⟨hc, ⟨⟩⟩ := Option.ite_none_left_eq_some.mp hstep
      refine h.closing (some .cancelled) ?_ (Session.close_capacity _ .cancelled)
        (Or.inr ⟨rfl, rfl⟩) (fun _ => Session.close_isClosed _ .cancelled) (fun _ => rfl)
      exact Session.close_reason_eq_or _ .cancelled

end

/-! ## What stays as it is -/

theorem Settled.refl (t : Traffic R) : Settled t t := ⟨fun _ h => h, fun h => h, fun _ => rfl⟩

theorem Settled.trans {t u v : Traffic R} (h : Settled t u) (h' : Settled u v) : Settled t v where
  reason_kept reason hr := h'.reason_kept reason (h.reason_kept reason hr)
  refusing_kept hr := h'.refusing_kept (h.refusing_kept hr)
  accepts_none hr := (h'.accepts_none (h.refusing_kept hr)).trans (h.accepts_none hr)

/-- A move that accepts nothing settles what it has to when it does not reopen
the session. -/
theorem settled_of_or {t t' : Traffic R} {attempt : Option ClosureReason}
    (hreason : t'.session.reason = t.session.reason.or attempt)
    (hrefusing : t.session.refusing = true → t'.session.refusing = true)
    (haccepted : t'.accepted = t.accepted) : Settled t t' where
  reason_kept reason hr := by rw [hreason, hr, Option.some_or]
  refusing_kept := hrefusing
  accepts_none _ := haccepted

section
variable {capacity : Nat} {t t' : Traffic R}

theorem settled_advance (h : Invariant capacity t) {x : Sending R} (hx : t.sending = some x)
    (runtime expired : Bool) : Settled t (t.advance runtime expired x) := by
  obtain ⟨hs, hd⟩ := h.sound x hx
  have hm := SendStage.advance_moves runtime expired x.item hs hd
  have hreason := advance_reason runtime expired t.session x.item x.stage
  dsimp only [Traffic.advance]
  generalize (x.stage.advance runtime expired t.session x.item).session = s at *
  generalize (x.stage.advance runtime expired t.session x.item).stage = stage at *
  have hsession : ({ t.note (x.stage.attempt? runtime t.session) with session := s }.goOn x
      stage).session = s := by cases stage <;> rfl
  exact {
    reason_kept := fun reason hr => by rw [hsession, hreason, hr, Option.some_or]
    refusing_kept := fun hr => by rw [hsession, hm.frame.2.1, hr]
    accepts_none := by
      intro hr
      cases stage with
      | done outcome =>
          rw [accepted_goOn_done]
          rcases hm.queue with ⟨-, -, hr', -⟩ | ⟨hne, -⟩
          · exact absurd (hr'.symm.trans hr) Bool.false_ne_true
          · cases outcome with
            | sent => exact absurd rfl hne
            | _ => simp [accepted, Dispatch.accepted?]
      | _ => simp [goOn, accepted] }

/-- Every move settles. -/
theorem Invariant.settled (h : Invariant capacity t) {move : SessionMove R}
    (hstep : t.step? move = some t') : Settled t t' := by
  cases move with
  | send item =>
      obtain ⟨-, ⟨⟩⟩ := Option.ite_none_right_eq_some.mp hstep
      exact ⟨fun _ hr => hr, fun hr => hr, fun _ => rfl⟩
  | advance runtime expired =>
      obtain ⟨x, hx, rfl⟩ := Option.map_eq_some_iff.mp hstep
      exact settled_advance h hx runtime expired
  | recheck =>
      obtain ⟨x, hx, rfl⟩ := Option.map_eq_some_iff.mp hstep
      exact ⟨fun _ hr => hr, fun hr => hr, fun _ => rfl⟩
  | receive =>
      obtain ⟨-, ⟨⟩⟩ := Option.ite_none_left_eq_some.mp hstep
      have hl := looked_poll t.session
      exact ⟨fun _ hr => hl.reason.trans hr, fun hr => hl.refusing.trans hr, fun _ => rfl⟩
  | receiveAside =>
      obtain ⟨-, ⟨⟩⟩ := Option.ite_none_left_eq_some.mp hstep
      have hl := looked_receiveAside t.session
      exact ⟨fun _ hr => hl.reason.trans hr, fun hr => hl.refusing.trans hr, fun _ => rfl⟩
  | close reason =>
      cases hstep
      exact settled_of_or (Session.close_reason_eq_or _ _)
        (fun hr => (Session.close_refusing _ _).trans hr) (by simp [accepted])
  | cancel =>
      obtain ⟨-, ⟨⟩⟩ := Option.ite_none_left_eq_some.mp hstep
      exact settled_of_or (Session.close_reason_eq_or _ .cancelled) (fun _ => rfl)
        (by simp [accepted])
  | dropProducer =>
      obtain ⟨-, ⟨⟩⟩ := Option.ite_none_right_eq_some.mp hstep
      exact ⟨fun _ hr => (Session.dropProducer_reason _).trans hr,
        fun hr => (Session.dropProducer_refusing _).trans hr, fun _ => rfl⟩
  | dropConsumer =>
      obtain ⟨-, ⟨⟩⟩ := Option.ite_none_left_eq_some.mp hstep
      exact settled_of_or (Session.close_reason_eq_or _ .cancelled) (fun _ => rfl)
        (by simp [accepted])

theorem Invariant.settled_play (h : Invariant capacity t) {moves : List (SessionMove R)}
    (hplay : play? step? t moves = some t') : Settled t t' := by
  have hkeep : Invariant capacity t' ∧ Settled t t' := by
    refine play?_preserves (P := fun u => Invariant capacity u ∧ Settled t u) ?_
      ⟨h, .refl t⟩ hplay
    intro u u' move hu hstep
    exact ⟨hu.1.step hstep, hu.2.trans (hu.1.settled hstep)⟩
  exact hkeep.2

end

/-! ## Sessions under every schedule -/

/-- A received item is one that an enqueue got accepted. -/
theorem mem_accepted {t : Traffic R} {item : Item R} (h : item ∈ t.accepted) :
    ∃ d ∈ t.dispatches, d.item = item ∧ d.outcome = .sent := by
  obtain ⟨d, hd, hitem⟩ := List.mem_filterMap.mp h
  refine ⟨d, hd, ?_⟩
  cases ho : d.outcome with
  | sent =>
      rw [Dispatch.accepted?, ho] at hitem
      exact ⟨Option.some.inj hitem, rfl⟩
  | _ =>
      rw [Dispatch.accepted?, ho] at hitem
      cases hitem

/-- A closing releases an enqueue that waits for room, and without success. -/
theorem waiting_released {t : Traffic R} {x : Sending R} (hx : x.stage = .waiting)
    (hc : t.session.isClosed = true) (runtime expired : Bool) :
    (t.advance runtime expired x).sending = none ∧
      (t.advance runtime expired x).accepted = t.accepted := by
  simp [advance, hx, hc, SendStage.advance, goOn, accepted, Dispatch.accepted?]

/-- Whatever the parties to a session do and in whatever order, the session is
lawful, and what is settled at one moment is so at every later one.  An item is
received only if an enqueue of it succeeded, and an enqueue that waits while the
session is closed ends in its next moment. -/
theorem lawful_of_play {capacity : Nat} {session : Session R}
    (hopen : Session.open? capacity = .ok session) {moves : List (SessionMove R)} {t : Traffic R}
    (hplay : play? step? (start session) moves = some t) :
    Lawful capacity t ∧
      (∀ item ∈ t.received, ∃ d ∈ t.dispatches, d.item = item ∧ d.outcome = .sent) ∧
      (∀ x, t.sending = some x → x.stage = .waiting → t.session.isClosed = true →
        ∀ runtime expired, ∃ t', t.step? (.advance runtime expired) = some t' ∧
          t'.sending = none ∧ t'.accepted = t.accepted) ∧
      ∀ (later : List (SessionMove R)) (t' : Traffic R), play? step? t later = some t' →
        Settled t t' := by
  have h : Invariant capacity t :=
    play?_preserves (fun hu hstep => hu.step hstep) (invariant_start hopen) hplay
  refine ⟨h.toLawful, ?_, ?_,
    fun later t' hlater => h.settled_play hlater⟩
  · intro item hitem
    exact mem_accepted (h.received_accepted.subset hitem)
  · intro x hx hw hc runtime expired
    exact ⟨t.advance runtime expired x, by rw [step?, hx]; rfl, waiting_released hw hc _ _⟩

/-- A queue for one item: the first enqueue succeeds, the second waits, the
consumer cancels and then takes what it can still have. -/
def cancelledWait : List (SessionMove Nat) :=
  [.send (.value 7), .advance true false, .advance true false, .advance true false,
    .send (.value 8), .advance true false, .advance true false, .advance true false,
    .cancel, .receive, .advance true false, .receive]

theorem lawful_after_cancelled_wait :
    ∃ t : Traffic Nat, play? step? (start (Session.fresh 1)) cancelledWait = some t ∧
      t.dispatches.map (·.outcome) = [.sent, .closed] ∧ t.received = [.value 7] ∧ Lawful 1 t :=
  ⟨_, rfl, rfl, rfl, (@lawful_of_play Nat 1 (Session.fresh 1) rfl cancelledWait _ rfl).1⟩

end Traffic
end RowBridge
