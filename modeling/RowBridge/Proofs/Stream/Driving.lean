/-
# `RowBridge.Proofs.Stream.Driving` — a stream that is driven for a subscriber

`Subscription.pull` is one poll and what the subscriber is told of it, during
which nobody else acts.  A `Drive` is the same in moves: an invocation whose
consumer is a driver, and between any two moves of the driver the scan may move
and anybody may close the session.  `Drive.step?` is one move.

    stage        the driver                                       next stage
    pulling      begins a poll, or takes it one moment further    pulling, telling
    telling      tells the subscriber what the poll gave          pulling, cancelling, leaving
    cancelling   cancels the stream                               leaving
    leaving      drops the stream                                 returned
    returned

A driver that was given nothing polls again, at any time.  `Drive.calls` is a
record of what the subscriber was told; nothing reads it.

`Drive.Does` lists what one move can do, and every invariant of a drive is a case
analysis on it.

**Proved here**: a driver that nobody interrupts makes one `Subscription.pull` after
the other (`Drive.leads_pulls`).
-/
import RowBridge.Proofs.Stream.Wakeups
import RowBridge.Proofs.Stream.Winding
import RowBridge.Subscriber

namespace RowBridge

variable {Row R σ : Type}

/-- The row a poll gave. -/
def Next.row? : Next R → Option R
  | .row value => some value
  | _ => none

/-- Where the driver of a stream is. -/
inductive DriveStage (R : Type)
  | pulling
  /-- A poll gave this, and the subscriber is about to be told. -/
  | telling (next : Next R)
  /-- The subscriber wants no more rows. -/
  | cancelling
  /-- There is nothing more to tell. -/
  | leaving
  | returned

namespace DriveStage

/-- What the subscriber is about to be told. -/
def due : DriveStage R → List (Next R)
  | telling next => [next]
  | _ => []

/-- The subscriber will be told more, as far as is known. -/
def isDriving : DriveStage R → Bool
  | pulling | telling _ => true
  | _ => false

def isLeaving : DriveStage R → Bool
  | leaving | returned => true
  | _ => false

/-- What comes after a moment of a poll. -/
def after : PollStage R → DriveStage R
  | .done .pending => pulling
  | .done next => telling next
  | _ => pulling

theorem after_of_ne {stage : PollStage R} (h : ∀ next, stage ≠ .done next) :
    after stage = pulling := by
  cases stage with
  | done next => exact absurd rfl (h next)
  | _ => rfl

theorem isDriving_after (stage : PollStage R) : (after stage).isDriving = true := by
  cases stage with
  | done next => cases next <;> rfl
  | _ => rfl

theorem after_ne_returned (stage : PollStage R) : after stage ≠ returned := by
  intro h
  have hdriving := isDriving_after stage
  rw [h] at hdriving
  cases hdriving

end DriveStage

/-- A poll that is over stays over. -/
theorem PollStage.run_done (runtime : Bool) (reception : Reception) (st : RowStream Row R)
    (next : Next R) (n : Nat) : run runtime reception n st (done next) = (st, done next) := by
  induction n with
  | zero => rfl
  | succ n ih => exact ih

namespace Subscriber

variable (subscriber : Subscriber R σ)

/-- What the subscriber remembers when it has been told this. -/
def hear (memory : σ) : Next R → σ
  | .row row => (subscriber.onNext row memory).2
  | .finished => subscriber.onComplete memory
  | .failed error => subscriber.onError error memory
  | .pending => memory

/-- Where the driver goes on when the subscriber has been told this. -/
def turn (memory : σ) : Next R → DriveStage R
  | .row row =>
      match (subscriber.onNext row memory).1 with
      | .more => .pulling
      | .cancel => .cancelling
  | .pending => .pulling
  | _ => .leaving

end Subscriber

/-- A stream that is driven for a subscriber. -/
structure Drive (Row R σ : Type) where
  invocation : Invocation Row R
  memory : σ
  delivered : Nat
  stage : DriveStage R
  /-- What the subscriber was told, in order. -/
  calls : List (Next R)

/-- A move of the driver, of the scan or of whoever holds a handle or a closer. -/
inductive DriveMove (Row : Type)
  /-- The driver goes on; if it polls, it does so from inside or outside a runtime,
  and the scheduler would receive the scan as said. -/
  | go (runtime : Bool) (reception : Reception)
  | scan (move : ScanMove Row)
  | close (reason : ClosureReason)
  | pass

def DriveMove.isGo : DriveMove Row → Bool
  | go _ _ => true
  | _ => false

namespace Drive

/-- A stream that is about to be driven, whatever was done to it before. -/
def start (v : Invocation Row R) (memory : σ) : Drive Row R σ := ⟨v, memory, 0, .pulling, []⟩

/-- The rows the subscriber was told of, in order. -/
def rows (d : Drive Row R σ) : List R := d.calls.filterMap Next.row?

/-- The drive after a move of its invocation. -/
def inside (d : Drive Row R σ) (move : Move Row) : Option (Drive Row R σ) :=
  (d.invocation.step? move).map fun v => { d with invocation := v }

/-- One moment of the poll under way. -/
def advance (runtime : Bool) (reception : Reception) (d : Drive Row R σ) (stage : PollStage R) :
    Drive Row R σ :=
  { d with
    invocation := d.invocation.advance runtime reception stage
    stage := .after (stage.advance runtime reception d.invocation.stream).2 }

/-- The subscriber is told what a poll gave; the rows it is told of are counted. -/
def tell (subscriber : Subscriber R σ) (d : Drive Row R σ) (next : Next R) : Drive Row R σ :=
  { d with
    memory := subscriber.hear d.memory next
    delivered := d.delivered + next.row?.toList.length
    stage := subscriber.turn d.memory next
    calls := d.calls ++ [next] }

def beginPoll (d : Drive Row R σ) : Drive Row R σ :=
  { d with invocation := { d.invocation with poll := some .entering } }

/-- The stream is cancelled for a subscriber that wants no more rows. -/
def cancel (d : Drive Row R σ) : Drive Row R σ :=
  { d with
    invocation :=
      { d.invocation with
        stream := d.invocation.stream.cancel
        diary := d.invocation.diary ++ [.cancelled] }
    stage := .leaving }

def leave (d : Drive Row R σ) : Drive Row R σ :=
  { d with
    invocation := { d.invocation with stream := d.invocation.stream.drop }
    stage := .returned }

/-- The next move of the driver, which needs the stream to itself. -/
def go? (subscriber : Subscriber R σ) (runtime : Bool) (reception : Reception)
    (d : Drive Row R σ) : Option (Drive Row R σ) :=
  match d.stage with
  | .pulling =>
      match d.invocation.poll with
      | none => if d.invocation.isFree then some d.beginPoll else none
      | some stage => some (d.advance runtime reception stage)
  | .telling next => some (d.tell subscriber next)
  | .cancelling => if d.invocation.isFree then some d.cancel else none
  | .leaving => if d.invocation.isFree then some d.leave else none
  | .returned => none

/-- One move; a party that is not at that point makes none. -/
def step? (subscriber : Subscriber R σ) (d : Drive Row R σ) : DriveMove Row → Option (Drive Row R σ)
  | .go runtime reception => d.go? subscriber runtime reception
  | .scan move => d.inside (.scan move)
  | .close reason => d.inside (.close reason)
  | .pass => some d

end Drive

/-! ## What one move can do -/

/-- What a move of another party than the consumer can do to an invocation. -/
structure Invocation.Beside (v v' : Invocation Row R) : Prop where
  stepped : ∃ move, v.step? move = some v'
  poll : v'.poll = v.poll
  diary : v'.diary = v.diary
  consumerGone : v'.session.consumerGone = v.session.consumerGone
  /-- Nothing is added to the queue of a producer that is gone. -/
  queue : v.session.producerGone = true →
    v'.session.producerGone = true ∧ v'.session.queue = v.session.queue

namespace Invocation

variable {v v' : Invocation Row R}

theorem Beside.refl (v : Invocation Row R) : v.Beside v :=
  ⟨⟨.pass, rfl⟩, rfl, rfl, rfl, fun hgone => ⟨hgone, rfl⟩⟩

theorem beside_close (v : Invocation Row R) (reason : ClosureReason) :
    v.Beside { v with stream := v.stream.close reason } where
  stepped := ⟨.close reason, rfl⟩
  poll := rfl
  diary := rfl
  consumerGone := Session.close_consumerGone _ _
  queue hgone := ⟨(Session.close_producerGone _ _).trans hgone, Session.close_queue _ _⟩

theorem Coherent.beside_scan (h : v.Coherent) {move : ScanMove Row}
    (hstep : v.step? (.scan move) = some v') : v.Beside v' := by
  obtain ⟨scan, hs, rfl⟩ := Option.map_eq_some_iff.mp hstep
  have hd := Scan.does_of_step? h.kept.accounts.sound hs
  refine ⟨⟨_, hstep⟩, rfl, rfl, hd.touches.frame.2.2, ?_⟩
  intro hgone
  have hover : v.phase.isOver = true := h.kept.accounts.gone.symm.trans hgone
  exact absurd (hd.isUnderWay.2.symm.trans hover) Bool.false_ne_true

end Invocation

namespace Drive

/-- What one move of the driver can do. -/
inductive Goes (subscriber : Subscriber R σ) (runtime : Bool) (reception : Reception)
    (d : Drive Row R σ) : Drive Row R σ → Prop
  | begins : d.stage = .pulling → d.invocation.isFree = true →
      Goes subscriber runtime reception d d.beginPoll
  | polls {stage stage' : PollStage R} {stream : RowStream Row R} : d.stage = .pulling →
      d.invocation.poll = some stage →
      stage.Gives runtime reception d.invocation.stream stream stage' →
      d.invocation.advance runtime reception stage =
        { d.invocation with stream := stream }.goOn stage' →
      Goes subscriber runtime reception d
        { d with
          invocation := { d.invocation with stream := stream }.goOn stage'
          stage := .after stage' }
  | tells {next : Next R} : d.stage = .telling next →
      Goes subscriber runtime reception d (d.tell subscriber next)
  | cancels : d.stage = .cancelling → d.invocation.isFree = true →
      Goes subscriber runtime reception d d.cancel
  | leaves : d.stage = .leaving → d.invocation.isFree = true →
      Goes subscriber runtime reception d d.leave

/-- What one move can do to a drive. -/
inductive Does (subscriber : Subscriber R σ) (d : Drive Row R σ) :
    DriveMove Row → Drive Row R σ → Prop
  | goes {runtime : Bool} {reception : Reception} {d' : Drive Row R σ} :
      d.Goes subscriber runtime reception d' → Does subscriber d (.go runtime reception) d'
  | aside {move : DriveMove Row} {v : Invocation Row R} : move.isGo = false →
      d.invocation.Beside v → Does subscriber d move { d with invocation := v }

section
variable {subscriber : Subscriber R σ} {runtime : Bool} {reception : Reception}
  {d d' : Drive Row R σ} {move : DriveMove Row}

theorem goes_of_go? (hv : d.invocation.Coherent)
    (h : d.go? subscriber runtime reception = some d') : d.Goes subscriber runtime reception d' := by
  unfold go? at h
  split at h
  · next hs =>
    split at h
    · obtain ⟨hf, ⟨⟩⟩ := Option.ite_none_right_eq_some.mp h
      exact .begins hs hf
    · next stage hp =>
      cases h
      have hne : ∀ next, stage ≠ .done next := by
        rintro next rfl
        exact hv.midway _ hp
      exact .polls hs hp (PollStage.gives_advance hne) rfl
  · next next hs =>
    cases h
    exact .tells hs
  · next hs =>
    obtain ⟨hf, ⟨⟩⟩ := Option.ite_none_right_eq_some.mp h
    exact .cancels hs hf
  · next hs =>
    obtain ⟨hf, ⟨⟩⟩ := Option.ite_none_right_eq_some.mp h
    exact .leaves hs hf
  · cases h

theorem does_of_step? (hv : d.invocation.Coherent) (h : d.step? subscriber move = some d') :
    d.Does subscriber move d' := by
  cases move with
  | go runtime reception => exact .goes (goes_of_go? hv h)
  | scan move =>
      obtain ⟨v, hv', rfl⟩ := Option.map_eq_some_iff.mp h
      exact .aside rfl (hv.beside_scan hv')
  | close reason =>
      cases h
      exact .aside rfl (d.invocation.beside_close reason)
  | pass =>
      cases h
      exact .aside rfl (.refl _)

/-- To its invocation every move of a drive is one of the moves of an invocation. -/
theorem Does.stepped (h : d.Does subscriber move d') :
    ∃ m, d.invocation.step? m = some d'.invocation := by
  cases h with
  | aside _ hb => exact hb.stepped
  | @goes runtime reception d' hg =>
      cases hg with
      | begins _ hf => exact ⟨.beginPoll, if_pos hf⟩
      | polls _ hp _ heq =>
          refine ⟨.poll runtime reception, ?_⟩
          rw [← heq]
          exact congrArg (Option.map _) hp
      | tells => exact ⟨.pass, rfl⟩
      | cancels _ hf => exact ⟨.cancel, if_pos hf⟩
      | leaves _ hf => exact ⟨.drop, if_pos hf⟩

theorem Does.coherent (h : d.Does subscriber move d') (hv : d.invocation.Coherent) :
    d'.invocation.Coherent := by
  obtain ⟨m, hm⟩ := h.stepped
  exact hv.step hm

/-- No move changes the reason of a closing. -/
theorem Does.reason (h : d.Does subscriber move d') (hv : d.invocation.Coherent)
    {reason : ClosureReason} (hr : d.invocation.session.reason = some reason) :
    d'.invocation.session.reason = some reason := by
  obtain ⟨m, hm⟩ := h.stepped
  exact Invocation.reason_of_step hv hr hm

/-- The consumer half is there until the driver returns. -/
theorem Does.consumerGone (h : d.Does subscriber move d') (hv : d.invocation.Coherent)
    (hs : d'.stage ≠ .returned) :
    d'.invocation.session.consumerGone = d.invocation.session.consumerGone := by
  cases h with
  | aside _ hb => exact hb.consumerGone
  | goes hg =>
      cases hg with
      | begins => rfl
      | polls _ hp hgives =>
          rw [Invocation.session, Invocation.goOn_stream]
          exact (hgives.tells (hv.midway _ hp)).frame.2.2
      | tells => rfl
      | cancels => exact RowStream.cancel_consumerGone _
      | leaves => exact absurd rfl hs

end

/-! ## A driver that nobody interrupts -/

/-- The drive as a subscription. -/
def subscription (d : Drive Row R σ) : Subscription Row R σ where
  stream := d.invocation.stream
  memory := d.memory
  delivered := d.delivered
  ended :=
    match d.stage with
    | .returned => true
    | _ => false

/-- The driver comes from one drive to the other by itself. -/
def Leads (subscriber : Subscriber R σ) (runtime : Bool) (reception : Reception)
    (d d' : Drive Row R σ) : Prop :=
  ∃ n, play? (step? subscriber) d (List.replicate n (.go runtime reception)) = some d'

section
variable {subscriber : Subscriber R σ} {runtime : Bool} {reception : Reception}
  {d d' d'' : Drive Row R σ}

theorem Leads.trans (h : d.Leads subscriber runtime reception d')
    (h' : d'.Leads subscriber runtime reception d'') :
    d.Leads subscriber runtime reception d'' := by
  obtain ⟨m, hm⟩ := h
  obtain ⟨n, hn⟩ := h'
  refine ⟨m + n, ?_⟩
  rw [← List.replicate_append_replicate, play?_append, hm]
  exact hn

theorem Leads.coherent (h : d.Leads subscriber runtime reception d')
    (hv : d.invocation.Coherent) : d'.invocation.Coherent := by
  obtain ⟨n, hplay⟩ := h
  refine play?_preserves (P := fun u => u.invocation.Coherent) ?_ hv hplay
  intro u u' move hu hstep
  exact (does_of_step? hu hstep).coherent hu

theorem leads_of_go? (h : d.go? subscriber runtime reception = some d') :
    d.Leads subscriber runtime reception d' := by
  refine ⟨1, ?_⟩
  show (d.go? subscriber runtime reception).bind some = some d'
  rw [h]
  rfl

theorem go?_of_poll {stage : PollStage R} (hs : d.stage = .pulling)
    (hp : d.invocation.poll = some stage) :
    d.go? subscriber runtime reception = some (d.advance runtime reception stage) := by
  simp only [go?, hs, hp]

theorem advance_stream (d : Drive Row R σ) (runtime : Bool) (reception : Reception)
    (stage : PollStage R) : (d.advance runtime reception stage).invocation.stream =
      (stage.advance runtime reception d.invocation.stream).1 := by
  simp only [advance, Invocation.advance, Invocation.goOn_stream]

/-- A poll that is over leaves the stream to the driver. -/
theorem isFree_advance (subscriber : Subscriber R σ) (hv : d.invocation.Coherent)
    {stage : PollStage R} {next : Next R} (hs : d.stage = .pulling)
    (hp : d.invocation.poll = some stage)
    (hdone : (stage.advance runtime reception d.invocation.stream).2 = .done next) :
    (d.advance runtime reception stage).invocation.isFree = true := by
  have hdoes : d.Does subscriber (.go runtime reception) (d.advance runtime reception stage) :=
    .goes (goes_of_go? hv (go?_of_poll hs hp))
  refine Invocation.isFree_iff.mpr ⟨?_, ?_⟩
  · simp only [advance, Invocation.advance, hdone, Invocation.goOn]
  · rw [hdoes.consumerGone hv (DriveStage.after_ne_returned _)]
    exact hv.present hp

/-- The poll under way comes to its end. -/
theorem leads_run (subscriber : Subscriber R σ) (runtime : Bool) (reception : Reception)
    {next : Next R} : ∀ (n : Nat) {d : Drive Row R σ} {stage : PollStage R},
      d.invocation.Coherent → d.stage = .pulling → d.invocation.poll = some stage →
      (stage.run runtime reception n d.invocation.stream).2 = .done next →
      ∃ d' : Drive Row R σ, d.Leads subscriber runtime reception d' ∧
        d'.stage = .after (.done next) ∧ d'.invocation.isFree = true ∧
        d'.invocation.stream = (stage.run runtime reception n d.invocation.stream).1 ∧
        d'.memory = d.memory ∧ d'.delivered = d.delivered := by
  intro n
  induction n with
  | zero =>
      intro d stage hv _ hp hrun
      have hmidway := hv.midway stage hp
      rw [show stage = .done next from hrun] at hmidway
      exact hmidway.elim
  | succ n ih =>
      intro d stage hv hs hp hrun
      have hgo : d.go? subscriber runtime reception = some (d.advance runtime reception stage) :=
        go?_of_poll hs hp
      have hstream := d.advance_stream runtime reception stage
      by_cases hdone : ∃ last, (stage.advance runtime reception d.invocation.stream).2 = .done last
      · obtain ⟨last, hlast⟩ := hdone
        -- the moments left over change nothing
        have hsame : stage.run runtime reception (n + 1) d.invocation.stream =
            ((stage.advance runtime reception d.invocation.stream).1, .done last) := by
          rw [PollStage.run, hlast, PollStage.run_done]
        rw [hsame] at hrun ⊢
        cases hrun
        exact ⟨_, leads_of_go? hgo, congrArg DriveStage.after hlast,
          isFree_advance subscriber hv hs hp hlast, hstream, rfl, rfl⟩
      · have hne : ∀ last, (stage.advance runtime reception d.invocation.stream).2 ≠ .done last :=
          fun last hlast => hdone ⟨last, hlast⟩
        have hp' : (d.advance runtime reception stage).invocation.poll =
            some (stage.advance runtime reception d.invocation.stream).2 := by
          simp only [advance, Invocation.advance, Invocation.goOn_of_ne _ hne]
        have hdoes : d.Does subscriber (.go runtime reception) _ := .goes (goes_of_go? hv hgo)
        obtain ⟨d', hleads, hstage, hfree, hstream', hrest⟩ :=
          ih (hdoes.coherent hv) (DriveStage.after_of_ne hne) hp' (hstream.symm ▸ hrun)
        refine ⟨d', (leads_of_go? hgo).trans hleads, hstage, hfree, ?_, hrest⟩
        rw [hstream', hstream]
        rfl

theorem leads_tell {next : Next R} (hs : d.stage = .telling next) :
    d.Leads subscriber runtime reception (d.tell subscriber next) := by
  refine leads_of_go? ?_
  simp only [go?, hs]

/-- A driver with nothing more to tell drops the stream and has returned. -/
theorem leads_leave (hs : d.stage = .leaving) (hf : d.invocation.isFree = true) :
    d.Leads subscriber runtime reception d.leave := by
  refine leads_of_go? ?_
  simp only [go?, hs, hf, if_true]

theorem leads_cancel (hs : d.stage = .cancelling) (hf : d.invocation.isFree = true) :
    d.Leads subscriber runtime reception d.cancel := by
  refine leads_of_go? ?_
  simp only [go?, hs, hf, if_true]

/-- A cancelled stream can still be dropped. -/
theorem isFree_cancel (hf : d.invocation.isFree = true) : d.cancel.invocation.isFree = true := by
  obtain ⟨hnone, hpresent⟩ := Invocation.isFree_iff.mp hf
  exact Invocation.isFree_iff.mpr ⟨hnone, (RowStream.cancel_consumerGone _).trans hpresent⟩

/-- A driver that begins a poll and is left alone makes one pull: it tells the
subscriber what the poll gives, and has returned if there is nothing more to
tell. -/
theorem leads_pull (subscriber : Subscriber R σ) (runtime : Bool) (reception : Reception)
    (hv : d.invocation.Coherent) (hs : d.stage = .pulling) (hf : d.invocation.isFree = true) :
    ∃ d' : Drive Row R σ, d.Leads subscriber runtime reception d' ∧
      d'.subscription = d.subscription.pull subscriber runtime reception ∧
      (d'.stage = .returned ∨ (d'.stage = .pulling ∧ d'.invocation.isFree = true)) := by
  have hbegin : d.go? subscriber runtime reception = some d.beginPoll := by
    simp only [go?, hs, (Invocation.isFree_iff.mp hf).1, hf, if_true]
  have hdoes : d.Does subscriber (.go runtime reception) d.beginPoll := .goes (.begins hs hf)
  obtain ⟨next, hnext⟩ := PollStage.exists_run_eq_done runtime reception PollStage.moments
    d.invocation.stream .entering (PollStage.toGo_le_moments _)
  obtain ⟨d', hleads, hstage, hfree, hstream, hmemory, hdelivered⟩ :=
    leads_run subscriber runtime reception PollStage.moments (hdoes.coherent hv) hs rfl hnext
  have hpull : d.subscription.pull subscriber runtime reception =
      Subscription.react subscriber ⟨d'.invocation.stream, d'.memory, d'.delivered, false⟩ next := by
    simp only [Subscription.pull, subscription, hs, RowStream.poll, hnext, PollStage.answer,
      hstream, hmemory, hdelivered, Bool.false_eq_true, if_false]
    rfl
  rw [hpull]
  have hpolled := (leads_of_go? hbegin).trans hleads
  cases next with
  | pending =>
      refine ⟨d', hpolled, ?_, Or.inr ⟨hstage, hfree⟩⟩
      simp only [subscription, hstage, DriveStage.after, Subscription.react]
  | finished =>
      have htold := hpolled.trans (leads_tell hstage)
      exact ⟨_, htold.trans (leads_leave rfl hfree), rfl, Or.inl rfl⟩
  | failed error =>
      have htold := hpolled.trans (leads_tell hstage)
      exact ⟨_, htold.trans (leads_leave rfl hfree), rfl, Or.inl rfl⟩
  | row row =>
      have htold := hpolled.trans (leads_tell hstage)
      cases hdemand : (subscriber.onNext row d'.memory).1 with
      | more =>
          have hturn : (d'.tell subscriber (.row row)).stage = .pulling := by
            simp only [tell, Subscriber.turn, hdemand]
          refine ⟨_, htold, ?_, Or.inr ⟨hturn, hfree⟩⟩
          simp only [subscription, hturn, Subscription.react, hdemand]
          rfl
      | cancel =>
          have hturn : (d'.tell subscriber (.row row)).stage = .cancelling := by
            simp only [tell, Subscriber.turn, hdemand]
          have hcancelled := htold.trans (leads_cancel hturn hfree)
          refine ⟨_, hcancelled.trans (leads_leave rfl (isFree_cancel hfree)), ?_, Or.inl rfl⟩
          simp only [Subscription.react, hdemand]
          rfl

/-- A driver that is left alone makes one pull after the other. -/
theorem leads_pulls (subscriber : Subscriber R σ) (runtime : Bool) (reception : Reception)
    (hv : d.invocation.Coherent) (hs : d.stage = .pulling) (hf : d.invocation.isFree = true)
    (n : Nat) :
    ∃ d' : Drive Row R σ, d.Leads subscriber runtime reception d' ∧
      d'.subscription = Nat.repeat (Subscription.pull subscriber runtime reception) n d.subscription ∧
      (d'.stage = .returned ∨ (d'.stage = .pulling ∧ d'.invocation.isFree = true)) := by
  induction n with
  | zero => exact ⟨d, ⟨0, rfl⟩, rfl, Or.inr ⟨hs, hf⟩⟩
  | succ n ih =>
      obtain ⟨d₁, hleads, hsub, hreturned | ⟨hs₁, hf₁⟩⟩ := ih
      · -- who has returned pulls no more
        refine ⟨d₁, hleads, ?_, Or.inl hreturned⟩
        rw [Nat.repeat, ← hsub]
        simp only [Subscription.pull, subscription, hreturned, if_true]
      · obtain ⟨d₂, hleads₂, hsub₂, hrest⟩ :=
          leads_pull subscriber runtime reception (hleads.coherent hv) hs₁ hf₁
        refine ⟨d₂, hleads.trans hleads₂, ?_, hrest⟩
        rw [Nat.repeat, ← hsub]
        exact hsub₂

end

end Drive
end RowBridge
