/-
# `RowBridge.Proofs.Stream.Polling` — what one moment of a poll can do

`PollStage.Gives` lists what can come of one moment of a poll, one rule for each
exit; every invariant about polls is a case analysis on these rules, and nothing
else unfolds `PollStage.advance`.

    rule         stage               when                                next stage
    overAgain    entering            ended before                        done finished
    turnsBack    entering            closed                              done failed (closed _)
    goesToStart  entering            open, never started                 starting
    goesToQueue  entering            open, started                       taking
    strands      starting            no runtime                          done failed (internal _)
    handsOver    starting            a runtime                           checking
    goesOn       checking            open                                taking
    stops        checking, watching  closed                              done failed (closed _)
    takesRow     taking              a row in front                      done row
    takesFinish  taking              the end marker in front             done finished
    findsNobody  taking              empty, and nothing more can come    done failed (closed _)
    findsNothing taking              empty                               watching
    leavesBell   watching            open                                done pending

For the session and the consumer a moment of a poll is one of six things
(`PollStage.Tells`): only two of them take an item out of the queue, and those
give what they take.
-/
import RowBridge.Proofs.Scan.Ledger
import RowBridge.RowStream

namespace RowBridge

variable {Row R : Type}

/-! ## Giving up the start and handing it over -/

namespace RowStream

variable (st : RowStream Row R)

@[simp] theorem abandonStart_done : st.abandonStart.done = st.done := by
  unfold abandonStart
  split <;> rfl

@[simp] theorem abandonStart_plan : st.abandonStart.scan.plan = st.scan.plan := by
  unfold abandonStart
  split <;> rfl

theorem abandonStart_phase :
    st.abandonStart.scan.phase = st.scan.phase ∨ st.abandonStart.scan.phase = .discarded := by
  unfold abandonStart
  split
  · exact Or.inl rfl
  · exact Or.inr rfl

theorem keeps_abandonStart : st.session.Keeps st.abandonStart.session := by
  unfold abandonStart
  split
  · exact .refl _
  · exact st.session.keeps_dropProducer

variable (reception : Reception)

@[simp] theorem handOver_done : (st.handOver reception).done = st.done := by
  cases reception <;> rfl

@[simp] theorem handOver_started : (st.handOver reception).started = true := by
  cases reception <;> rfl

@[simp] theorem handOver_plan : (st.handOver reception).scan.plan = st.scan.plan := by
  cases reception <;> rfl

theorem keeps_handOver : st.session.Keeps (st.handOver reception).session := by
  cases reception with
  | accepted => exact .refl _
  | rejected => exact (st.session.keeps_close .cancelled).trans (Session.keeps_dropProducer _)
  | lost => exact st.session.keeps_dropProducer

/-- What a stream is during a poll that has come to this stage. -/
def Midway : PollStage R → Prop
  | .entering => st.isDropped = false
  | .starting => st.isDropped = false ∧ st.done = false ∧ st.started = false
  | .checking | .taking | .watching => st.isDropped = false ∧ st.done = false ∧ st.started = true
  | .done _ => False

/-- The scan is where the stream believes it to be, and its accounts are in
order. -/
structure Kept (st : RowStream Row R) (l : Ledger Row R) : Prop where
  accounts : Accounts st.scan l
  deferred : st.started = false → st.scan.phase = .deferred

end RowStream

/-! ## The rules -/

namespace PollStage

/-- The signal of a stream that was polled for the first time from outside a
runtime. -/
def strandedError : Error := .internal "RowStream must be polled from within a tokio runtime"

/-- The stages whose moment is a look at the closer and nothing else. -/
def looksForClosing : PollStage R → Bool
  | checking | watching => true
  | _ => false

/-- What one moment of a poll can do to the stream and to the poll. -/
inductive Gives (runtime : Bool) (reception : Reception) (st : RowStream Row R) :
    PollStage R → RowStream Row R → PollStage R → Prop
  | overAgain : st.done = true →
      Gives runtime reception st entering (st.withSession st.session.hush) (done .finished)
  | turnsBack {reason : ClosureReason} : st.done = false → st.reason = some reason →
      Gives runtime reception st entering
        { (st.withSession st.session.hush).abandonStart with done := true }
        (done (.failed (.closed reason)))
  | goesToStart : st.done = false → st.reason = none → st.started = false →
      Gives runtime reception st entering (st.withSession st.session.hush) starting
  | goesToQueue : st.done = false → st.reason = none → st.started = true →
      Gives runtime reception st entering (st.withSession st.session.hush) taking
  | strands : runtime = false →
      Gives runtime reception st starting
        { (st.close .sourceFailure).abandonStart with done := true }
        (done (.failed strandedError))
  | handsOver : runtime = true →
      Gives runtime reception st starting (st.handOver reception) checking
  | goesOn : st.reason = none → Gives runtime reception st checking st taking
  | stops {stage : PollStage R} {reason : ClosureReason} : stage.looksForClosing = true →
      st.reason = some reason →
      Gives runtime reception st stage { st with done := true } (done (.failed (.closed reason)))
  | takesRow {row : R} {rest : List (Item R)} : st.session.queue = .value row :: rest →
      Gives runtime reception st taking (st.withSession { st.session.hush with queue := rest })
        (done (.row row))
  | takesFinish {rest : List (Item R)} : st.session.queue = .finish :: rest →
      Gives runtime reception st taking
        { st.withSession { st.session.hush with queue := rest } with done := true } (done .finished)
  | findsNobody {bell : Bell} : st.session.queue = [] →
      (st.session.producerGone = true ∨ st.session.refusing = true) →
      Gives runtime reception st taking
        { st.withSession { st.session with bell := bell } with done := true }
        (done (.failed (.closed (st.reason.getD .sourceFailure))))
  | findsNothing {bell : Bell} : st.session.queue = [] → st.session.producerGone = false →
      st.session.refusing = false →
      Gives runtime reception st taking (st.withSession { st.session with bell := bell }) watching
  | leavesBell : st.reason = none →
      Gives runtime reception st watching (st.withSession st.session.watchCloser) (done .pending)

section
variable {runtime : Bool} {reception : Reception} {st : RowStream Row R}

theorem gives_enter : Gives runtime reception st entering st.enter.1 st.enter.2 := by
  cases hd : st.done with
  | true =>
      have he : st.enter = (st.withSession st.session.hush, done .finished) := by
        simp [RowStream.enter, RowStream.withSession, hd]
      rw [he]
      exact .overAgain hd
  | false =>
      cases hr : st.reason with
      | some reason =>
          have he : st.enter = (st.withSession st.session.hush).abandonStart.finish reason := by
            have hr' : (st.withSession st.session.hush).reason = some reason := hr
            simp only [RowStream.enter, hr']
            simp [RowStream.withSession, hd]
          rw [he]
          exact .turnsBack hd hr
      | none =>
          have he : st.enter =
              (st.withSession st.session.hush, if st.started then taking else starting) := by
            have hr' : (st.withSession st.session.hush).reason = none := hr
            simp only [RowStream.enter, hr']
            simp [RowStream.withSession, hd]
          rw [he]
          cases hs : st.started with
          | true => exact .goesToQueue hd hr hs
          | false => exact .goesToStart hd hr hs

/-- A look at the queue, seen from the stream. -/
theorem gives_take : Gives runtime reception st taking st.take.1 st.take.2 := by
  cases hq : st.session.queue with
  | cons item rest =>
      have hp : st.session.poll = ({ st.session.hush with queue := rest }, .item item) := by
        simp [Session.poll, Session.hush, hq]
      rw [RowStream.take, hp]
      cases item with
      | value row => exact .takesRow hq
      | finish => exact .takesFinish hq
  | nil =>
      cases hg : st.session.producerGone with
      | true =>
          have hp : st.session.poll = (st.session.hush, .disconnected) := by
            simp [Session.poll, Session.hush, hq, hg]
          rw [RowStream.take, hp]
          exact .findsNobody hq (Or.inl hg)
      | false =>
          have hp : st.session.poll = ({ st.session with bell := st.session.bell.hush.hangAtQueue },
              if st.session.refusing then .disconnected else .pending) := by
            simp [Session.poll, Session.hush, hq, hg]
          rw [RowStream.take, hp]
          cases href : st.session.refusing with
          | true => exact .findsNobody hq (Or.inr href)
          | false => exact .findsNothing hq hg href

/-- One moment of a poll that is not over is one of the rules. -/
theorem gives_advance {stage : PollStage R} (h : ∀ next, stage ≠ done next) :
    Gives runtime reception st stage (stage.advance runtime reception st).1
      (stage.advance runtime reception st).2 := by
  cases stage with
  | entering => exact gives_enter
  | starting =>
      cases runtime with
      | true => exact .handsOver rfl
      | false => exact .strands rfl
  | checking =>
      cases hr : st.reason with
      | none => simpa [advance, RowStream.check, hr] using Gives.goesOn hr
      | some reason =>
          have hs : Gives runtime reception st checking { st with done := true }
              (done (.failed (.closed reason))) := .stops rfl hr
          simpa [advance, RowStream.check, RowStream.finish, hr] using hs
  | taking => exact gives_take
  | watching =>
      cases hr : st.reason with
      | none => simpa [advance, RowStream.watch, hr] using Gives.leavesBell hr
      | some reason =>
          have hs : Gives runtime reception st watching { st with done := true }
              (done (.failed (.closed reason))) := .stops rfl hr
          simpa [advance, RowStream.watch, RowStream.finish, hr] using hs
  | done next => exact absurd rfl (h next)

end

/-- What a moment of a poll is for the session and the consumer.  The flags say
whether the stream has ended, before and afterwards. -/
inductive Tells (s : Session R) : Bool → Session R → Bool → PollStage R → Prop
  | goesOn {ended : Bool} {s' : Session R} {stage : PollStage R} : s.Keeps s' →
      (∀ next, stage ≠ done next) → Tells s ended s' ended stage
  | nothing {ended : Bool} {s' : Session R} : s.Keeps s' → Tells s ended s' ended (done .pending)
  | again {ended : Bool} {s' : Session R} : ended = true → s.Keeps s' →
      Tells s ended s' ended (done .finished)
  | fails {ended : Bool} {s' : Session R} {error : Error} : ended = false → s.Keeps s' →
      Tells s ended s' true (done (.failed error))
  | row {ended : Bool} {row : R} {rest : List (Item R)} : ended = false →
      s.queue = .value row :: rest →
      Tells s ended { s.hush with queue := rest } ended (done (.row row))
  | finish {ended : Bool} {rest : List (Item R)} : ended = false → s.queue = .finish :: rest →
      Tells s ended { s.hush with queue := rest } true (done .finished)

section
variable {runtime : Bool} {reception : Reception} {st st' : RowStream Row R}
  {stage stage' : PollStage R}

theorem not_done_of_looksForClosing (hm : st.Midway stage) (hl : stage.looksForClosing = true) :
    st.done = false := by
  cases stage with
  | checking => exact hm.2.1
  | watching => exact hm.2.1
  | _ => cases hl

theorem Gives.tells (h : Gives runtime reception st stage st' stage') (hm : st.Midway stage) :
    Tells st.session st.done st'.session st'.done stage' := by
  have hhush : st.session.Keeps st.session.hush := st.session.keeps_bell _
  cases h with
  | overAgain hd => exact .again hd hhush
  | turnsBack hd =>
      have hgiven := (st.withSession st.session.hush).keeps_abandonStart
      exact .fails hd (hhush.trans hgiven)
  | goesToStart => exact .goesOn hhush nofun
  | goesToQueue => exact .goesOn hhush nofun
  | strands =>
      have hgiven := (st.close .sourceFailure).keeps_abandonStart
      exact .fails hm.2.1 ((st.session.keeps_close _).trans hgiven)
  | handsOver =>
      rw [RowStream.handOver_done]
      exact .goesOn (st.keeps_handOver reception) nofun
  | goesOn => exact .goesOn (.refl _) nofun
  | stops hl => exact .fails (not_done_of_looksForClosing hm hl) (.refl _)
  | takesRow hq => exact .row hm.2.1 hq
  | takesFinish hq => exact .finish hm.2.1 hq
  | findsNobody => exact .fails hm.2.1 (st.session.keeps_bell _)
  | findsNothing => exact .goesOn (st.session.keeps_bell _) nofun
  | leavesBell => exact .nothing (st.session.keeps_bell _)

/-- A poll that is not over has come further in good order. -/
theorem Gives.midway (h : Gives runtime reception st stage st' stage') (hm : st.Midway stage)
    (hne : ∀ next, stage' ≠ done next) : st'.Midway stage' := by
  cases h with
  | goesToStart hd _ hs => exact ⟨hm, hd, hs⟩
  | goesToQueue hd _ hs => exact ⟨hm, hd, hs⟩
  | handsOver =>
      have hgone := (st.keeps_handOver reception).consumerGone.trans hm.1
      refine ⟨hgone, ?_, st.handOver_started reception⟩
      rw [RowStream.handOver_done]
      exact hm.2.1
  | goesOn => exact hm
  | findsNothing => exact hm
  | _ => exact absurd rfl (hne _)

/-- Polls begin no scan. -/
theorem Gives.phase (h : Gives runtime reception st stage st' stage') :
    st'.scan.phase = st.scan.phase ∨ st'.scan.phase = .discarded ∨ st'.scan.phase = .queued := by
  cases h with
  | turnsBack => exact (st.withSession st.session.hush).abandonStart_phase.imp_right Or.inl
  | strands => exact (st.close .sourceFailure).abandonStart_phase.imp_right Or.inl
  | handsOver =>
      cases reception with
      | accepted => exact Or.inr (Or.inr rfl)
      | rejected => exact Or.inr (Or.inl rfl)
      | lost => exact Or.inr (Or.inl rfl)
  | _ => exact Or.inl rfl

theorem Gives.plan_eq (h : Gives runtime reception st stage st' stage') :
    st'.scan.plan = st.scan.plan := by
  cases h with
  | turnsBack => exact (st.withSession st.session.hush).abandonStart_plan
  | strands => exact (st.close .sourceFailure).abandonStart_plan
  | handsOver => exact st.handOver_plan reception
  | _ => rfl

end

section
variable {s s' : Session R} {ended ended' : Bool} {stage : PollStage R}

/-- A poll leaves all but the queue as it was. -/
theorem Tells.isClosed (h : Tells s ended s' ended' stage) (hc : s.isClosed = true) :
    s'.isClosed = true := by
  cases h with
  | goesOn hk => exact hk.isClosed hc
  | nothing hk => exact hk.isClosed hc
  | again _ hk => exact hk.isClosed hc
  | fails _ hk => exact hk.isClosed hc
  | row => exact hc
  | finish => exact hc

theorem Tells.reason (h : Tells s ended s' ended' stage) {reason : ClosureReason}
    (hr : s.reason = some reason) : s'.reason = some reason := by
  cases h with
  | goesOn hk => exact hk.reason hr
  | nothing hk => exact hk.reason hr
  | again _ hk => exact hk.reason hr
  | fails _ hk => exact hk.reason hr
  | row => exact hr
  | finish => exact hr

theorem Tells.frame (h : Tells s ended s' ended' stage) :
    s'.capacity = s.capacity ∧ s'.refusing = s.refusing ∧ s'.consumerGone = s.consumerGone := by
  cases h with
  | goesOn hk => exact ⟨hk.capacity, hk.refusing, hk.consumerGone⟩
  | nothing hk => exact ⟨hk.capacity, hk.refusing, hk.consumerGone⟩
  | again _ hk => exact ⟨hk.capacity, hk.refusing, hk.consumerGone⟩
  | fails _ hk => exact ⟨hk.capacity, hk.refusing, hk.consumerGone⟩
  | row => exact ⟨rfl, rfl, rfl⟩
  | finish => exact ⟨rfl, rfl, rfl⟩

end

/-! ## The scan behind a poll -/

end PollStage

namespace RowStream

section
variable {st : RowStream Row R} {l : Ledger Row R}

theorem Kept.onSession (h : st.Kept l) {session : Session R}
    (hc : st.session.isClosed = true → session.isClosed = true)
    (hg : session.producerGone = st.session.producerGone) : (st.withSession session).Kept l :=
  ⟨h.accounts.onSession hc hg, h.deferred⟩

theorem Kept.ended (h : st.Kept l) (ended : Bool) : Kept { st with done := ended } l :=
  ⟨h.accounts, h.deferred⟩

/-- A scan that nobody was asked to run can be dropped. -/
theorem kept_discard (h : st.Kept l) (hs : st.started = false) (handovers : Nat) :
    Kept { st with started := true, handovers := handovers, scan := st.scan.discard } l := by
  refine ⟨⟨trivial, Session.dropProducer_producerGone _, ?_⟩, nofun⟩
  have hst := h.accounts.stands
  rw [h.deferred hs] at hst
  exact hst

theorem Kept.abandonStart (h : st.Kept l) : st.abandonStart.Kept l := by
  unfold RowStream.abandonStart
  split
  · exact h
  · next hs => exact kept_discard h (by simpa using hs) st.handovers

theorem Kept.close (h : st.Kept l) (reason : ClosureReason) : (st.close reason).Kept l :=
  h.onSession (fun _ => Session.close_isClosed _ _) (Session.close_producerGone _ _)

theorem Kept.handOver (h : st.Kept l) (hs : st.started = false) (reception : Reception) :
    (st.handOver reception).Kept l := by
  cases reception with
  | accepted =>
      refine ⟨⟨trivial, ?_, ?_⟩, nofun⟩
      · have hg := h.accounts.gone
        rw [h.deferred hs] at hg
        exact hg
      · have hst := h.accounts.stands
        rw [h.deferred hs] at hst
        exact hst
  | rejected => exact kept_discard (h.close .cancelled) hs (st.handovers + 1)
  | lost => exact kept_discard h hs (st.handovers + 1)

end

/-- No moment of a poll brings the scan into disorder. -/
theorem Kept.gives {runtime : Bool} {reception : Reception} {st st' : RowStream Row R}
    {stage stage' : PollStage R} {l : Ledger Row R} (h : st.Kept l)
    (hm : st.Midway stage) (hg : stage.Gives runtime reception st st' stage') : st'.Kept l := by
  have hhush : (st.withSession st.session.hush).Kept l := h.onSession id rfl
  cases hg with
  | overAgain => exact hhush
  | turnsBack => exact hhush.abandonStart.ended true
  | goesToStart => exact hhush
  | goesToQueue => exact hhush
  | strands => exact (h.close .sourceFailure).abandonStart.ended true
  | handsOver => exact h.handOver hm.2.2 reception
  | goesOn => exact h
  | stops => exact h.ended true
  | takesRow => exact h.onSession id rfl
  | takesFinish =>
      refine Kept.ended ?_ true
      exact h.onSession id rfl
  | findsNobody =>
      refine Kept.ended ?_ true
      exact h.onSession id rfl
  | findsNothing => exact h.onSession id rfl
  | leavesBell => exact h.onSession id rfl

/-! ## The consumer goes -/

section
variable {st : RowStream Row R} {l : Ledger Row R}

theorem Kept.cancel (h : st.Kept l) : st.cancel.Kept l := by
  refine Kept.ended (Kept.abandonStart ?_) true
  exact h.onSession (fun _ => Session.close_isClosed _ .cancelled)
    (Session.close_producerGone _ .cancelled)

theorem Kept.drop (h : st.Kept l) : st.drop.Kept l := by
  refine Kept.abandonStart ?_
  exact h.onSession (fun _ => Session.close_isClosed _ .cancelled)
    (Session.close_producerGone _ .cancelled)

theorem cancel_queue (st : RowStream Row R) : st.cancel.session.queue = st.session.queue :=
  (st.withSession st.session.cancel).keeps_abandonStart.queue.trans
    (Session.close_queue _ .cancelled)

theorem cancel_consumerGone (st : RowStream Row R) :
    st.cancel.session.consumerGone = st.session.consumerGone :=
  (st.withSession st.session.cancel).keeps_abandonStart.consumerGone.trans
    (Session.close_consumerGone _ .cancelled)

theorem drop_consumerGone (st : RowStream Row R) : st.drop.session.consumerGone = true :=
  (st.withSession st.session.dropConsumer).keeps_abandonStart.consumerGone

@[simp] theorem drop_done (st : RowStream Row R) : st.drop.done = st.done :=
  abandonStart_done _

end

end RowStream
end RowBridge
