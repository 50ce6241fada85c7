/-
# `RowBridge.Proofs.Stream.Agreement` — the closing a stream gives and the one it records

A poll that gives a closing has the reason from one of four looks.

    look                       the reason given        recorded
    the poll enters            the recorded one        yes
    the scan was handed over   the recorded one        yes
    the queue is empty, with   the recorded one, or    if there was one
    nobody to fill it          else sourceFailure
    the queue holds nothing    the recorded one        yes

Only the third look can find no reason.  Then nobody closed the session: the scan was
dropped by its scheduler, or it gave up, and the end marker was never enqueued.  A scan
that ended well in an open session has enqueued its marker, which this stream would have read
first, and one that failed has closed its session (`Answerable`).

What the consumer is told then is not what the session records.  The session stays open,
and the first closing that comes afterwards, a cancellation or the end of the stream
for instance, sets a reason of its own (`closing_of_vanished`).
-/
import RowBridge.Proofs.Session.Traffic
import RowBridge.Proofs.Stream.Delivery
import RowBridge.Proofs.Stream.Ending
import RowBridge.Proofs.Stream.Winding

namespace RowBridge

variable {Row R : Type}

/-- The reason with which a move of somebody else than the scan closes the session. -/
def Move.closing? : Move Row → Option ClosureReason
  | .close reason => some reason
  | .cancel | .drop => some .cancelled
  | _ => none

/-- A look that gives a closing has the reason from the closer, or finds nobody who could
fill the queue. -/
theorem PollStage.Gives.closing_cases {runtime : Bool} {reception : Reception}
    {st st' : RowStream Row R} {stage : PollStage R} {reason : ClosureReason}
    (h : stage.Gives runtime reception st st' (.done (.failed (.closed reason)))) :
    st'.reason = some reason ∨
      (stage = .taking ∧ st.reason = none ∧ reason = .sourceFailure ∧
        (∃ bell, st' = { st.withSession { st.session with bell := bell } with done := true }) ∧
        st.session.queue = [] ∧
        (st.session.producerGone = true ∨ st.session.refusing = true)) := by
  generalize hlast : (PollStage.done (.failed (.closed reason)) : PollStage R) = last at h
  cases h with
  | turnsBack _ hr =>
      cases hlast
      exact Or.inl ((st.withSession st.session.hush).keeps_abandonStart.reason hr)
  | stops _ hr => cases hlast; exact Or.inl hr
  | findsNobody hq hnobody =>
      cases hlast
      cases hr : st.reason with
      | some reason => exact Or.inl hr
      | none => exact Or.inr ⟨rfl, rfl, rfl, ⟨_, rfl⟩, hq, hnobody⟩
  | _ => cases hlast

namespace Invocation

/-- What holds of every stream in use, as far as it bears on why its queue is empty for
good. -/
structure Answerable (v : Invocation Row R) : Prop where
  coherent : v.Coherent
  delivers : ∃ read, Delivers read v
  guarded : v.session.Guarded
  complete : v.phase = .ended .ok → v.session.reason = none → .finish ∈ v.ledger.enqueued
  shut : ∀ error, v.phase = .ended (.failed error) → v.session.isClosed = true

section
variable {v v' : Invocation Row R} {move : Move Row}

theorem answerable_start {plan : ScanPlan Row R} {capacity : Nat} {stream : RowStream Row R}
    (hopen : RowStream.open? plan capacity = .ok stream) : (start stream).Answerable := by
  refine ⟨coherent_start hopen, ⟨[], delivers_start hopen⟩, ?_, ?_, ?_⟩
  all_goals cases RowStream.eq_fresh_of_open? hopen
  · exact Session.guarded_fresh capacity
  · nofun
  · nofun

theorem Answerable.guarded_step (h : v.Answerable) (hstep : v.step? move = some v') :
    v'.session.Guarded := by
  have hc : v.session.isClosed = true → v'.session.isClosed = true :=
    fun hc => isClosed_of_step h.coherent hc hstep
  -- a consumer that gives its stream up closes the session
  have hcancelled : ∀ session : Session R,
      session.reason = (v.session.close .cancelled).reason →
      (v.stream.withSession session).abandonStart.session.isClosed = true := by
    intro session hr
    rw [Session.close_reason] at hr
    exact Session.isClosed_of_reason ((v.stream.withSession session).keeps_abandonStart.reason hr)
  cases move with
  | pass => cases hstep; exact h.guarded
  | beginPoll =>
      obtain ⟨-, ⟨⟩⟩ := Option.ite_none_right_eq_some.mp hstep
      exact h.guarded
  | poll runtime reception =>
      obtain ⟨stage, hp, rfl⟩ := Option.map_eq_some_iff.mp hstep
      obtain ⟨stream, stage', hg, heq⟩ := advance_eq h.coherent hp runtime reception
      have hsession : ({ v with stream := stream }.goOn stage').session = stream.session :=
        congrArg RowStream.session (goOn_stream _ stage')
      rw [heq, hsession] at hc ⊢
      obtain ⟨-, hrefusing, hgone⟩ := (hg.tells (h.coherent.midway stage hp)).frame
      exact h.guarded.of_frame hc hrefusing hgone
  | scan m =>
      obtain ⟨scan, hs, rfl⟩ := Option.map_eq_some_iff.mp hstep
      obtain ⟨-, hrefusing, hgone⟩ :=
        (Scan.does_of_step? h.coherent.kept.accounts.sound hs).touches.frame
      exact h.guarded.of_frame hc hrefusing hgone
  | close reason =>
      cases hstep
      have hk := v.session.keeps_close reason
      exact h.guarded.of_frame hc hk.refusing hk.consumerGone
  | cancel =>
      obtain ⟨-, ⟨⟩⟩ := Option.ite_none_right_eq_some.mp hstep
      have hclosed : v.stream.cancel.session.isClosed = true :=
        hcancelled v.session.cancel rfl
      exact ⟨fun _ => hclosed, fun _ => hclosed⟩
  | drop =>
      obtain ⟨-, ⟨⟩⟩ := Option.ite_none_right_eq_some.mp hstep
      have hclosed : v.stream.drop.session.isClosed = true :=
        hcancelled v.session.dropConsumer rfl
      exact ⟨fun _ => hclosed, fun _ => hclosed⟩

theorem Answerable.step (h : v.Answerable) (hstep : v.step? move = some v') :
    v'.Answerable := by
  obtain ⟨read, hread⟩ := h.delivers
  have hcoherent := h.coherent.step hstep
  have hdelivers := hread.step h.coherent hstep
  have hguarded := h.guarded_step hstep
  by_cases hscan : ∃ m, move = .scan m
  · obtain ⟨m, rfl⟩ := hscan
    obtain ⟨scan, hs, rfl⟩ := Option.map_eq_some_iff.mp hstep
    have haccounts := h.coherent.kept.accounts
    have hd := Scan.does_of_step? haccounts.sound hs
    exact ⟨hcoherent, hdelivers, hguarded, haccounts.marked_of_open hd,
      fun error => hd.isClosed_of_failed⟩
  have haside : ∀ m, move ≠ .scan m := fun m hm => hscan ⟨m, hm⟩
  have hended : ∀ ending, v'.phase = .ended ending → v.phase = .ended ending := by
    intro ending hp
    rcases phase_cases_of_aside h.coherent hstep haside with hsame | ⟨-, hp' | hp'⟩
    · exact hsame.symm.trans hp
    · exact nomatch hp'.symm.trans hp
    · exact nomatch hp'.symm.trans hp
  refine ⟨hcoherent, hdelivers, hguarded, ?_, ?_⟩
  · intro hp hr
    rw [(mapped_of_aside h.coherent hstep haside).2]
    refine h.complete (hended _ hp) ?_
    cases hbefore : v.session.reason with
    | none => rfl
    | some reason => exact nomatch hr.symm.trans (reason_of_step h.coherent hbefore hstep)
  · exact fun error hp => isClosed_of_step h.coherent (h.shut error (hended _ hp)) hstep

/-- A stream that finds no reason and nobody to fill its queue has lost its scan. -/
theorem Answerable.vanished (h : v.Answerable) (hp : v.poll = some .taking)
    (hr : v.session.reason = none) (hq : v.session.queue = [])
    (hnobody : v.session.producerGone = true ∨ v.session.refusing = true) :
    .finish ∉ v.ledger.enqueued ∧
      (v.phase = .discarded ∨ ∃ text, v.phase = .ended (.raised text)) := by
  have hopen : ∀ {P : Prop}, v.session.isClosed = true → P := by
    intro P hc
    rw [Session.isClosed_eq_isSome, hr] at hc
    cases hc
  obtain ⟨hpresent, hdone, -⟩ : v.stream.Midway .taking := h.coherent.midway _ hp
  have hunmarked : .finish ∉ v.ledger.enqueued := by
    intro hmarked
    obtain ⟨read, hread⟩ := h.delivers
    have hflow := hread.flow hpresent
    rw [hq, List.append_nil] at hflow
    exact Bool.false_ne_true (hdone.symm.trans (hread.marked (hflow ▸ hmarked)))
  refine ⟨hunmarked, ?_⟩
  rcases hnobody with hgone | hrefusing
  · have hover : v.phase.isOver = true := h.coherent.kept.accounts.gone.symm.trans hgone
    cases hphase : v.phase with
    | discarded => exact Or.inl rfl
    | ended ending =>
        cases ending with
        | ok => exact absurd (h.complete hphase hr) hunmarked
        | failed error => exact hopen (h.shut error hphase)
        | raised text => exact Or.inr ⟨text, rfl⟩
    | _ =>
        rw [hphase] at hover
        cases hover
  · exact hopen (h.guarded.refusing hrefusing)

/-! ## After the scan has vanished -/

/-- Whoever is not the scan closes the session with a reason of its own, or leaves the
reason alone. -/
theorem Coherent.reason_of_aside (h : v.Coherent) (hs : v.stream.started = true)
    (hstep : v.step? move = some v') (haside : ∀ m, move ≠ .scan m) :
    v'.session.reason = v.session.reason.or move.closing? := by
  have hstarted : ∀ st : RowStream Row R, st.started = true → st.abandonStart = st :=
    fun _ hst => if_pos hst
  have hcloses := Session.close_reason_eq_or v.session
  cases move with
  | close reason => cases hstep; exact hcloses reason
  | cancel =>
      obtain ⟨-, ⟨⟩⟩ := Option.ite_none_right_eq_some.mp hstep
      show (v.stream.withSession v.session.cancel).abandonStart.session.reason = _
      rw [hstarted (v.stream.withSession v.session.cancel) hs]
      exact hcloses .cancelled
  | drop =>
      obtain ⟨-, ⟨⟩⟩ := Option.ite_none_right_eq_some.mp hstep
      show (v.stream.withSession v.session.dropConsumer).abandonStart.session.reason = _
      rw [hstarted (v.stream.withSession v.session.dropConsumer) hs]
      exact hcloses .cancelled
  | scan m => exact absurd rfl (haside m)
  | _ =>
      obtain ⟨-, -, -, hsame⟩ := phase_of_aside h hs hstep nofun
      exact (hsame rfl).trans (Option.or_none).symm

/-- The scan was over when the session was still open; since then `made` has been
done. -/
structure Deserted (made : List (Move Row)) (v : Invocation Row R) : Prop where
  coherent : v.Coherent
  started : v.stream.started = true
  ended : v.phase.isOver = true
  recorded : v.session.reason = made.findSome? Move.closing?

theorem Deserted.step {made : List (Move Row)} (h : v.Deserted made)
    (hstep : v.step? move = some v') : v'.Deserted (made ++ [move]) := by
  have haside : ∀ m, move ≠ .scan m := by
    rintro m rfl
    obtain ⟨scan, hs, rfl⟩ := Option.map_eq_some_iff.mp hstep
    have hd := Scan.does_of_step? h.coherent.kept.accounts.sound hs
    exact Bool.noConfusion (h.ended.symm.trans hd.isUnderWay.2)
  obtain ⟨hphase, hstarted, -, -⟩ := phase_of_aside h.coherent h.started hstep haside
  refine ⟨h.coherent.step hstep, hstarted, hphase.symm ▸ h.ended, ?_⟩
  rw [h.coherent.reason_of_aside h.started hstep haside, h.recorded, List.findSome?_append]
  simp

/-! ## What a poll gives and what is recorded -/

/-- A poll that gives a closing gives the reason that is recorded, and stays recorded;
or it gives `sourceFailure` because the scan has vanished without a word, and then
what is recorded is the reason of the first closing after this poll, if there is one. -/
theorem closing_agrees {plan : ScanPlan Row R} {capacity : Nat} {stream : RowStream Row R}
    {moves : List (Move Row)} {runtime : Bool} {reception : Reception} {reason : ClosureReason}
    (hopen : RowStream.open? plan capacity = .ok stream)
    (hplay : play? step? (start stream) moves = some v)
    (hstep : v.step? (.poll runtime reception) = some v')
    (htold : v'.diary = v.diary ++ [.told (.failed (.closed reason))]) :
    (∀ later w, play? step? v' later = some w → w.session.reason = some reason) ∨
      (v'.session.isClosed = false ∧ reason = .sourceFailure ∧
        .finish ∉ v'.ledger.enqueued ∧
        (v'.phase = .discarded ∨ ∃ text, v'.phase = .ended (.raised text)) ∧
        ∀ later w, play? step? v' later = some w →
          w.session.reason = later.findSome? Move.closing?) := by
  have h : v.Answerable :=
    play?_preserves (fun hu hs => hu.step hs) (answerable_start hopen) hplay
  have hv' := h.coherent.step hstep
  obtain ⟨stage, hp, rfl⟩ := Option.map_eq_some_iff.mp hstep
  obtain ⟨moved, stage', hg, heq⟩ := advance_eq h.coherent hp runtime reception
  rw [heq] at htold hv' ⊢
  have hstage : stage' = .done (.failed (.closed reason)) := by
    cases stage' with
    | done next =>
        cases List.singleton_inj.mp (List.append_cancel_left htold)
        rfl
    | _ => exact absurd (congrArg List.length htold) (by simp [goOn])
  subst hstage
  rcases hg.closing_cases with hr | ⟨rfl, hr, rfl, ⟨bell, rfl⟩, hq, hnobody⟩
  · refine Or.inl ?_
    intro later w hlater
    exact reason_of_play hv' hr hlater
  · obtain ⟨hunmarked, hlost⟩ := h.vanished hp hr hq hnobody
    obtain ⟨-, -, hstarted⟩ : v.stream.Midway .taking := h.coherent.midway _ hp
    have hover : v.phase.isOver = true := by
      rcases hlost with hlost | ⟨text, hlost⟩
      · rw [hlost]; rfl
      · rw [hlost]; rfl
    refine Or.inr ⟨congrArg Option.isSome hr, rfl, hunmarked, hlost, ?_⟩
    intro later w hlater
    have hdeserted := play?_history (P := Deserted) ⟨hv', hstarted, hover, hr⟩
      (fun _ hu hmove => hu.step hmove) hlater
    exact hdeserted.recorded

end

/-- The scan gives up between two polls, and nobody says so to the session. -/
def givenUp : List (Move Nat) :=
  [.beginPoll, .poll true .accepted, .poll true .accepted, .poll true .accepted,
    .poll true .accepted, .poll true .accepted, .scan .begin,
    .scan (.conclude (.raised "out of memory")), .beginPoll, .poll true .accepted]

theorem closing_agrees_after_giving_up :
    ∃ v v' w : Invocation Nat Nat,
      play? step? (start (.fresh doubling (.fresh 1))) givenUp = some v ∧
      v.step? (.poll true .accepted) = some v' ∧
      v'.diary = [.told .pending, .told (.failed (.closed .sourceFailure))] ∧
      play? step? v' [.close .transientSourceFailure, .cancel] = some w ∧
      w.session.reason = some .transientSourceFailure := by
  obtain ⟨v, v', w, hplay, hstep, hbefore, htold, hlater, hopen⟩ :
      ∃ v v' w : Invocation Nat Nat,
        play? step? (start (.fresh doubling (.fresh 1))) givenUp = some v ∧
        v.step? (.poll true .accepted) = some v' ∧ v.diary = [.told .pending] ∧
        v'.diary = [.told .pending, .told (.failed (.closed .sourceFailure))] ∧
        play? step? v' [.close .transientSourceFailure, .cancel] = some w ∧
        v'.session.reason = none :=
    ⟨_, _, _, rfl, rfl, rfl, rfl, rfl, rfl⟩
  refine ⟨v, v', w, hplay, hstep, htold, hlater, ?_⟩
  rcases @closing_agrees _ _ v v' doubling 1 _ _ _ _ _ rfl hplay hstep (by rw [htold, hbefore]; rfl)
    with hrecorded | ⟨-, -, -, -, hfirst⟩
  · exact nomatch hopen.symm.trans (hrecorded [] v' rfl)
  · exact hfirst _ w hlater

/-- The scheduler loses the scan that the first poll hands to it. -/
def lostAtOnce : List (Move Nat) :=
  [.beginPoll, .poll true .lost, .poll true .lost, .poll true .lost, .poll true .lost]

/-- A stream may give a closing, say that it is not closed, and record another
one. -/
theorem vanished_scan_leaves_stream_open :
    ∃ v w : Invocation Nat Nat,
      play? step? (start (.fresh doubling (.fresh 1))) lostAtOnce = some v ∧
      v.diary = [.told (.failed (.closed .sourceFailure))] ∧ v.session.isClosed = false ∧
      play? step? v [.drop] = some w ∧ w.session.reason = some .cancelled :=
  ⟨_, _, rfl, rfl, rfl, rfl, rfl⟩

end Invocation
end RowBridge
