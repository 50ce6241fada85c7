/-
# `RowBridge.Proofs.Stream.Draining` — what a finished scan has left behind

A scan that ended with its marker enqueued has left the rows that nobody has read
yet, and the marker behind them, in the queue (`Marked.exists_stocked`).  As long
as nobody closes the session, only polls change anything about it, and they take
what is there in its order (`Stocked.takes`):

    before        poll gives       after
    row :: rows   the row          rows
    no row        the end          ended
    ended         the end          ended

A poll that looked at the queue before anything was there gives nothing, once,
and takes nothing.

**Proved here**, for every plan, every queue and every schedule without closings:
the consumer is given those rows one after the other, then the end, again and
again, and a poll that nobody interrupts gives what is next
(`Stocked.draining_of_play`, `Draining.given`).  If the session is closed, the
next poll gives the closing, whatever is queued, and the one after it the end
(`poll_of_reason`, `poll_of_done`).
-/
import RowBridge.Proofs.Stream.Ending
import RowBridge.Proofs.Stream.Wakeups

namespace RowBridge

variable {Row R : Type}

/-- What a consumer is given next who has these rows before it, and then the
end. -/
def Next.ahead : List R → Next R
  | [] => .finished
  | first :: _ => .row first

/-! ## One poll -/

namespace RowStream

/-- The stream is open, and these rows and the end marker are queued. -/
structure Stocked (rows : List R) (st : RowStream Row R) : Prop where
  started : st.started = true
  unended : st.done = false
  reason : st.reason = none
  queue : st.session.queue = rows.map .value ++ [.finish]

/-- What a moment of a poll does to a stream with its rows before it. -/
inductive Takes (rows : List R) (st' : RowStream Row R) : PollStage R → PollStage R → Prop
  | goesOn {stage : PollStage R} : stage.looksAhead = true → st'.Stocked rows →
      Takes rows st' stage .taking
  | gives {row : R} {rest : List R} : rows = row :: rest → st'.Stocked rest →
      Takes rows st' .taking (.done (.row row))
  | ends : rows = [] → st'.done = true → Takes rows st' .taking (.done .finished)
  | passes : st'.Stocked rows → Takes rows st' .watching (.done .pending)

section
variable {st st' : RowStream Row R} {rows : List R} {runtime : Bool} {reception : Reception}
  {stage stage' : PollStage R}

theorem Stocked.takes (h : st.Stocked rows) (hs : stage ≠ .starting)
    (hg : stage.Gives runtime reception st st' stage') : st'.Takes rows stage stage' := by
  have hsame : ∀ {session : Session R}, session.reason = st.session.reason →
      session.queue = st.session.queue → (st.withSession session).Stocked rows := by
    intro session hr hq
    exact ⟨h.started, h.unended, hr.trans h.reason, hq.trans h.queue⟩
  have hfull : ∀ {P : Prop}, st.session.queue = [] → P := by
    intro P hnil
    exact absurd (hnil.symm.trans h.queue).symm (List.append_ne_nil_of_right_ne_nil _ nofun)
  cases hg with
  | overAgain hd => exact absurd (h.unended.symm.trans hd) Bool.false_ne_true
  | turnsBack _ hr => exact nomatch h.reason.symm.trans hr
  | goesToStart _ _ hstart => exact absurd (hstart.symm.trans h.started) Bool.false_ne_true
  | goesToQueue => exact .goesOn rfl (hsame rfl rfl)
  | strands => exact absurd rfl hs
  | handsOver => exact absurd rfl hs
  | goesOn => exact .goesOn rfl h
  | stops _ hr => exact nomatch h.reason.symm.trans hr
  | takesRow hq =>
      cases rows with
      | nil => exact nomatch hq.symm.trans h.queue
      | cons first others =>
          obtain ⟨⟨⟩, hrest⟩ := List.cons.inj (hq.symm.trans h.queue)
          exact .gives rfl ⟨h.started, h.unended, h.reason, hrest⟩
  | takesFinish hq =>
      cases rows with
      | nil => exact .ends rfl rfl
      | cons first others => exact nomatch hq.symm.trans h.queue
  | findsNobody hnil => exact hfull hnil
  | findsNothing hnil => exact hfull hnil
  | leavesBell => exact .passes (hsame rfl rfl)

/-- A poll that nobody interrupts gives what is next. -/
theorem Stocked.poll_eq (h : st.Stocked rows) (runtime : Bool) (reception : Reception) :
    (st.poll runtime reception).2 = .ahead rows := by
  have hdone := poll_preserves runtime reception
    (P := fun u stage => (u.Stocked rows ∧ (stage = .entering ∨ stage = .taking)) ∨
      stage = .done (.ahead rows)) ?_ (Or.inl ⟨h, Or.inl rfl⟩)
  · rcases hdone with ⟨-, hstage | hstage⟩ | hstage
    · cases hstage
    · cases hstage
    · exact PollStage.done.inj hstage
  · rintro u u' stage stage' (⟨hstocked, hstage⟩ | rfl) hg
    · have hs : stage ≠ .starting := by rcases hstage with rfl | rfl <;> nofun
      cases hstocked.takes hs hg with
      | goesOn _ hstocked' => exact Or.inl ⟨hstocked', Or.inr rfl⟩
      | gives hrows => exact Or.inr (hrows ▸ rfl)
      | ends hrows => exact Or.inr (hrows ▸ rfl)
      | passes => rcases hstage with hstage | hstage <;> cases hstage
    · exact absurd hg.toGo_lt (Nat.not_lt_zero _)

/-- A poll that nobody interrupts gives the end of a stream that has ended. -/
theorem poll_of_done (hd : st.done = true) (runtime : Bool) (reception : Reception) :
    (st.poll runtime reception).2 = .finished := by
  have hdone := poll_preserves runtime reception
    (P := fun u stage => (stage = .entering ∧ u.done = true) ∨ stage = .done .finished) ?_
    (Or.inl ⟨rfl, hd⟩)
  · rcases hdone with ⟨hstage, -⟩ | hstage
    · cases hstage
    · exact PollStage.done.inj hstage
  · rintro u u' stage stage' (⟨rfl, hu⟩ | rfl) hg
    · cases hg with
      | overAgain => exact Or.inr rfl
      | turnsBack ho => exact absurd (ho.symm.trans hu) Bool.false_ne_true
      | goesToStart ho => exact absurd (ho.symm.trans hu) Bool.false_ne_true
      | goesToQueue ho => exact absurd (ho.symm.trans hu) Bool.false_ne_true
      | stops hl => cases hl
    · exact absurd hg.toGo_lt (Nat.not_lt_zero _)

/-- A poll that nobody interrupts gives the closing of a stream that was closed,
and ends it. -/
theorem poll_of_reason (hd : st.done = false) {reason : ClosureReason}
    (hr : st.reason = some reason) (runtime : Bool) (reception : Reception) :
    (st.poll runtime reception).2 = .failed (.closed reason) ∧
      (st.poll runtime reception).1.done = true := by
  have hdone := poll_preserves runtime reception
    (P := fun u stage => (stage = .entering ∧ u.done = false ∧ u.reason = some reason) ∨
      (stage = .done (.failed (.closed reason)) ∧ u.done = true)) ?_ (Or.inl ⟨rfl, hd, hr⟩)
  · rcases hdone with ⟨hstage, -⟩ | ⟨hstage, hended⟩
    · cases hstage
    · exact ⟨PollStage.done.inj hstage, hended⟩
  · rintro u u' stage stage' (⟨rfl, hud, hur⟩ | ⟨rfl, -⟩) hg
    · cases hg.refused rfl hud hur
      cases hg with
      | turnsBack => exact Or.inr ⟨rfl, rfl⟩
      | stops hl => cases hl
    · exact absurd hg.toGo_lt (Nat.not_lt_zero _)

end
end RowStream

/-! ## Every poll -/

namespace Invocation

/-- The scan is over, and has left these rows and its end marker to the consumer
of an open stream. -/
structure Stocked (rows : List R) (v : Invocation Row R) : Prop where
  coherent : v.Coherent
  settled : v.phase.isOver = true
  stream : v.stream.Stocked rows

/-- The consumer had been given `before` and then had `rows` before it, and the
end; since then it has been given a part of this. -/
inductive Draining (before : List (Next R)) (rows : List R) (v : Invocation Row R) : Prop
  | part (given rest : List R) : rows = given ++ rest →
      v.answers = before ++ given.map .row → v.Stocked rest → Draining before rows v
  | done (n : Nat) : v.Coherent → v.stream.done = true →
      v.answers = before ++ rows.map .row ++ List.replicate (n + 1) .finished →
      Draining before rows v

section
variable {v v' w : Invocation Row R} {move : Move Row} {before : List (Next R)} {rows : List R}

/-- Where the marker was enqueued and not read, the unread rows and the marker
are in the queue. -/
theorem Marked.exists_stocked (h : v.Marked) {read : List (Item R)} (hread : Delivers read v)
    (hover : v.phase.isOver = true) (hmarked : .finish ∈ v.ledger.enqueued)
    (hr : v.session.reason = none) (hg : v.session.consumerGone = false)
    (hd : v.stream.done = false) :
    ∃ rows, v.Stocked rows ∧
      (v.rows ++ rows).map .ok = v.ledger.handed.map v.stream.scan.plan.result := by
  obtain ⟨values, henqueued, hvalues⟩ := h.coherent.kept.accounts.complete hmarked
  have hflow := (hread.flow hg).trans henqueued
  have hunread : Item.finish ∉ read := by
    intro hin
    exact absurd (hd.symm.trans (hread.marked hin)) Bool.false_ne_true
  -- what was read carries the first values, and the others lie before the marker
  obtain ⟨rest, hrest⟩ : read <+: values.map .value := by
    rcases List.prefix_concat_iff.mp ⟨_, hflow⟩ with hall | hpart
    · exact absurd (hall ▸ List.mem_append_right _ (List.mem_singleton_self _)) hunread
    · exact hpart
  obtain ⟨given, rows, rfl, rfl, rfl⟩ := List.map_eq_append_iff.mp hrest.symm
  refine ⟨rows, ⟨h.coherent, hover, h.started, hd, hr, ?_⟩, ?_⟩
  · rw [← hrest, List.append_assoc] at hflow
    exact List.append_cancel_left hflow
  · have hgiven : v.rows = given := by
      rw [hread.rows_read, List.filterMap_map]
      exact List.filterMap_some
    rw [hgiven]
    exact hvalues.symm

theorem Stocked.not_starting (h : v.Stocked rows) {stage : PollStage R}
    (hp : v.poll = some stage) : stage ≠ .starting := by
  rintro rfl
  have hm := h.coherent.midway _ hp
  exact absurd (hm.2.2.symm.trans h.stream.started) Bool.false_ne_true

/-- Whatever the parties do without closing the session, the consumer drains what
it has before it. -/
theorem Stocked.step (h : v.Stocked rows) (hmove : move.closes = false)
    (hstep : v.step? move = some v') : Draining v.answers rows v' := by
  have hcoherent := h.coherent.step hstep
  have hstill : v'.answers = v.answers → v'.Stocked rows → Draining v.answers rows v' := by
    intro hanswers hstocked
    exact .part [] rows rfl (hanswers.trans (List.append_nil _).symm) hstocked
  cases move with
  | pass => cases hstep; exact hstill rfl h
  | beginPoll =>
      obtain ⟨-, ⟨⟩⟩ := Option.ite_none_right_eq_some.mp hstep
      exact hstill rfl ⟨hcoherent, h.settled, h.stream⟩
  | scan m =>
      obtain ⟨scan, hs, rfl⟩ := Option.map_eq_some_iff.mp hstep
      have hd := Scan.does_of_step? h.coherent.kept.accounts.sound hs
      exact absurd (h.settled.symm.trans hd.isUnderWay.2) Bool.noConfusion
  | poll runtime reception =>
      have hphase := (phase_of_aside h.coherent h.stream.started hstep nofun).1
      have hover := hphase ▸ h.settled
      obtain ⟨stage, hp, rfl⟩ := Option.map_eq_some_iff.mp hstep
      obtain ⟨stream, stage', hg, heq⟩ := advance_eq h.coherent hp runtime reception
      rw [heq] at hcoherent hover hstill ⊢
      cases h.stream.takes (h.not_starting hp) hg with
      | goesOn _ hstocked => exact hstill rfl ⟨hcoherent, hover, hstocked⟩
      | @gives row rest hrows hstocked =>
          exact .part [row] rest hrows (answers_goOn_done _ _) ⟨hcoherent, hover, hstocked⟩
      | ends hrows hended =>
          refine .done 0 hcoherent hended ?_
          rw [hrows, List.map_nil, List.append_nil]
          exact answers_goOn_done _ _
      | passes hstocked =>
          exact hstill ((answers_goOn_done _ _).trans (List.append_nil _))
            ⟨hcoherent, hover, hstocked⟩
  | _ => cases hmove

/-- What a poll gives from a stream that has ended is the end, and no move opens
it again. -/
theorem answers_of_done (hv : v.Coherent) (hd : v.stream.done = true)
    (hmove : move.closes = false) (hstep : v.step? move = some v') :
    v'.answers = v.answers ∨ v'.answers = v.answers ++ [.finished] := by
  cases move with
  | pass => cases hstep; exact Or.inl rfl
  | beginPoll =>
      obtain ⟨-, ⟨⟩⟩ := Option.ite_none_right_eq_some.mp hstep
      exact Or.inl rfl
  | scan m =>
      obtain ⟨scan, -, rfl⟩ := Option.map_eq_some_iff.mp hstep
      exact Or.inl rfl
  | poll runtime reception =>
      obtain ⟨stage, hp, -⟩ := Option.map_eq_some_iff.mp hstep
      obtain ⟨other, hother, -, hdiary⟩ := hv.yields_finished hd hp runtime reception
      cases hstep.symm.trans hother
      refine Or.inr ?_
      rw [answers, hdiary, List.filterMap_append]
      rfl
  | _ => cases hmove

theorem Draining.step (h : Draining before rows v) (hmove : move.closes = false)
    (hstep : v.step? move = some v') : Draining before rows v' := by
  cases h with
  | part given rest hrows hanswers hstocked =>
      cases hstocked.step hmove hstep with
      | part given' rest' hrest hanswers' hstocked' =>
          refine .part (given ++ given') rest' ?_ ?_ hstocked'
          · rw [hrows, hrest, List.append_assoc]
          · rw [hanswers', hanswers, List.map_append, List.append_assoc]
      | done n hcoherent hd hanswers' =>
          refine .done n hcoherent hd ?_
          rw [hanswers', hanswers, hrows, List.map_append, List.append_assoc before]
  | done n hcoherent hd hanswers =>
      have hd' := (rows_eq_of_done hcoherent hd hstep).1
      rcases answers_of_done hcoherent hd hmove hstep with hsame | hagain
      · exact .done n (hcoherent.step hstep) hd' (hsame.trans hanswers)
      · refine .done (n + 1) (hcoherent.step hstep) hd' ?_
        rw [hagain, hanswers, List.append_assoc, ← List.replicate_succ']

/-- A consumer that goes on polling is given the rows before it, and then the
end. -/
theorem Stocked.draining_of_play {moves : List (Move Row)} (h : v.Stocked rows)
    (hmoves : ∀ move ∈ moves, move.closes = false) (hplay : play? step? v moves = some w) :
    Draining v.answers rows w := by
  have halong : Along step? (fun _ move => Move.closes move = false) v moves :=
    Along.of_forall (fun move hmove _ => hmoves move hmove) v
  have hstart : Draining v.answers rows v := .part [] rows rfl (List.append_nil _).symm h
  exact halong.preserves (fun hu hmove hstep => hu.step hmove hstep) hstart hplay

/-- What the consumer has been given is an initial segment of what it had before
it, and a poll that nobody interrupts gives what is next. -/
theorem Draining.given (h : Draining before rows v) :
    ∃ (given rest : List R) (n : Nat), rows = given ++ rest ∧ (0 < n → rest = []) ∧
      v.answers = before ++ given.map .row ++ List.replicate n .finished ∧
      ∀ runtime reception, (v.stream.poll runtime reception).2 = .ahead rest := by
  cases h with
  | part given rest hrows hanswers hstocked =>
      refine ⟨given, rest, 0, hrows, nofun, ?_, hstocked.stream.poll_eq⟩
      rw [hanswers, List.replicate_zero, List.append_nil]
  | done n _ hd hanswers =>
      exact ⟨rows, [], n + 1, (List.append_nil rows).symm, fun _ => rfl, hanswers,
        RowStream.poll_of_done hd⟩

end

/-! ## Closings -/

section
variable {v w : Invocation Row R} {moves : List (Move Row)} {reason : ClosureReason}

/-- After a schedule with a closing in it the session is closed. -/
theorem isSome_reason_of_close_mem (hv : v.Coherent) (hin : .close reason ∈ moves)
    (hplay : play? step? v moves = some w) : ∃ recorded, w.session.reason = some recorded := by
  obtain ⟨early, late, rfl⟩ := List.append_of_mem hin
  rw [play?_append] at hplay
  obtain ⟨u, hearly, hrest⟩ := Option.bind_eq_some_iff.mp hplay
  obtain ⟨u', hclose, hlate⟩ := play?_cons hrest
  have hu' : u'.Coherent := (play?_preserves (fun hx hs => hx.step hs) hv hearly).step hclose
  cases hclose
  exact ⟨_, reason_of_play hu' (Session.close_reason u.session reason) hlate⟩

/-- If everybody else only cancels, the session of a scan that enqueued its marker
is open or cancelled. -/
theorem Marked.cancelled_of_play (h : v.Marked) (hmarked : .finish ∈ v.ledger.enqueued)
    (ho : v.session.reason = none) (hmoves : ∀ move ∈ moves, move.OnlyCancels)
    (hplay : play? step? v moves = some w) (hr : w.session.reason = some reason) :
    reason = .cancelled := by
  have halong : Along step? (fun _ move => Move.OnlyCancels move) v moves :=
    Along.of_forall (fun move hmove _ => hmoves move hmove) v
  obtain ⟨-, htame, hstill⟩ := halong.preserves
    (P := fun u => u.Marked ∧ u.Tame ∧ .finish ∈ u.ledger.enqueued)
    (fun hu hmove hstep => ⟨hu.1.step hstep, hu.2.1.step hu.1 hstep hmove,
      (hu.1.enqueued_isPrefix hstep).subset hu.2.2⟩)
    ⟨h, Or.inl ho, hmarked⟩ hplay
  rcases htame with hnone | hcancelled | ⟨hnever, -⟩
  · exact nomatch hr.symm.trans hnone
  · exact Option.some.inj (hr.symm.trans hcancelled)
  · exact absurd hstill hnever

end
end Invocation
end RowBridge
