/-
# `RowBridge.Proofs.Stream.Bounds` — how far a scan runs ahead of its consumer

The mapper is the expensive part of a scan and the queue is its memory.  Three
counts are tied to each other, whatever the source does:

    calls of the mapper  ≤  rows enqueued + 1          (`Counts`)
    rows enqueued        ≤  rows given + capacity      (`Bounded.held`)
    items queued         ≤  capacity                   (`Bounded.queued`)

The first leaves one row in hand, and what becomes of it depends on the phase: it
is in hand from the call of the mapper until it is enqueued, or for good if it
never is.  The second holds of a consumer that has gone, too: it refuses items,
so nothing is enqueued for it.

**Proved here** (`bounded_work`): these bounds, and what a scan still does once
its session is closed, for every plan, every queue and every schedule.  A
schedule may hand over rows as often as it likes, whatever the source was told.
-/
import RowBridge.Proofs.Stream.Winding

namespace RowBridge

variable {Row R : Type}

/-- How many rows have been enqueued. -/
def Ledger.rowsEnqueued (l : Ledger Row R) : Nat := (l.enqueued.filterMap Item.toValue?).length

/-- How the calls of the mapper and the rows enqueued belong together, at each
phase. -/
def Counts (mapped rows : Nat) (closed : Bool) : ScanPhase Row R → Prop
  | .scanning => mapped = rows ∨ (closed = true ∧ mapped ≤ rows + 1)
  | .sending item stage => mapped + (stage.landed item).length = rows + 1
  | .ended _ => mapped ≤ rows + 1
  | _ => mapped = rows

/-! ## Counting in one scan -/

/-- A move that adds nothing to the queue adds nothing to the count. -/
theorem Ledger.rowsEnqueued_enter (l : Ledger Row R) {before after : Session R}
    (hq : after.queue = before.queue) (move : ScanMove Row) :
    (l.enter before after move).rowsEnqueued = l.rowsEnqueued := by
  cases move <;> simp [Ledger.enter, Ledger.rowsEnqueued, Ledger.grow, hq]

/-- A moment of an enqueue adds what has landed. -/
theorem SendStage.Moves.rowsEnqueued {runtime expired : Bool} {s s' : Session R} {item : Item R}
    {stage stage' : SendStage} (h : stage.Moves runtime expired s item s' stage')
    (l : Ledger Row R) :
    (l.grow s s').rowsEnqueued =
      l.rowsEnqueued + ((stage'.landed item).filterMap Item.toValue?).length := by
  show ((l.enqueued ++ s'.queue.drop s.queue.length).filterMap _).length = _
  rw [h.gained, List.filterMap_append, List.length_append]
  rfl

theorem Counts.le {mapped rows : Nat} {closed : Bool} {phase : ScanPhase Row R}
    (h : Counts mapped rows closed phase) : mapped ≤ rows + 1 := by
  cases phase with
  | scanning => rcases h with h | h <;> omega
  | sending item stage => exact Nat.le_of_add_right_le (Nat.le_of_eq h)
  | ended ending => exact h
  | _ => exact Nat.le_succ_of_le (Nat.le_of_eq h)

theorem Counts.of_isClosed {mapped rows : Nat} {closed closed' : Bool} {phase : ScanPhase Row R}
    (h : Counts mapped rows closed phase) (hc : closed = true → closed' = true) :
    Counts mapped rows closed' phase := by
  cases phase with
  | scanning => exact h.imp_right fun hover => ⟨hc hover.1, hover.2⟩
  | _ => exact h

/-- Between two rows of an open session every mapped row has been enqueued. -/
theorem Counts.eq_of_open {mapped rows : Nat} {closed : Bool}
    (h : Counts mapped rows closed (.scanning : ScanPhase Row R)) (ho : closed = false) :
    mapped = rows :=
  h.resolve_right fun hc => Bool.false_ne_true (ho.symm.trans hc.1)

namespace Scan

section
variable {s s' : Scan Row R} {l : Ledger Row R} {move : ScanMove Row}

/-- Every move of a scan keeps the count. -/
theorem Does.counts (hd : s.Does move s') (ha : Accounts s l)
    (h : Counts s.mapped l.rowsEnqueued s.session.isClosed s.phase) :
    Counts s'.mapped (l.enter s.session s'.session move).rowsEnqueued s'.session.isClosed
      s'.phase := by
  have hst := ha.stands
  have hdropped := Session.dropProducer_queue s.session
  have hle := h.le
  cases hd with
  | skips => exact (l.rowsEnqueued_enter hdropped _).symm ▸ hle
  | begins hp =>
      rw [hp] at h
      exact Or.inl (h.trans (l.rowsEnqueued_enter rfl .begin).symm)
  | vanishes hp =>
      rw [hp] at h
      exact (l.rowsEnqueued_enter hdropped .lose).symm ▸ h
  | turnsAway => exact h
  | takesOn hp ho =>
      rw [hp] at h
      exact h.eq_of_open ho
  | comesToEnd hp ho =>
      rw [hp] at h
      exact h.eq_of_open ho
  | fails hp ho =>
      rw [hp] at h
      exact h.eq_of_open ho
  | stops => exact hle
  | stopsFailing => exact hle
  | raises => exact hle
  | maps hp =>
      rw [hp] at h
      refine Eq.trans ?_ (congrArg (· + 1) (l.rowsEnqueued_enter rfl (.advance _)).symm)
      exact congrArg (· + 1) h
  | givesUp hp =>
      rw [hp] at h
      refine (l.rowsEnqueued_enter hdropped (.advance _)).symm ▸ ?_
      exact Nat.succ_le_succ (Nat.le_of_eq h)
  | sends hp hm =>
      rw [hp] at h hst
      obtain ⟨-, early, row, index, value, body, -, -, rfl, -, -⟩ := hst
      have hlanded : ∀ stage : SendStage,
          ((stage.landed (.value value)).filterMap Item.toValue?).length =
            (stage.landed (.value value)).length := by
        intro stage
        unfold SendStage.landed
        split <;> rfl
      have hmapped : s.mapped = l.rowsEnqueued + 1 := by
        have hh : s.mapped + _ = _ := h
        rwa [hm.landed_nil] at hh
      show s.mapped + _ = (l.grow _ _).rowsEnqueued + 1
      rw [hm.rowsEnqueued l, hlanded, hmapped]
      exact Nat.add_right_comm _ _ _
  | @settles expired item outcome hp =>
      have hsound := ha.sound
      rw [hp] at h hsound
      rw [settleRow_mapped, settleRow_session, settleRow_phase, l.rowsEnqueued_enter rfl]
      have hh : s.mapped + (SendStage.landed item (.done outcome)).length = l.rowsEnqueued + 1 := h
      rcases hsound with rfl | hc
      · exact Or.inl (Nat.succ.inj hh)
      · exact Or.inr ⟨hc, Nat.le_of_add_right_le (Nat.le_of_eq hh)⟩
  | delivers hp hm =>
      rw [hp] at h
      have hlanded : ∀ stage : SendStage,
          ((stage.landed (R := R) .finish).filterMap Item.toValue?).length = 0 := by
        intro stage
        unfold SendStage.landed
        split <;> rfl
      show s.mapped = (l.grow _ _).rowsEnqueued
      rw [hm.rowsEnqueued l, hlanded]
      exact h
  | completes hp =>
      rw [settleFinish_mapped, settleFinish_session, settleFinish_phase,
        l.rowsEnqueued_enter hdropped]
      exact hle
  | closes hp =>
      rw [settleFailure_mapped, settleFailure_session, settleFailure_phase, l.rowsEnqueued_enter]
      · exact hle
      · exact (Session.dropProducer_queue _).trans (Session.close_queue _ _)
  | looksAgain hp =>
      rw [hp] at h
      exact h.trans (congrArg (· + 1) (l.rowsEnqueued_enter rfl .recheck).symm)
  | endsAgain hp =>
      rw [hp] at h
      exact h.trans (l.rowsEnqueued_enter rfl .recheck).symm

end
end Scan

namespace Invocation

/-! ## The bounds -/

section
variable {v v' : Invocation Row R} {move : Move Row}

/-- The three counts are tied to each other. -/
structure Bounded (v : Invocation Row R) : Prop where
  coherent : v.Coherent
  delivers : ∃ read, Delivers read v
  counts : Counts v.stream.scan.mapped v.ledger.rowsEnqueued v.session.isClosed v.phase
  queued : v.session.queue.length ≤ v.session.capacity
  /-- A consumer that has gone refuses items. -/
  gone : v.session.consumerGone = true → v.session.refusing = true
  held : v.ledger.rowsEnqueued ≤ v.rows.length + v.session.capacity

theorem bounded_start {plan : ScanPlan Row R} {capacity : Nat} {stream : RowStream Row R}
    (hopen : RowStream.open? plan capacity = .ok stream) : Bounded (start stream) where
  coherent := coherent_start hopen
  delivers := ⟨[], delivers_start hopen⟩
  counts := by cases RowStream.eq_fresh_of_open? hopen; rfl
  queued := by cases RowStream.eq_fresh_of_open? hopen; exact Nat.zero_le _
  gone := by cases RowStream.eq_fresh_of_open? hopen; nofun
  held := Nat.zero_le _

/-- While the consumer is there, rows that it was not given are in the queue. -/
theorem Delivers.rowsEnqueued_le {read : List (Item R)} (h : Delivers read v)
    (hg : v.session.consumerGone = false) :
    v.ledger.rowsEnqueued ≤ v.rows.length + v.session.queue.length := by
  rw [Ledger.rowsEnqueued, ← h.flow hg, List.filterMap_append, List.length_append, ← h.rows_read]
  exact Nat.add_le_add_left (List.length_filterMap_le _ _) _

/-- A scan has room for what it adds to the queue. -/
theorem length_queue_of_touches {runtime ended : Bool} {s s' : Session R}
    (ht : Scan.Touches runtime s s' ended) (hq : s.queue.length ≤ s.capacity) :
    s'.queue.length ≤ s'.capacity ∧ (s.refusing = true → s'.queue = s.queue) := by
  rw [ht.frame.1]
  cases ht with
  | leaves => exact ⟨hq, fun _ => rfl⟩
  | givesUp => rw [Session.dropProducer_queue]; exact ⟨hq, fun _ => rfl⟩
  | closes reason =>
      rw [Session.dropProducer_queue, Session.close_queue]
      exact ⟨hq, fun _ => rfl⟩
  | enqueues hm =>
      rcases hm.queue with ⟨-, -, href, hroom, rfl⟩ | ⟨-, hsame⟩
      · have hlt : s.queue.length < s.capacity := of_decide_eq_true hroom
        refine ⟨?_, fun href' => absurd (href.symm.trans href') Bool.false_ne_true⟩
        show (s.queue ++ [_]).length ≤ s.capacity
        rw [List.length_append]
        exact hlt
      · rw [hsame]
        exact ⟨hq, fun _ => rfl⟩

/-- A poll takes out of the queue and puts nothing in. -/
theorem length_queue_of_tells {s s' : Session R} {ended ended' : Bool} {stage : PollStage R}
    (ht : stage.Tells s ended s' ended') : s'.queue.length ≤ s.queue.length := by
  cases ht with
  | goesOn hk => exact Nat.le_of_eq (congrArg List.length hk.queue)
  | nothing hk => exact Nat.le_of_eq (congrArg List.length hk.queue)
  | again _ hk => exact Nat.le_of_eq (congrArg List.length hk.queue)
  | fails _ hk => exact Nat.le_of_eq (congrArg List.length hk.queue)
  | row _ hq => rw [hq]; exact Nat.le_succ _
  | finish _ hq => rw [hq]; exact Nat.le_succ _

theorem Bounded.counts_step (h : v.Bounded) (hstep : v.step? move = some v') :
    Counts v'.stream.scan.mapped v'.ledger.rowsEnqueued v'.session.isClosed v'.phase := by
  by_cases hscan : ∃ m, move = .scan m
  · obtain ⟨m, rfl⟩ := hscan
    obtain ⟨scan, hs, rfl⟩ := Option.map_eq_some_iff.mp hstep
    have hd := Scan.does_of_step? h.coherent.kept.accounts.sound hs
    exact hd.counts h.coherent.kept.accounts h.counts
  have haside : ∀ m, move ≠ .scan m := fun m hm => hscan ⟨m, hm⟩
  obtain ⟨hmapped, hledger⟩ := mapped_of_aside h.coherent hstep haside
  have hcounts := h.counts
  rw [hmapped, hledger]
  rcases phase_cases_of_aside h.coherent hstep haside with hp | ⟨hp, hp'⟩
  · rw [hp]
    exact hcounts.of_isClosed fun hc => isClosed_of_step h.coherent hc hstep
  · rw [hp] at hcounts
    rcases hp' with hp' | hp' <;> rw [hp'] <;> exact hcounts

/-- The queue keeps to its capacity, and whoever goes refuses. -/
theorem Bounded.queue_step (h : v.Bounded) (hstep : v.step? move = some v') :
    v'.session.queue.length ≤ v'.session.capacity ∧
      (v'.session.consumerGone = true → v'.session.refusing = true) := by
  cases move with
  | pass => cases hstep; exact ⟨h.queued, h.gone⟩
  | beginPoll =>
      obtain ⟨-, ⟨⟩⟩ := Option.ite_none_right_eq_some.mp hstep
      exact ⟨h.queued, h.gone⟩
  | poll runtime reception =>
      obtain ⟨stage, hp, rfl⟩ := Option.map_eq_some_iff.mp hstep
      obtain ⟨stream, stage', hg, heq⟩ := advance_eq h.coherent hp runtime reception
      rw [heq, session, goOn_stream]
      have ht := hg.tells (h.coherent.midway stage hp)
      obtain ⟨hcapacity, hrefusing, hgone⟩ := ht.frame
      refine ⟨?_, fun hc => hrefusing.trans (h.gone (hgone.symm.trans hc))⟩
      exact hcapacity.symm ▸ Nat.le_trans (length_queue_of_tells ht) h.queued
  | scan move =>
      obtain ⟨scan, hs, rfl⟩ := Option.map_eq_some_iff.mp hstep
      have ht := (Scan.does_of_step? h.coherent.kept.accounts.sound hs).touches
      obtain ⟨-, hrefusing, hgone⟩ := ht.frame
      exact ⟨(length_queue_of_touches ht h.queued).1,
        fun hc => hrefusing.trans (h.gone (hgone.symm.trans hc))⟩
  | close reason =>
      cases hstep
      have hk := v.session.keeps_close reason
      refine ⟨?_, fun hc => hk.refusing.trans (h.gone (hk.consumerGone.symm.trans hc))⟩
      show (v.session.close reason).queue.length ≤ (v.session.close reason).capacity
      rw [hk.queue, hk.capacity]
      exact h.queued
  | cancel =>
      obtain ⟨-, ⟨⟩⟩ := Option.ite_none_right_eq_some.mp hstep
      have hk := (v.stream.withSession v.session.cancel).keeps_abandonStart
      refine ⟨?_, fun _ => hk.refusing⟩
      show v.stream.cancel.session.queue.length ≤ v.stream.cancel.session.capacity
      rw [v.stream.cancel_queue,
        show v.stream.cancel.session.capacity = v.session.capacity from
          hk.capacity.trans (Session.close_capacity _ .cancelled)]
      exact h.queued
  | drop =>
      obtain ⟨-, ⟨⟩⟩ := Option.ite_none_right_eq_some.mp hstep
      have hk := (v.stream.withSession v.session.dropConsumer).keeps_abandonStart
      have hempty : v.stream.drop.session.queue = [] := hk.queue
      refine ⟨?_, fun _ => hk.refusing⟩
      show v.stream.drop.session.queue.length ≤ _
      rw [hempty]
      exact Nat.zero_le _

theorem Bounded.step (h : v.Bounded) (hstep : v.step? move = some v') : v'.Bounded := by
  have hcoherent := h.coherent.step hstep
  obtain ⟨read, hread⟩ := h.delivers
  have hdelivers := hread.step h.coherent hstep
  obtain ⟨hqueued, hgone⟩ := h.queue_step hstep
  refine ⟨hcoherent, hdelivers, h.counts_step hstep, hqueued, hgone, ?_⟩
  cases hg : v'.session.consumerGone with
  | false =>
      obtain ⟨read', hread'⟩ := hdelivers
      exact Nat.le_trans (hread'.rowsEnqueued_le hg) (Nat.add_le_add_left hqueued _)
  | true =>
      -- nobody is given rows or enqueues any for a consumer that has gone
      rw [capacity_eq_of_step h.coherent hstep]
      have hheld := h.held
      cases move with
      | scan move =>
          obtain ⟨scan, hs, rfl⟩ := Option.map_eq_some_iff.mp hstep
          have ht := (Scan.does_of_step? h.coherent.kept.accounts.sound hs).touches
          have hrefusing := h.gone (ht.frame.2.2.symm.trans hg)
          have hq := (length_queue_of_touches ht h.queued).2 hrefusing
          exact (v.ledger.rowsEnqueued_enter hq move).symm ▸ hheld
      | _ =>
          obtain ⟨-, hledger⟩ := mapped_of_aside h.coherent hstep nofun
          have hrows : v.rows.length ≤ v'.rows.length :=
            ((diary_isPrefix h.coherent hstep).filterMap Note.row?).length_le
          rw [hledger]
          exact Nat.le_trans hheld (Nat.add_le_add_right hrows _)

end

section
variable {plan : ScanPlan Row R} {capacity : Nat} {stream : RowStream Row R}
  {v : Invocation Row R} {moves : List (Move Row)}

/-- Whatever the parties to an invocation do and in whatever order, and however
often the source goes on handing over rows:

* the mapper is called at most once more than rows were enqueued, and at most
  `capacity + 1` times more than rows were given; no more than `capacity` items
  are queued;
* once the session is closed, the mapper is called at most once more, and only
  for the row that was just going to be mapped: then nothing more is enqueued;
* an item that is enqueued afterwards is the only one, and its enqueue had looked
  for the closing before there was one;
* a row that is offered afterwards is turned away: the source is told to stop, and
  from then on nothing is mapped or enqueued. -/
theorem bounded_work (hopen : RowStream.open? plan capacity = .ok stream)
    (hplay : play? step? (start stream) moves = some v) :
    (v.stream.scan.mapped ≤ v.rows.length + capacity + 1 ∧
      v.session.queue.length ≤ capacity ∧
      v.stream.scan.mapped ≤ v.ledger.rowsEnqueued + 1) ∧
    (v.session.isClosed = true → ∀ later w, play? step? v later = some w →
      (w.stream.scan.mapped ≤ v.stream.scan.mapped + 1 ∧
        (w.stream.scan.mapped ≠ v.stream.scan.mapped →
          (∃ row index, v.phase = .mapping row index) ∧
            w.ledger.enqueued = v.ledger.enqueued)) ∧
      (w.ledger.enqueued ≠ v.ledger.enqueued →
        ((∃ item, v.phase = .sending item .reserving) ∨ v.phase = .ending .reserving) ∧
          ∃ item, w.ledger.enqueued = v.ledger.enqueued ++ [item]) ∧
      (∀ early row index late x, later = early ++ .scan (.offer row index) :: late →
        play? step? v early = some x →
        (∃ y, x.step? (.scan (.offer row index)) = some y ∧ y.phase = .scanning ∧
            y.stream.scan.answer = some .stop) ∧
          w.stream.scan.mapped = x.stream.scan.mapped ∧
          w.ledger.enqueued = x.ledger.enqueued)) := by
  obtain ⟨hv, hcapacity⟩ := play?_preserves
    (P := fun u => u.Bounded ∧ u.session.capacity = (start stream).session.capacity)
    (fun hu hs => ⟨hu.1.step hs, (capacity_eq_of_step hu.1.coherent hs).trans hu.2⟩)
    ⟨bounded_start hopen, rfl⟩ hplay
  have hcapacity : v.session.capacity = capacity := by
    rw [hcapacity, RowStream.eq_fresh_of_open? hopen]
    rfl
  have hmapped := hv.counts.le
  have hheld := hv.held
  refine ⟨⟨by omega, hcapacity ▸ hv.queued, hmapped⟩, ?_⟩
  intro hc later w hlater
  obtain ⟨-, -, hwinds⟩ := winds_of_play hv.coherent hc hlater
  refine ⟨⟨?_, ?_⟩, hwinds.enqueued_cases.resolve_left, ?_⟩
  · rcases hwinds.mapped_cases with hsame | ⟨hone, -⟩ <;> omega
  · exact fun hne => (hwinds.mapped_cases.resolve_left hne).2
  · rintro early row index late x rfl hearly
    rw [play?_append, hearly] at hlater
    obtain ⟨hx, hcx, -⟩ := winds_of_play hv.coherent hc hearly
    exact turned_away hx hcx hlater

end

/-- Room for one item and a source that does not listen: the row 7 is queued, the
row 8 has just been handed over when a handle cancels, and the row 9 comes all
the same. -/
def closedInHand : List (Move Nat) :=
  [.beginPoll, .poll true .accepted, .poll true .accepted, .poll true .accepted,
    .poll true .accepted, .poll true .accepted, .scan .begin, .scan (.offer 7 0),
    .scan (.advance false), .scan (.advance false), .scan (.advance false), .scan (.advance false),
    .scan (.advance false), .scan (.offer 8 1), .close .cancelled]

def stillOffered : List (Move Nat) :=
  [.scan (.advance false), .scan (.advance false), .scan (.advance false), .scan (.offer 9 2)]

theorem bounded_work_of_deaf_source :
    ∃ v w : Invocation Nat Nat,
      play? step? (start (.fresh doubling (.fresh 1))) closedInHand = some v ∧
      play? step? v stillOffered = some w ∧
      v.stream.scan.mapped = 1 ∧ w.stream.scan.mapped = 2 ∧
      w.stream.scan.mapped ≤ v.stream.scan.mapped + 1 ∧
      w.ledger.enqueued = v.ledger.enqueued := by
  obtain ⟨v, w, hplay, hlater, hc, hone, htwo⟩ :
      ∃ v w : Invocation Nat Nat,
        play? step? (start (.fresh doubling (.fresh 1))) closedInHand = some v ∧
        play? step? v stillOffered = some w ∧ v.session.isClosed = true ∧
        v.stream.scan.mapped = 1 ∧ w.stream.scan.mapped = 2 :=
    ⟨_, _, rfl, rfl, rfl, rfl, rfl⟩
  have hbounded := (@bounded_work _ _ doubling 1 _ v closedInHand rfl hplay).2 hc _ w hlater
  have hne : w.stream.scan.mapped ≠ v.stream.scan.mapped := by
    rw [hone, htwo]
    decide
  exact ⟨v, w, hplay, hlater, hone, htwo, hbounded.1.1, (hbounded.1.2 hne).2⟩

end Invocation
end RowBridge
