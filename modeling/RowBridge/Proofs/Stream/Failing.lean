/-
# `RowBridge.Proofs.Stream.Failing` — results that end in a failure

A failure of the source closes the session, and a poll looks for a closing
before it looks at the queue.  Rows that are queued when the session is closed
are therefore lost, all but one at most: a poll that has already found the
session open, and stands before the queue, still takes the row in front of it
(`lateRows`).

**Proved here** (`failing_result_delivered`), when every row finds room: the
polls give the rows that were given until the session was closed, possibly that
one row more, then the closing with the reason of the failure, and then the end;
and if the queue is empty when the session is closed, these are all the rows.
That rows can be lost is `failing_result_lost`.
-/
import RowBridge.Proofs.Stream.Fitting

namespace RowBridge.Invocation

variable {Row R : Type}

/-- The rows given, and the row that the poll under way may still take from the
queue. -/
def lateRows (v : Invocation Row R) : Nat :=
  match v.poll with
  | some .taking => v.rows.length + 1
  | _ => v.rows.length

theorem rows_le_lateRows (v : Invocation Row R) : v.rows.length ≤ v.lateRows := by
  unfold lateRows
  split
  · exact Nat.le_succ _
  · exact Nat.le_refl _

section
variable {plan : ScanPlan Row R} {script : Script Row} {v v' : Invocation Row R} {move : Move Row}

/-! ## The closing -/

/-- A moment of an undisturbed poll does not close the session. -/
theorem isClosed_of_gives {runtime : Bool} {reception : Reception} {stage stage' : PollStage R}
    {stream : RowStream Row R} (hp : v.poll = some stage)
    (hu : Undisturbed v (.poll runtime reception))
    (hg : stage.Gives runtime reception v.stream stream stage')
    (hc : stream.session.isClosed = true) : v.session.isClosed = true := by
  cases hg with
  | turnsBack _ hr => exact Session.isClosed_of_reason hr
  | strands hf => exact absurd (hf.symm.trans (hu hp).1) Bool.false_ne_true
  | handsOver =>
      rw [(hu hp).2] at hc
      exact hc
  | _ => exact hc

/-- The session is closed by the scan, while the consumer stands where it stood. -/
theorem Quiet.closing (h : Quiet plan script v) (hu : Undisturbed v move)
    (hstep : v.step? move = some v') (ho : v.session.isClosed = false)
    (hc : v'.session.isClosed = true) : v'.rows = v.rows ∧ v'.poll = v.poll := by
  have hnot : v.session.isClosed = true → v'.rows = v.rows ∧ v'.poll = v.poll := by
    intro hc'
    exact absurd (ho.symm.trans hc') Bool.false_ne_true
  cases move with
  | pass => cases hstep; exact ⟨rfl, rfl⟩
  | beginPoll =>
      obtain ⟨-, ⟨⟩⟩ := Option.ite_none_right_eq_some.mp hstep
      exact hnot hc
  | poll runtime reception =>
      obtain ⟨stage, hp, rfl⟩ := Option.map_eq_some_iff.mp hstep
      obtain ⟨stream, stage', hg, heq⟩ := advance_eq h.coherent hp runtime reception
      rw [heq, session, goOn_stream] at hc
      exact hnot (isClosed_of_gives hp hu hg hc)
  | scan move =>
      obtain ⟨scan, -, rfl⟩ := Option.map_eq_some_iff.mp hstep
      exact ⟨rfl, rfl⟩
  | _ => exact hu.elim

/-! ## After the closing -/

/-- Once the session is closed, no row is given but the one a poll stands before. -/
theorem Quiet.lateRows_le (h : Quiet plan script v) (hu : Undisturbed v move)
    (hstep : v.step? move = some v') (hc : v.session.isClosed = true) :
    v'.session.isClosed = true ∧ v.rows.length ≤ v'.rows.length ∧ v'.lateRows ≤ v.lateRows := by
  have hnone : v.stream.reason = none → False := by
    intro hr
    exact absurd (hc.symm.trans (isClosed_of_reason_none hr)) (Ne.symm Bool.false_ne_true)
  cases move with
  | pass => cases hstep; exact ⟨hc, Nat.le_refl _, Nat.le_refl _⟩
  | beginPoll =>
      obtain ⟨hf, ⟨⟩⟩ := Option.ite_none_right_eq_some.mp hstep
      exact ⟨hc, Nat.le_refl _, rows_le_lateRows v⟩
  | poll runtime reception =>
      obtain ⟨stage, hp, rfl⟩ := Option.map_eq_some_iff.mp hstep
      obtain ⟨stream, stage', hg, heq⟩ := advance_eq h.coherent hp runtime reception
      have ht := hg.tells (h.coherent.midway stage hp)
      rw [heq]
      have hsilent : ∀ {next : Next R}, Note.row? (.told next) = none →
          v.rows.length ≤ ({ v with stream := stream }.goOn (.done next)).rows.length ∧
            ({ v with stream := stream }.goOn (.done next)).lateRows ≤ v.lateRows := by
        intro next hn
        have hrows : ({ v with stream := stream }.goOn (.done next)).rows = v.rows := by
          rw [rows_goOn_done, hn]
          exact List.append_nil _
        refine ⟨Nat.le_of_eq (congrArg List.length hrows.symm), ?_⟩
        exact Nat.le_trans (Nat.le_of_eq (congrArg List.length hrows)) (rows_le_lateRows v)
      refine ⟨?_, ?_⟩
      · rw [session, goOn_stream]
        exact ht.isClosed hc
      · cases hg with
        | overAgain => exact hsilent rfl
        | turnsBack => exact hsilent rfl
        | strands => exact hsilent rfl
        | stops => exact hsilent rfl
        | takesFinish => exact hsilent rfl
        | findsNobody => exact hsilent rfl
        | goesToStart _ hr => exact (hnone hr).elim
        | goesToQueue _ hr => exact (hnone hr).elim
        | goesOn hr => exact (hnone hr).elim
        | leavesBell hr => exact (hnone hr).elim
        | handsOver => exact ⟨Nat.le_refl _, rows_le_lateRows v⟩
        | findsNothing => exact ⟨Nat.le_refl _, rows_le_lateRows v⟩
        | @takesRow row rest =>
            have hlate : v.lateRows = v.rows.length + 1 := by rw [lateRows, hp]
            have hrows : ∀ stream : RowStream Row R,
                ({ v with stream := stream }.goOn (.done (.row row))).rows.length =
                  v.rows.length + 1 := by
              intro stream
              rw [rows_goOn_done]
              exact List.length_append
            exact ⟨Nat.le_trans (Nat.le_succ _) (Nat.le_of_eq (hrows _).symm),
              Nat.le_of_eq ((hrows _).trans hlate.symm)⟩
  | scan move =>
      obtain ⟨scan, hs, rfl⟩ := Option.map_eq_some_iff.mp hstep
      have hd := Scan.does_of_step? h.coherent.kept.accounts.sound hs
      exact ⟨hd.touches.isClosed hc, Nat.le_refl _, Nat.le_refl _⟩
  | _ => exact hu.elim

end

/-! ## Delivery -/

section
variable {t : StreamTemplate} {query : StreamTemplate.Query Row R} {stream : RowStream Row R}
  {failure : ScanError} {rows : List (Row × Nat)} {values : List R}
  {c : History Row R}

/-- The rows given so far are the first of the mapped rows. -/
theorem Quiet.rows_eq_take {plan : ScanPlan Row R} {ending : Ending} {v : Invocation Row R}
    (h : Quiet plan ⟨rows, ending⟩ v) (hvalues : rows.map plan.result = values.map .ok) :
    v.rows = values.take v.rows.length := by
  have hrows := h.rows_isPrefix_script
  rw [hvalues, List.prefix_map_iff_of_injective fun _ _ => Except.ok.inj] at hrows
  exact List.prefix_iff_eq_take.mp hrows

/-- A session closed for a failure with an empty queue: every row has been given. -/
theorem Quiet.rows_eq_of_closed {plan : ScanPlan Row R} {v : Invocation Row R}
    (h : Quiet plan ⟨rows, .failed failure⟩ v) (hvalues : rows.map plan.result = values.map .ok)
    (hc : v.session.isClosed = true) (hq : v.session.queue = []) : v.rows = values := by
  have hcalm := h.calm
  cases hp : v.phase with
  | ended ending =>
      rw [hp] at hcalm
      obtain ⟨hr, -⟩ | ⟨-, -, -, hret, hcar⟩ := hcalm
      · exact absurd ((isClosed_of_reason_none hr).symm.trans hc) Bool.false_ne_true
      · obtain ⟨read, hread⟩ := h.delivers
        have hall : read = v.ledger.enqueued := by
          rw [← hread.flow h.present, hq, List.append_nil]
        have hrows := hcar.values
        rw [← hall, ← hread.rows_read, (h.returned _ hret).2, hvalues] at hrows
        exact List.map_inj_right (fun _ _ => Except.ok.inj) |>.mp hrows
  | discarded => rw [hp] at hcalm; exact hcalm.elim
  | _ =>
      rw [hp] at hcalm
      have hr : v.session.reason = none := hcalm.open rfl
      exact absurd ((isClosed_of_reason_none hr).symm.trans hc) Bool.false_ne_true

/-- What a session that has been closed leaves to the consumer, from then on. -/
theorem closed_later {plan : ScanPlan Row R} {script : Script Row} (hpeace : Peaceful script c)
    (hquiet : ∀ n, Quiet plan script (c.state n)) {m : Nat}
    (hc : (c.state m).session.isClosed = true) {n : Nat} (hmn : m ≤ n) :
    (c.state n).session.isClosed = true ∧ (c.state m).rows.length ≤ (c.state n).rows.length ∧
      (c.state n).lateRows ≤ (c.state m).lateRows := by
  refine c.relates (Q := fun v v' => v.session.isClosed = true → v'.session.isClosed = true ∧
    v.rows.length ≤ v'.rows.length ∧ v'.lateRows ≤ v.lateRows) ?_ ?_ ?_ hmn hc
  · exact fun v hc => ⟨hc, Nat.le_refl _, Nat.le_refl _⟩
  · intro v v' v'' h h' hc
    obtain ⟨hc', hrows, hlate⟩ := h hc
    obtain ⟨hc'', hrows', hlate'⟩ := h' hc'
    exact ⟨hc'', Nat.le_trans hrows hrows', Nat.le_trans hlate' hlate⟩
  · intro n hc
    exact (hquiet n).lateRows_le (hpeace.undisturbed n) (c.next n) hc

/-- A session that is closed some time is closed by one of the moves before. -/
theorem exists_closing (hopen : (c.state 0).session.isClosed = false) {m : Nat}
    (hclosed : (c.state m).session.isClosed = true) :
    ∃ n, n + 1 ≤ m ∧ (c.state n).session.isClosed = false ∧
      (c.state (n + 1)).session.isClosed = true := by
  induction m with
  | zero => exact absurd (hopen.symm.trans hclosed) Bool.false_ne_true
  | succ m ih =>
      cases hm : (c.state m).session.isClosed with
      | true =>
          obtain ⟨n, hn, hbefore, hafter⟩ := ih hm
          exact ⟨n, Nat.le_succ_of_le hn, hbefore, hafter⟩
      | false => exact ⟨m, Nat.le_refl _, hm, hclosed⟩

/-- The move that closes the session decides, but for one row, how many rows are
given. -/
theorem rows_bounds {plan : ScanPlan Row R} {script : Script Row} (hpeace : Peaceful script c)
    (hquiet : ∀ n, Quiet plan script (c.state n)) {n m : Nat}
    (hbefore : (c.state n).session.isClosed = false)
    (hafter : (c.state (n + 1)).session.isClosed = true) (hnm : n + 1 ≤ m) :
    (c.state n).rows.length ≤ (c.state m).rows.length ∧
      (c.state m).rows.length ≤ (c.state n).lateRows ∧
      (c.state (n + 1)).rows.length ≤ (c.state m).rows.length := by
  obtain ⟨hrows, hpoll⟩ :=
    (hquiet n).closing (hpeace.undisturbed n) (c.next n) hbefore hafter
  obtain ⟨-, hleast, hmost⟩ := closed_later hpeace hquiet hafter hnm
  have hlate : (c.state (n + 1)).lateRows = (c.state n).lateRows := by
    simp only [lateRows, hrows, hpoll]
  exact ⟨hrows ▸ hleast, Nat.le_trans (rows_le_lateRows _) (hlate ▸ hmost), hleast⟩

/-- A stream that has ended gives no more rows, from then on. -/
theorem done_later (hcoherent : ∀ n, (c.state n).Coherent) {m : Nat}
    (hd : (c.state m).stream.done = true) {n : Nat} (hmn : m ≤ n) :
    (c.state n).stream.done = true ∧ (c.state n).rows = (c.state m).rows := by
  refine c.relates (Q := fun v v' => v.stream.done = true → v'.stream.done = true ∧
    v'.rows = v.rows) ?_ ?_ ?_ hmn hd
  · exact fun v hd => ⟨hd, rfl⟩
  · intro v v' v'' h h' hd
    obtain ⟨hd', hrows⟩ := h hd
    obtain ⟨hd'', hrows'⟩ := h' hd'
    exact ⟨hd'', hrows'.trans hrows⟩
  · intro n hd
    exact rows_eq_of_done (hcoherent n) hd (c.next n)

/-- What the polls of a stream give whose source fails. -/
theorem Quiet.answers_failing {plan : ScanPlan Row R} {v : Invocation Row R}
    (h : Quiet plan ⟨rows, .failed failure⟩ v) (hvalues : rows.map plan.result = values.map .ok)
    (hd : v.stream.done = true) :
    v.session.isClosed = true ∧ ∃ k, v.answers = (values.take v.rows.length).map .row ++
      .failed (.closed (Scan.closureOf failure)) :: List.replicate k .finished := by
  obtain ⟨signal, k, hanswers, ⟨-, hret, -⟩ | ⟨failure', hending, rfl⟩⟩ := h.answers_of_done hd
  · exact nomatch (h.returned _ hret).1
  · cases hending
    refine ⟨?_, k, by rw [hanswers, ← h.rows_eq_take hvalues]⟩
    refine (h.failures (.closed (Scan.closureOf failure)) (mem_diary_of_mem_answers ?_)).1
    rw [hanswers]
    exact List.mem_append_right _ List.mem_cons_self

/-- A source that fails after its rows, each of which finds room: the polls give
the first of its rows, then the closing for the failure, and then the end.  The
rows are those given until the session was closed, and at most the one that a
poll already stood before; with an empty queue at that time they are all the
rows. -/
theorem failing_result_delivered (hopen : t.stream query = .ok stream)
    (hvalues : rows.map (t.plan query).result = values.map .ok) (hstart : c.state 0 = start stream)
    (hpeace : Peaceful ⟨rows, .failed failure⟩ c)
    (htimely : ∀ n, Timely (c.state n) (c.move n)) :
    (∀ n, ∃ j k, (c.state n).answers <+: (values.take j).map .row ++
        .failed (.closed (Scan.closureOf failure)) :: List.replicate k .finished) ∧
      (Fair c → ∃ n j, (c.state n).session.isClosed = false ∧
        (c.state (n + 1)).session.isClosed = true ∧
        (c.state n).rows.length ≤ j ∧ j ≤ (c.state n).lateRows ∧ j ≤ values.length ∧
        ((c.state (n + 1)).session.queue = [] → j = values.length) ∧
        ∃ m, ∀ i, m ≤ i → ∃ k, (c.state i).answers = (values.take j).map .row ++
          .failed (.closed (Scan.closureOf failure)) :: List.replicate k .finished) := by
  have hsuits : Script.Suits ⟨rows, .failed failure⟩ (t.plan query) :=
    suits_of_values rfl hvalues nofun
  have hquiet₀ : Quiet (t.plan query) ⟨rows, .failed failure⟩ (c.state 0) := by
    rw [hstart]
    exact quiet_start hopen _
  have hquiet := quiet_of_peaceful hsuits hpeace hquiet₀ fun n _ => htimely n
  refine ⟨?_, ?_⟩
  · intro n
    cases hd : (c.state n).stream.done with
    | false =>
        refine ⟨(c.state n).rows.length, 0, ?_⟩
        rw [(hquiet n).answers_of_open hd, ← (hquiet n).rows_eq_take hvalues]
        exact List.prefix_append _ _
    | true =>
        obtain ⟨-, k, hanswers⟩ := (hquiet n).answers_failing hvalues hd
        exact ⟨(c.state n).rows.length, k, hanswers ▸ List.prefix_refl _⟩
  · intro hfair
    have hroom : 0 < (c.state 0).session.capacity := by
      rw [hstart, RowStream.eq_fresh_of_open? hopen]
      exact RowStream.pos_of_open? hopen
    obtain ⟨m, -, hdone⟩ := ends hsuits hpeace hquiet htimely hroom hfair
    have hclosed := ((hquiet m).answers_failing hvalues hdone).1
    have hopen₀ : (c.state 0).session.isClosed = false := by
      rw [hstart, RowStream.eq_fresh_of_open? hopen]
      rfl
    -- the closing is before the end, and no row but one is given in between
    obtain ⟨n, hnm, hbefore, hafter⟩ := exists_closing hopen₀ hclosed
    obtain ⟨hleast, hmost, hkept⟩ := rows_bounds hpeace hquiet hbefore hafter hnm
    have hall : (c.state m).rows.length ≤ values.length := by
      rw [(hquiet m).rows_eq_take hvalues, List.length_take]
      exact Nat.min_le_right _ _
    refine ⟨n, (c.state m).rows.length, hbefore, hafter, hleast, hmost, hall, ?_, m, ?_⟩
    · intro hq
      have hdrained := (hquiet (n + 1)).rows_eq_of_closed hvalues hafter hq
      exact Nat.le_antisymm hall (hdrained ▸ hkept)
    · intro i hi
      obtain ⟨hd, hsame⟩ := done_later (fun n => (hquiet n).coherent) hdone hi
      rw [← hsame]
      exact ((hquiet i).answers_failing hvalues hd).2

end

/-! ## In time, and too late -/

/-- The connection goes away after the row. -/
def connectionReset : ScanError := .plain .connectionClosed "connection reset"

/-- The consumer takes the row before the source fails. -/
def takenBeforeFailure : List (Move Nat) :=
  rowQueued ++ [.beginPoll, .poll true .accepted, .poll true .accepted,
    .scan (.conclude (.failed connectionReset)), .scan (.advance false), .beginPoll,
    .poll true .accepted]

theorem failing_result_delivered_in_time :
    ∃ c : History Nat Nat, Peaceful ⟨[(7, 0)], .failed connectionReset⟩ c ∧
      (∀ n, Timely (c.state n) (c.move n)) ∧ ∃ n j, (c.state n).rows.length ≤ j ∧
        (c.state n).session.isClosed = false ∧ (c.state (n + 1)).session.isClosed = true ∧
        ((c.state (n + 1)).session.queue = [] → j = 1) ∧
        ∃ m, ∀ i, m ≤ i → ∃ k, (c.state i).answers = ([14].take j).map .row ++
          .failed (.closed .transientSourceFailure) :: List.replicate k .finished := by
  have halong : Along step? (fun v move => Undisturbed v move ∧
      Follows ⟨[(7, 0)], .failed connectionReset⟩ v move ∧ Timely v move)
      (start (.fresh (oneSlot.plan doublingQuery) (.fresh 1))) takenBeforeFailure := by decide
  obtain ⟨t, hplay, hrests⟩ : ∃ t, play? step?
      (start (.fresh (oneSlot.plan doublingQuery) (.fresh 1))) takenBeforeFailure = some t ∧
      t.Rests :=
    ⟨_, rfl, rfl, fun hidle => (nomatch hidle.2), rfl, Or.inl rfl⟩
  obtain ⟨c, hstart, hallowed, hfair⟩ := exists_fair hplay halong hrests fun v _ =>
    ⟨v.pollOn_undisturbed, v.pollOn_follows _, v.pollOn_timely⟩
  have hpeace : Peaceful ⟨[(7, 0)], .failed connectionReset⟩ c :=
    ⟨fun n => (hallowed n).1, fun n => (hallowed n).2.1⟩
  have htimely : ∀ n, Timely (c.state n) (c.move n) := fun n => (hallowed n).2.2
  have hdelivered := @failing_result_delivered Nat Nat oneSlot doublingQuery _ connectionReset
    [(7, 0)] [14] c rfl rfl hstart hpeace htimely
  obtain ⟨n, j, hbefore, hafter, hleast, -, -, hall, hanswers⟩ := hdelivered.2 hfair
  exact ⟨c, hpeace, htimely, n, j, hleast, hbefore, hafter, hall, hanswers⟩

/-- The source fails while the row is queued. -/
def queuedAtFailure : List (Move Nat) :=
  rowQueued ++ [.scan (.conclude (.failed connectionReset)), .scan (.advance false),
    .beginPoll, .poll true .accepted]

/-- One row, which is enqueued before the source fails, and nobody who cancels
or closes; but the next poll gives the closing, and the row is lost. -/
theorem failing_result_lost :
    ∃ (stream : RowStream Nat Nat) (v : Invocation Nat Nat),
      oneSlot.stream doublingQuery = .ok stream ∧
      play? step? (start stream) queuedAtFailure = some v ∧
      Along step? (fun u move => Undisturbed u move ∧
          Follows ⟨[(7, 0)], .failed connectionReset⟩ u move ∧ Timely u move)
        (start stream) queuedAtFailure ∧
      v.ledger.handed = [(7, 0)] ∧ v.ledger.enqueued = [.value 14] ∧
      v.answers = [.failed (.closed .transientSourceFailure)] :=
  ⟨_, _, rfl, rfl, by decide, rfl, rfl, rfl⟩

end RowBridge.Invocation
