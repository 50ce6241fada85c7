/-
# `RowBridge.Proofs.Stream.Fitting` — results that fit the queue

The end marker is an item of its own and waits for room as long as a row does.
A result of `n` rows therefore needs room for `n + 1` items:

    n < capacity    delivered, whatever the pace of the consumer
    n = capacity    delivered if a row has been taken when the deadline of the end marker passes;
                    otherwise the stream is closed and the rows are lost (`fitting_result_lost`)

**Proved here** (`fitting_result_delivered`): in both cases in which it is
delivered, the polls give the mapped rows in order and then the end, and nothing
else at any time.
-/
import RowBridge.Proofs.Stream.Courses
import RowBridge.Template

namespace RowBridge

variable {Row R : Type}

/-- The end marker is looking for room. -/
def ScanPhase.awaitsEnd : ScanPhase Row R → Bool
  | ending stage => stage.looksForRoom
  | _ => false

namespace Invocation

/-- When the deadline of the end marker passes, the consumer has been given a
row. -/
def MarkerInTime (v : Invocation Row R) : Move Row → Prop
  | .scan (.advance expired) => v.phase.awaitsEnd = true → expired = true → v.rows ≠ []
  | _ => True

instance [DecidableEq R] (v : Invocation Row R) (move : Move Row) :
    Decidable (MarkerInTime v move) :=
  match move with
  | .scan (.advance expired) =>
      inferInstanceAs (Decidable (v.phase.awaitsEnd = true → expired = true → v.rows ≠ []))
  | .poll _ _ | .close _ | .cancel | .drop | .beginPoll | .pass | .scan .begin | .scan .lose
  | .scan (.offer _ _) | .scan (.conclude _) | .scan .recheck => inferInstanceAs (Decidable True)

theorem pollOn_markerInTime (v : Invocation Row R) : MarkerInTime v v.pollOn := by
  rcases pollOn_eq v with hmove | hmove <;> rw [hmove] <;> trivial

/-! ## Room for every item -/

section
variable {plan : ScanPlan Row R} {script : Script Row} {v : Invocation Row R}

/-- What is queued was enqueued and has not been read. -/
theorem Quiet.queue_length (h : Quiet plan script v) {read : List (Item R)}
    (hread : Delivers read v) :
    read.length + v.session.queue.length = v.ledger.enqueued.length := by
  rw [← hread.flow h.present, List.length_append]

/-- Who was given a row has read an item. -/
theorem Delivers.read_pos {read : List (Item R)} (h : Delivers read v) (hrows : v.rows ≠ []) :
    0 < read.length := by
  refine List.length_pos_iff.mpr fun hnil => hrows ?_
  rw [h.rows_read, hnil]
  rfl

theorem landed_of_looksForRoom {item : Item R} {stage : SendStage}
    (h : stage.looksForRoom = true) : stage.landed item = [] := by
  cases stage with
  | reserving => rfl
  | waiting => rfl
  | _ => cases h

/-- If the rows leave room for the end marker, or a row has been taken when its
deadline passes, then no deadline passes while the queue is full. -/
theorem Quiet.timely_of_fits (h : Quiet plan script v) {move : Move Row}
    (hfits : script.rows.length ≤ v.session.capacity)
    (hmarker : script.rows.length = v.session.capacity → MarkerInTime v move) :
    Timely v move := by
  obtain ⟨read, hread⟩ := h.delivers
  have hqueue := h.queue_length hread
  have hhanded := h.handed.length_le
  have hst := h.coherent.kept.accounts.stands
  cases move with
  | scan move =>
      cases move with
      | advance expired =>
          intro hlooks hexpired
          refine decide_eq_true ?_
          show v.session.queue.length < v.session.capacity
          cases hp : v.stream.scan.phase with
          | sending item stage =>
              rw [phase, hp] at hlooks
              rw [hp] at hst
              obtain ⟨-, early, row, index, value, body, hrows, -, -, hcar, henq⟩ := hst
              rw [landed_of_looksForRoom hlooks, List.append_nil] at henq
              have hbody : v.ledger.enqueued.length = early.length := henq ▸ hcar.length_eq
              rw [hrows, List.length_append, List.length_singleton] at hhanded
              omega
          | ending stage =>
              have hawaits : v.phase.awaitsEnd = true := by
                rw [phase, hp] at hlooks ⊢
                exact hlooks
              rw [phase, hp] at hlooks
              rw [hp] at hst
              obtain ⟨-, body, hcar, henq⟩ := hst
              rw [landed_of_looksForRoom hlooks, List.append_nil] at henq
              have hbody : v.ledger.enqueued.length = v.ledger.handed.length :=
                henq ▸ hcar.length_eq
              rcases Nat.lt_or_eq_of_le hfits with hlt | heq
              · omega
              · have hpos := hread.read_pos (hmarker heq hawaits hexpired)
                omega
          | _ => rw [phase, hp] at hlooks; cases hlooks
      | _ => trivial
  | _ => trivial

end

/-! ## Delivery -/

section
variable {t : StreamTemplate} {query : StreamTemplate.Query Row R} {stream : RowStream Row R}
  {rows : List (Row × Nat)} {values : List R} {c : History Row R}

/-- A mapper that has a value for every row. -/
theorem suits_of_values {plan : ScanPlan Row R} {ending : Ending} (hruntime : plan.runtime = true)
    (hvalues : rows.map plan.result = values.map .ok) (hending : ∀ text, ending ≠ .raised text) :
    Script.Suits ⟨rows, ending⟩ plan where
  runtime := hruntime
  mapped handed hmem := by
    have hresult : plan.result handed ∈ values.map .ok :=
      hvalues ▸ List.mem_map_of_mem hmem
    obtain ⟨value, -, heq⟩ := List.mem_map.mp hresult
    exact ⟨value, heq.symm⟩
  returns := hending

/-- What polls of a quiet invocation with a good ending give, at any time. -/
theorem Quiet.answers_isPrefix {plan : ScanPlan Row R} {v : Invocation Row R}
    (h : Quiet plan ⟨rows, .ok⟩ v) (hvalues : rows.map plan.result = values.map .ok) :
    (v.stream.done = false ∧ v.answers <+: values.map .row) ∨
      ∃ k, v.answers = values.map .row ++ .finished :: List.replicate k .finished := by
  cases hd : v.stream.done with
  | false =>
      refine Or.inl ⟨rfl, ?_⟩
      have hrows := h.rows_isPrefix_script
      rw [hvalues, List.prefix_map_iff_of_injective fun _ _ => Except.ok.inj] at hrows
      rw [h.answers_of_open hd]
      exact hrows.map _
  | true =>
      obtain ⟨signal, k, hanswers, hcause⟩ := h.answers_of_done hd
      obtain ⟨rfl, hret, hrows⟩ | ⟨failure, hending, -⟩ := hcause
      · refine Or.inr ⟨k, ?_⟩
        rw [(h.returned _ hret).2, hvalues] at hrows
        rw [hanswers, List.map_inj_right (fun _ _ => Except.ok.inj) |>.mp hrows]
      · cases hending

/-- A result that leaves room for the end marker, or of which a row has been
taken when the deadline of the end marker passes, is delivered: the polls give
nothing but its rows in order and then the end, and if the scan and the consumer
keep moving, they give all of it. -/
theorem fitting_result_delivered (hopen : t.stream query = .ok stream)
    (hvalues : rows.map (t.plan query).result = values.map .ok) (hstart : c.state 0 = start stream)
    (hpeace : Peaceful ⟨rows, .ok⟩ c) (hfits : rows.length ≤ t.queueSize)
    (hmarker : rows.length = t.queueSize → ∀ n, MarkerInTime (c.state n) (c.move n)) :
    (∀ n, ∃ k, (c.state n).answers <+: values.map .row ++ List.replicate k .finished) ∧
      (Fair c → Course.Eventually
        (fun n => values.map .row ++ [.finished] <+: (c.state n).answers) 0) := by
  have hsuits : Script.Suits ⟨rows, .ok⟩ (t.plan query) := suits_of_values rfl hvalues nofun
  have hquiet₀ : Quiet (t.plan query) ⟨rows, .ok⟩ (c.state 0) := by
    rw [hstart]
    exact quiet_start hopen _
  have hcapacity : ∀ n, (c.state n).session.capacity = t.queueSize := by
    intro n
    rw [capacity_eq_of_course c hquiet₀.coherent n, hstart, RowStream.eq_fresh_of_open? hopen]
    rfl
  have htimely : ∀ n, Quiet (t.plan query) ⟨rows, .ok⟩ (c.state n) →
      Timely (c.state n) (c.move n) := by
    intro n hn
    exact hn.timely_of_fits (hcapacity n ▸ hfits) fun heq => hmarker (heq.trans (hcapacity n)) n
  have hquiet := quiet_of_peaceful hsuits hpeace hquiet₀ htimely
  refine ⟨?_, ?_⟩
  · intro n
    rcases (hquiet n).answers_isPrefix hvalues with ⟨-, hpart⟩ | ⟨k, hall⟩
    · exact ⟨0, by rw [List.replicate_zero, List.append_nil]; exact hpart⟩
    · exact ⟨k + 1, hall ▸ List.prefix_refl _⟩
  · intro hfair
    have hroom : 0 < (c.state 0).session.capacity := by
      rw [hcapacity 0]
      exact RowStream.pos_of_open? hopen
    obtain ⟨n, hn, hdone⟩ :=
      ends hsuits hpeace hquiet (fun n => htimely n (hquiet n)) hroom hfair
    refine ⟨n, hn, ?_⟩
    rcases (hquiet n).answers_isPrefix hvalues with ⟨hopen', -⟩ | ⟨k, hall⟩
    · exact absurd (hopen'.symm.trans hdone) Bool.false_ne_true
    · rw [hall]
      exact (List.prefix_append_right_inj _).mpr ⟨_, rfl⟩

end

/-! ## At the limit -/

/-- Room for one item. -/
def oneSlot : StreamTemplate := ⟨1, .ofMillis 5⟩

/-- Rows are numbers, which the mapper doubles. -/
def doublingQuery : StreamTemplate.Query Nat Nat where
  statement := doubling.statement
  bindings := doubling.bindings
  mapper := doubling.mapper

/-- The first poll starts the scan and finds nothing; then the row 7 is queued. -/
def rowQueued : List (Move Nat) :=
  [.beginPoll, .poll true .accepted, .poll true .accepted, .poll true .accepted,
    .poll true .accepted, .poll true .accepted, .scan .begin, .scan (.offer 7 0),
    .scan (.advance false), .scan (.advance false), .scan (.advance false), .scan (.advance false),
    .scan (.advance false)]

/-- The deadline of the end marker passes just after the consumer has taken the
row. -/
def takenInTime : List (Move Nat) :=
  rowQueued ++ [.scan (.conclude .ok), .scan (.advance false), .scan (.advance false),
    .scan (.advance false), .beginPoll, .poll true .accepted, .poll true .accepted,
    .scan (.advance true), .scan (.advance false), .beginPoll, .poll true .accepted,
    .poll true .accepted]

theorem fitting_result_delivered_in_time :
    ∃ c : History Nat Nat, Peaceful ⟨[(7, 0)], .ok⟩ c ∧
      Course.Eventually (fun n => [.row 14, .finished] <+: (c.state n).answers) 0 := by
  have halong : Along step? (fun v move => Undisturbed v move ∧
      Follows ⟨[(7, 0)], .ok⟩ v move ∧ MarkerInTime v move)
      (start (.fresh (oneSlot.plan doublingQuery) (.fresh 1))) takenInTime := by decide
  obtain ⟨t, hplay, hrests⟩ : ∃ t, play? step?
      (start (.fresh (oneSlot.plan doublingQuery) (.fresh 1))) takenInTime = some t ∧ t.Rests :=
    ⟨_, rfl, rfl, fun hidle => (nomatch hidle.2), rfl, Or.inl rfl⟩
  obtain ⟨c, hstart, hallowed, hfair⟩ := exists_fair hplay halong hrests fun v _ =>
    ⟨v.pollOn_undisturbed, v.pollOn_follows _, v.pollOn_markerInTime⟩
  have hpeace : Peaceful ⟨[(7, 0)], .ok⟩ c :=
    ⟨fun n => (hallowed n).1, fun n => (hallowed n).2.1⟩
  have hdelivered := @fitting_result_delivered Nat Nat oneSlot doublingQuery _ [(7, 0)] [14] c rfl
    rfl hstart hpeace (Nat.le_refl 1) fun _ n => (hallowed n).2.2
  exact ⟨c, hpeace, hdelivered.2 hfair⟩

/-- The consumer looks once and then stalls until the deadline of the end marker
has passed. -/
def stalledAtEnd : List (Move Nat) :=
  rowQueued ++ [.scan (.conclude .ok), .scan (.advance false), .scan (.advance false),
    .scan (.advance true), .scan (.advance false), .scan (.advance false), .beginPoll,
    .poll true .accepted]

/-- One row, room for one item, a source that returns well, and nobody who
cancels or closes; but the row is lost. -/
theorem fitting_result_lost :
    ∃ (stream : RowStream Nat Nat) (v : Invocation Nat Nat),
      oneSlot.stream doublingQuery = .ok stream ∧
      play? step? (start stream) stalledAtEnd = some v ∧
      Along step? (fun u move => Undisturbed u move ∧ Follows ⟨[(7, 0)], .ok⟩ u move)
        (start stream) stalledAtEnd ∧
      v.ledger.handed = [(7, 0)] ∧ v.ledger.returned = some .ok ∧
      v.answers = [.failed (.closed .consumerTimeout)] :=
  ⟨_, _, rfl, rfl, by decide, rfl, rfl, rfl⟩

end Invocation
end RowBridge
