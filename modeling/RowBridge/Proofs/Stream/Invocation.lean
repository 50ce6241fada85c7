/-
# `RowBridge.Proofs.Stream.Invocation` — one streaming invocation, whoever acts next

An `Invocation` is a stream in use: the poll under way, if there is one, the
ledger of its scan, and a diary of what the consumer was told and did.  The
scan, the consumer and anybody who holds a handle or a closer move
independently; a poll and an enqueue take several moves each, and every other
party may move in between.  `Invocation.step?` is one move, so "every
interleaving" is "every schedule of moves".

    move       party        what it is
    beginPoll  consumer     a poll begins
    poll       consumer     the poll under way goes one moment further
    cancel     consumer     the stream is cancelled by its owner
    drop       consumer     the stream is dropped
    scan       scan         one move of the scan, its source, its clock or its scheduler
    close      anybody      a handle, a worker or a scheduler closes the session
    pass       nobody

The consumer polls, cancels and drops through one exclusive reference: it does
none of these while a poll is under way, and nothing after the drop.  Ledger and
diary are only written, never read.
-/
import RowBridge.Proofs.Run
import RowBridge.Proofs.Scan.Ledger
import RowBridge.Proofs.Stream.Polling

namespace RowBridge

variable {Row R : Type}

/-- An entry in the diary of a consumer. -/
inductive Note (R : Type)
  /-- A poll gave this. -/
  | told (next : Next R)
  /-- The consumer cancelled. -/
  | cancelled

/-- What a poll gave unless it gave nothing yet. -/
def Note.answer? : Note R → Option (Next R)
  | .told .pending => none
  | .told next => some next
  | .cancelled => none

/-- The row a poll gave. -/
def Note.row? : Note R → Option R
  | .told (.row row) => some row
  | _ => none

/-- A stream in use, and what has happened to it. -/
structure Invocation (Row R : Type) where
  stream : RowStream Row R
  /-- The poll under way. -/
  poll : Option (PollStage R)
  ledger : Ledger Row R
  diary : List (Note R)

/-- A move of one of the parties to an invocation. -/
inductive Move (Row : Type)
  | beginPoll
  /-- The poll under way goes on, called from inside or outside a runtime; the
  scheduler would receive the scan as said. -/
  | poll (runtime : Bool) (reception : Reception)
  | scan (move : ScanMove Row)
  | close (reason : ClosureReason)
  | cancel
  | drop
  | pass

namespace Invocation

/-- A stream that nobody has used. -/
def start (stream : RowStream Row R) : Invocation Row R := ⟨stream, none, .empty, []⟩

def session (v : Invocation Row R) : Session R := v.stream.session

def phase (v : Invocation Row R) : ScanPhase Row R := v.stream.scan.phase

/-- The rows the consumer was given, in order. -/
def rows (v : Invocation Row R) : List R := v.diary.filterMap Note.row?

/-- What the polls that were ready gave, in order. -/
def answers (v : Invocation Row R) : List (Next R) := v.diary.filterMap Note.answer?

/-- The poll goes on, and is in the diary once it is over. -/
def goOn (v : Invocation Row R) : PollStage R → Invocation Row R
  | .done next => { v with poll := none, diary := v.diary ++ [.told next] }
  | stage => { v with poll := some stage }

/-- One moment of the poll under way. -/
def advance (runtime : Bool) (reception : Reception) (v : Invocation Row R) (stage : PollStage R) :
    Invocation Row R :=
  let moved := stage.advance runtime reception v.stream
  { v with stream := moved.1 }.goOn moved.2

/-- The scan has made a move. -/
def onScan (v : Invocation Row R) (move : ScanMove Row) (scan : Scan Row R) : Invocation Row R :=
  { v with
    stream := { v.stream with scan := scan }
    ledger := v.ledger.enter v.session scan.session move }

/-- Whether the consumer is there and has no poll under way. -/
def isFree (v : Invocation Row R) : Bool := v.poll.isNone && !v.session.consumerGone

/-- One move; a party that is gone, busy or not at that point makes none. -/
def step? (v : Invocation Row R) : Move Row → Option (Invocation Row R)
  | .beginPoll => if v.isFree then some { v with poll := some .entering } else none
  | .poll runtime reception => v.poll.map (v.advance runtime reception)
  | .scan move => (v.stream.scan.step? move).map (v.onScan move)
  | .close reason => some { v with stream := v.stream.close reason }
  | .cancel =>
      if v.isFree then some { v with stream := v.stream.cancel, diary := v.diary ++ [.cancelled] }
      else none
  | .drop => if v.isFree then some { v with stream := v.stream.drop } else none
  | .pass => some v

/-- A schedule of an invocation that never ends, with its states. -/
abbrev History (Row R : Type) : Type := Course (@step? Row R)

/-! ## The diary -/

section
variable (v : Invocation Row R)

theorem rows_goOn_done (next : Next R) :
    (v.goOn (.done next)).rows = v.rows ++ (Note.row? (.told next)).toList := by
  simp only [rows, goOn, List.filterMap_append]
  cases next <;> rfl

theorem answers_goOn_done (next : Next R) :
    (v.goOn (.done next)).answers = v.answers ++ (Note.answer? (.told next)).toList := by
  simp only [answers, goOn, List.filterMap_append]
  cases next <;> rfl

/-- While the poll goes on, the diary stays as it is. -/
theorem goOn_of_ne {stage : PollStage R} (h : ∀ next, stage ≠ .done next) :
    v.goOn stage = { v with poll := some stage } := by
  cases stage with
  | done next => exact absurd rfl (h next)
  | _ => rfl

@[simp] theorem goOn_stream (stage : PollStage R) : (v.goOn stage).stream = v.stream := by
  cases stage <;> rfl

end

/-! ## Coherence -/

/-- The stream, its scan and the poll under way are where they believe each
other to be. -/
structure Coherent (v : Invocation Row R) : Prop where
  kept : v.stream.Kept v.ledger
  midway : ∀ stage, v.poll = some stage → v.stream.Midway stage

/-- No scheduler has the scan, or ever had. -/
def Standing (v : Invocation Row R) : Prop := v.phase = .deferred ∨ v.phase = .discarded

/-- Each move of the consumer that needs it free finds no poll under way. -/
theorem isFree_iff {v : Invocation Row R} :
    v.isFree = true ↔ v.poll = none ∧ v.session.consumerGone = false := by
  simp [isFree, Option.isNone_iff_eq_none]

section
variable {v v' : Invocation Row R} {move : Move Row}

theorem coherent_start {plan : ScanPlan Row R} {capacity : Nat} {stream : RowStream Row R}
    (hopen : RowStream.open? plan capacity = .ok stream) : Coherent (start stream) := by
  cases RowStream.eq_fresh_of_open? hopen
  exact ⟨⟨accounts_fresh plan capacity, fun _ => rfl⟩, nofun⟩

theorem standing_start {plan : ScanPlan Row R} {capacity : Nat} {stream : RowStream Row R}
    (hopen : RowStream.open? plan capacity = .ok stream) : Standing (start stream) := by
  cases RowStream.eq_fresh_of_open? hopen
  exact Or.inl rfl

/-- The consumer that polls is there. -/
theorem Coherent.present (h : v.Coherent) {stage : PollStage R} (hp : v.poll = some stage) :
    v.session.consumerGone = false := by
  have hm := h.midway stage hp
  cases stage with
  | entering => exact hm
  | done next => exact hm.elim
  | _ => exact hm.1

/-- The poll under way after one of its moments. -/
theorem advance_eq (h : v.Coherent) {stage : PollStage R} (hp : v.poll = some stage)
    (runtime : Bool) (reception : Reception) :
    ∃ stream stage', stage.Gives runtime reception v.stream stream stage' ∧
      v.advance runtime reception stage = { v with stream := stream }.goOn stage' := by
  refine ⟨_, _, PollStage.gives_advance ?_, rfl⟩
  intro next hd
  subst hd
  exact h.midway _ hp

theorem Coherent.poll (h : v.Coherent) {runtime : Bool} {reception : Reception}
    {stage stage' : PollStage R} {stream : RowStream Row R} (hp : v.poll = some stage)
    (hg : stage.Gives runtime reception v.stream stream stage') :
    ({ v with stream := stream }.goOn stage').Coherent := by
  have hm := h.midway stage hp
  have hkept : stream.Kept v.ledger := h.kept.gives hm hg
  cases stage' with
  | done next => exact ⟨hkept, nofun⟩
  | _ =>
      refine ⟨hkept, ?_⟩
      intro stage hs
      cases hs
      exact hg.midway hm nofun

/-- The stream of a poll under way after a move of another party. -/
theorem Coherent.aside (h : v.Coherent) {stream : RowStream Row R} {ledger : Ledger Row R}
    (hkept : stream.Kept ledger) (hdone : stream.done = v.stream.done)
    (hstarted : stream.started = v.stream.started)
    (hgone : stream.session.consumerGone = v.session.consumerGone) :
    Coherent { v with stream := stream, ledger := ledger } where
  kept := hkept
  midway stage hp := by
    have hm := h.midway stage hp
    have hgone' : stream.isDropped = v.stream.isDropped := hgone
    cases stage with
    | done next => exact hm
    | _ =>
        show stream.Midway _
        simpa only [RowStream.Midway, hgone', hdone, hstarted] using hm

/-- Every move keeps an invocation coherent. -/
theorem Coherent.step (h : v.Coherent) (hstep : v.step? move = some v') : v'.Coherent := by
  cases move with
  | pass => cases hstep; exact h
  | beginPoll =>
      obtain ⟨hf, ⟨⟩⟩ := Option.ite_none_right_eq_some.mp hstep
      refine ⟨h.kept, ?_⟩
      intro stage hs
      cases hs
      exact (isFree_iff.mp hf).2
  | poll runtime reception =>
      obtain ⟨stage, hp, rfl⟩ := Option.map_eq_some_iff.mp hstep
      obtain ⟨stream, stage', hg, heq⟩ := advance_eq h hp runtime reception
      rw [heq]
      exact h.poll hp hg
  | scan move =>
      obtain ⟨scan, hs, rfl⟩ := Option.map_eq_some_iff.mp hstep
      have hd := Scan.does_of_step? h.kept.accounts.sound hs
      refine h.aside ⟨h.kept.accounts.step hs, ?_⟩ rfl rfl hd.touches.frame.2.2
      intro hst
      exact absurd (h.kept.deferred hst) hd.isUnderWay.1
  | close reason =>
      cases hstep
      exact h.aside (h.kept.close reason) rfl rfl (Session.close_consumerGone _ _)
  | cancel =>
      obtain ⟨hf, ⟨⟩⟩ := Option.ite_none_right_eq_some.mp hstep
      exact ⟨h.kept.cancel, fun stage hs => nomatch (isFree_iff.mp hf).1.symm.trans hs⟩
  | drop =>
      obtain ⟨hf, ⟨⟩⟩ := Option.ite_none_right_eq_some.mp hstep
      exact ⟨h.kept.drop, fun stage hs => nomatch (isFree_iff.mp hf).1.symm.trans hs⟩

/-- Whoever is not the scan begins none. -/
theorem phase_of_step (hstep : v.step? move = some v') (haside : ∀ m, move ≠ .scan m) :
    v'.phase = v.phase ∨ v'.phase = .discarded ∨ v'.phase = .queued := by
  cases move with
  | pass => cases hstep; exact Or.inl rfl
  | close => cases hstep; exact Or.inl rfl
  | beginPoll =>
      obtain ⟨-, ⟨⟩⟩ := Option.ite_none_right_eq_some.mp hstep
      exact Or.inl rfl
  | poll runtime reception =>
      obtain ⟨stage, -, rfl⟩ := Option.map_eq_some_iff.mp hstep
      rw [advance, phase, goOn_stream]
      by_cases hdone : ∃ next, stage = .done next
      · obtain ⟨next, rfl⟩ := hdone
        exact Or.inl rfl
      · refine PollStage.Gives.phase (PollStage.gives_advance ?_)
        intro next hnext
        exact hdone ⟨next, hnext⟩
  | cancel =>
      obtain ⟨-, ⟨⟩⟩ := Option.ite_none_right_eq_some.mp hstep
      exact (v.stream.withSession v.session.cancel).abandonStart_phase.imp_right Or.inl
  | drop =>
      obtain ⟨-, ⟨⟩⟩ := Option.ite_none_right_eq_some.mp hstep
      exact (v.stream.withSession v.session.dropConsumer).abandonStart_phase.imp_right Or.inl
  | scan m => exact absurd rfl (haside m)

/-- A scan that no scheduler has makes no move. -/
theorem Standing.step?_scan (h : v.Standing) (hv : v.Coherent) (m : ScanMove Row) :
    v.step? (.scan m) = none := by
  cases hs : v.stream.scan.step? m with
  | none => exact congrArg (Option.map _) hs
  | some scan =>
      obtain ⟨hdeferred, hover⟩ := (Scan.does_of_step? hv.kept.accounts.sound hs).isUnderWay
      rcases h with hp | hp
      · exact absurd hp hdeferred
      · rw [show v.stream.scan.phase = .discarded from hp] at hover
        cases hover

/-- Whatever is done to a stream that stands by, it goes on standing by or has
handed its scan over. -/
theorem Standing.step (h : v.Standing) (hv : v.Coherent) (hstep : v.step? move = some v') :
    v'.Standing ∨ v'.phase = .queued := by
  cases move with
  | scan m => exact nomatch (h.step?_scan hv m).symm.trans hstep
  | _ =>
      rcases phase_of_step hstep nofun with hp | hp | hp
      · exact Or.inl (h.imp hp.trans hp.trans)
      · exact Or.inl (Or.inr hp)
      · exact Or.inr hp

/-- The plan of a scan never changes. -/
theorem plan_eq_of_step (h : v.Coherent) (hstep : v.step? move = some v') :
    v'.stream.scan.plan = v.stream.scan.plan := by
  cases move with
  | pass => cases hstep; rfl
  | beginPoll =>
      obtain ⟨-, ⟨⟩⟩ := Option.ite_none_right_eq_some.mp hstep
      rfl
  | poll runtime reception =>
      obtain ⟨stage, hp, rfl⟩ := Option.map_eq_some_iff.mp hstep
      obtain ⟨stream, stage', hg, heq⟩ := advance_eq h hp runtime reception
      rw [heq, goOn_stream]
      exact hg.plan_eq
  | scan move =>
      obtain ⟨scan, hs, rfl⟩ := Option.map_eq_some_iff.mp hstep
      exact (Scan.does_of_step? h.kept.accounts.sound hs).plan_eq
  | close reason => cases hstep; rfl
  | cancel =>
      obtain ⟨-, ⟨⟩⟩ := Option.ite_none_right_eq_some.mp hstep
      exact (v.stream.withSession v.session.cancel).abandonStart_plan
  | drop =>
      obtain ⟨-, ⟨⟩⟩ := Option.ite_none_right_eq_some.mp hstep
      exact (v.stream.withSession v.session.dropConsumer).abandonStart_plan

/-- No move changes the reason of a closing. -/
theorem reason_of_step (h : v.Coherent) {reason : ClosureReason}
    (hr : v.session.reason = some reason) (hstep : v.step? move = some v') :
    v'.session.reason = some reason := by
  cases move with
  | pass => cases hstep; exact hr
  | beginPoll =>
      obtain ⟨-, ⟨⟩⟩ := Option.ite_none_right_eq_some.mp hstep
      exact hr
  | poll runtime reception =>
      obtain ⟨stage, hp, rfl⟩ := Option.map_eq_some_iff.mp hstep
      obtain ⟨stream, stage', hg, heq⟩ := advance_eq h hp runtime reception
      rw [heq, session, goOn_stream]
      exact (hg.tells (h.midway stage hp)).reason hr
  | scan move =>
      obtain ⟨scan, hs, rfl⟩ := Option.map_eq_some_iff.mp hstep
      exact (Scan.does_of_step? h.kept.accounts.sound hs).touches.reason hr
  | close => cases hstep; exact (v.session.keeps_close _).reason hr
  | cancel =>
      obtain ⟨-, ⟨⟩⟩ := Option.ite_none_right_eq_some.mp hstep
      exact (RowStream.keeps_abandonStart _).reason ((v.session.keeps_close .cancelled).reason hr)
  | drop =>
      obtain ⟨-, ⟨⟩⟩ := Option.ite_none_right_eq_some.mp hstep
      exact (RowStream.keeps_abandonStart _).reason ((v.session.keeps_close .cancelled).reason hr)

/-- What was recorded once is what is recorded. -/
theorem reason_of_play {moves : List (Move Row)} {w : Invocation Row R} {reason : ClosureReason}
    (hv : v.Coherent) (hr : v.session.reason = some reason)
    (hplay : play? step? v moves = some w) : w.session.reason = some reason :=
  (play?_preserves (P := fun u => u.Coherent ∧ u.session.reason = some reason)
    (fun hu hstep => ⟨hu.1.step hstep, reason_of_step hu.1 hu.2 hstep⟩) ⟨hv, hr⟩ hplay).2

/-- The queue keeps the room it was opened with. -/
theorem capacity_eq_of_step (h : v.Coherent) (hstep : v.step? move = some v') :
    v'.session.capacity = v.session.capacity := by
  cases move with
  | pass => cases hstep; rfl
  | beginPoll =>
      obtain ⟨-, ⟨⟩⟩ := Option.ite_none_right_eq_some.mp hstep
      rfl
  | poll runtime reception =>
      obtain ⟨stage, hp, rfl⟩ := Option.map_eq_some_iff.mp hstep
      obtain ⟨stream, stage', hg, heq⟩ := advance_eq h hp runtime reception
      rw [heq, session, goOn_stream]
      exact (hg.tells (h.midway stage hp)).frame.1
  | scan move =>
      obtain ⟨scan, hs, rfl⟩ := Option.map_eq_some_iff.mp hstep
      exact (Scan.does_of_step? h.kept.accounts.sound hs).touches.frame.1
  | close reason => cases hstep; exact Session.close_capacity _ _
  | cancel =>
      obtain ⟨-, ⟨⟩⟩ := Option.ite_none_right_eq_some.mp hstep
      exact (RowStream.keeps_abandonStart _).capacity.trans (Session.close_capacity _ .cancelled)
  | drop =>
      obtain ⟨-, ⟨⟩⟩ := Option.ite_none_right_eq_some.mp hstep
      exact (RowStream.keeps_abandonStart _).capacity.trans (Session.close_capacity _ .cancelled)

theorem capacity_eq_of_course (c : History Row R) (h : (c.state 0).Coherent) (n : Nat) :
    (c.state n).session.capacity = (c.state 0).session.capacity := by
  have hkeep : ∀ n, (c.state n).Coherent ∧
      (c.state n).session.capacity = (c.state 0).session.capacity := by
    refine c.preserves (P := fun v => v.Coherent ∧
      v.session.capacity = (c.state 0).session.capacity) ?_ ⟨h, rfl⟩
    intro u u' move hv hstep
    exact ⟨hv.1.step hstep, (capacity_eq_of_step hv.1 hstep).trans hv.2⟩
  exact (hkeep n).2

end

end Invocation
end RowBridge
