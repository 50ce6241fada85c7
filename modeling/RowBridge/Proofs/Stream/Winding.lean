/-
# `RowBridge.Proofs.Stream.Winding` — what a scan still does once its session is closed

A closing stops a scan at its next look at the closer, not at once.  Until then
it has at most one thing left to do, and which one depends on its phase:

    phase                        maps     enqueues
    mapping                      its row  nothing
    an enqueue at `reserving`    nothing  its item
    any other                    nothing  nothing

An enqueue that is about to look for room has looked for a closing already, and
does not look again if it finds some.  Its row was mapped before.

`toMap` and `toLand` count what is left.  Every move of a scan only lowers them
by what it does (`Winds`), and a scan that waits for its source has nothing left,
so a row that is offered then is turned away for good (`turned_away`).
-/
import RowBridge.Proofs.Stream.Delivery
import RowBridge.Proofs.Stream.Ending
import RowBridge.Proofs.Stream.Terminal

namespace RowBridge

variable {Row R : Type}

/-- How many rows the scan is still going to map once the session is closed. -/
def ScanPhase.toMap : ScanPhase Row R → Nat
  | mapping _ _ => 1
  | _ => 0

/-- How many items an enqueue is still going to add once the session is closed. -/
def SendStage.toLand : SendStage → Nat
  | reserving => 1
  | _ => 0

/-- How many items the scan is still going to enqueue once the session is
closed. -/
def ScanPhase.toLand : ScanPhase Row R → Nat
  | sending _ stage | ending stage => stage.toLand
  | _ => 0

/-- Only an enqueue that has looked for a closing already still counts. -/
theorem ScanPhase.toLand_cases (phase : ScanPhase Row R) : phase.toLand = 0 ∨
    (phase.toLand = 1 ∧
      ((∃ item, phase = .sending item .reserving) ∨ phase = .ending .reserving)) := by
  cases phase with
  | sending item stage =>
      cases stage with
      | reserving => exact Or.inr ⟨rfl, Or.inl ⟨item, rfl⟩⟩
      | _ => exact Or.inl rfl
  | ending stage =>
      cases stage with
      | reserving => exact Or.inr ⟨rfl, Or.inr rfl⟩
      | _ => exact Or.inl rfl
  | _ => exact Or.inl rfl

namespace Scan

section
variable {s s' : Scan Row R} {move : ScanMove Row}

/-! ## A scan of a closed session -/

/-- The calls of the mapper never become fewer, and once the session is closed
only a row that is being mapped still counts. -/
theorem Does.mapped_le (hd : s.Does move s') :
    s.mapped ≤ s'.mapped ∧ (s.session.isClosed = true →
      s'.mapped + s'.phase.toMap = s.mapped + s.phase.toMap) := by
  have hopen : ∀ {P : Prop}, s.session.isClosed = false → s.session.isClosed = true → P :=
    fun ho hc => absurd (ho.symm.trans hc) Bool.false_ne_true
  cases hd with
  | begins _ ho => exact ⟨Nat.le_refl _, hopen ho⟩
  | takesOn _ ho => exact ⟨Nat.le_refl _, hopen ho⟩
  | comesToEnd _ ho => exact ⟨Nat.le_refl _, hopen ho⟩
  | fails _ ho => exact ⟨Nat.le_refl _, hopen ho⟩
  | maps hp => rw [hp]; exact ⟨Nat.le_succ _, fun _ => rfl⟩
  | givesUp hp => rw [hp]; exact ⟨Nat.le_succ _, fun _ => rfl⟩
  | settles hp => rw [hp, settleRow_mapped, settleRow_phase]; exact ⟨Nat.le_refl _, fun _ => rfl⟩
  | completes hp =>
      rw [hp, settleFinish_mapped, settleFinish_phase]
      exact ⟨Nat.le_refl _, fun _ => rfl⟩
  | closes hp =>
      rw [hp, settleFailure_mapped, settleFailure_phase]
      exact ⟨Nat.le_refl _, fun _ => rfl⟩
  | turnsAway => exact ⟨Nat.le_refl _, fun _ => rfl⟩
  | skips hp => rw [hp]; exact ⟨Nat.le_refl _, fun _ => rfl⟩
  | vanishes hp => rw [hp]; exact ⟨Nat.le_refl _, fun _ => rfl⟩
  | stops hp => rw [hp]; exact ⟨Nat.le_refl _, fun _ => rfl⟩
  | stopsFailing hp => rw [hp]; exact ⟨Nat.le_refl _, fun _ => rfl⟩
  | raises hp => rw [hp]; exact ⟨Nat.le_refl _, fun _ => rfl⟩
  | sends hp => rw [hp]; exact ⟨Nat.le_refl _, fun _ => rfl⟩
  | delivers hp => rw [hp]; exact ⟨Nat.le_refl _, fun _ => rfl⟩
  | looksAgain hp => rw [hp]; exact ⟨Nat.le_refl _, fun _ => rfl⟩
  | endsAgain hp => rw [hp]; exact ⟨Nat.le_refl _, fun _ => rfl⟩

/-- An enqueue finds the closing in its next moment, unless it has looked for it
already. -/
theorem length_advance_of_isClosed {session : Session R} (hc : session.isClosed = true)
    (runtime expired : Bool) (item : Item R) (stage : SendStage) :
    (stage.advance runtime expired session item).session.queue.length +
        (stage.advance runtime expired session item).stage.toLand ≤
      session.queue.length + stage.toLand := by
  cases stage with
  | entering => simp [SendStage.advance, hc, SendStage.toLand]
  | polling => simp [SendStage.advance, hc, SendStage.toLand]
  | waiting => simp [SendStage.advance, hc, SendStage.toLand]
  | done outcome => exact Nat.le_refl _
  | settling outcome =>
      cases hreason : SendStage.closing outcome <;>
        simp [SendStage.advance, hreason, SendStage.toLand]
  | reserving =>
      simp only [SendStage.advance, SendStage.reserve]
      split
      · exact Nat.add_le_add_left (Nat.zero_le 1) _
      split
      · simp [Session.enqueue, SendStage.toLand]
      split
      · exact Nat.add_le_add_left (Nat.zero_le 1) _
      · exact Nat.add_le_add_left (Nat.zero_le 1) _

theorem advance_sending {item : Item R} {stage : SendStage} (hp : s.phase = .sending item stage)
    (hd : stage.isDone = false) (expired : Bool) :
    s.advance expired =
      { s.absorb (stage.advance s.plan.runtime expired s.session item) with
        phase := .sending item (stage.advance s.plan.runtime expired s.session item).stage } := by
  cases stage with
  | done outcome => cases hd
  | _ => simp only [advance, hp]

theorem advance_ending {stage : SendStage} (hp : s.phase = .ending stage)
    (hd : stage.isDone = false) (expired : Bool) :
    s.advance expired =
      { s.absorb (stage.advance s.plan.runtime expired s.session .finish) with
        phase := .ending (stage.advance s.plan.runtime expired s.session .finish).stage } := by
  cases stage with
  | done outcome => cases hd
  | _ => simp only [advance, hp]

/-- Once the session is closed, only an enqueue about to look for room still
counts.  The rules for enqueues do not say so, because a waiting enqueue looks
for a closing and for room in one moment. -/
theorem length_queue_of_isClosed (hs : s.phase.Sound s.session) (hc : s.session.isClosed = true)
    (hstep : s.step? move = some s') :
    s'.session.queue.length + s'.phase.toLand ≤ s.session.queue.length + s.phase.toLand := by
  have hd := does_of_step? hs hstep
  have hopen : ∀ {P : Prop}, s.session.isClosed = false → P :=
    fun ho => absurd (ho.symm.trans hc) Bool.false_ne_true
  have hleaves : ∀ {session : Session R}, session.queue = s.session.queue →
      session.queue.length + 0 ≤ s.session.queue.length + s.phase.toLand := by
    intro session hq
    rw [hq]
    exact Nat.add_le_add_left (Nat.zero_le _) _
  have hdropped := Session.dropProducer_queue s.session
  cases hd with
  | sends hp hm =>
      obtain ⟨-, hadvance⟩ := Option.ite_none_right_eq_some.mp hstep
      rw [advance_sending hp hm.isDone_eq_false] at hadvance
      rw [← Option.some.inj hadvance, hp]
      exact length_advance_of_isClosed hc _ _ _ _
  | delivers hp hm =>
      obtain ⟨-, hadvance⟩ := Option.ite_none_right_eq_some.mp hstep
      rw [advance_ending hp hm.isDone_eq_false] at hadvance
      rw [← Option.some.inj hadvance, hp]
      exact length_advance_of_isClosed hc _ _ _ _
  | begins _ ho => exact hopen ho
  | takesOn _ ho => exact hopen ho
  | comesToEnd _ ho => exact hopen ho
  | fails _ ho => exact hopen ho
  | turnsAway hp => exact Nat.le_refl _
  | settles => rw [settleRow_session, settleRow_phase]; exact hleaves rfl
  | completes => rw [settleFinish_session, settleFinish_phase]; exact hleaves hdropped
  | closes =>
      rw [settleFailure_session, settleFailure_phase]
      exact hleaves ((Session.dropProducer_queue _).trans (Session.close_queue _ _))
  | maps => exact hleaves rfl
  | looksAgain => exact hleaves rfl
  | endsAgain => exact hleaves rfl
  | _ => exact hleaves hdropped

end
end Scan

/-! ## What the other parties leave alone -/

namespace RowStream

/-- The work done for a stream is its scan's business. -/
@[simp] theorem abandonStart_mapped (st : RowStream Row R) :
    st.abandonStart.scan.mapped = st.scan.mapped := by
  unfold abandonStart
  split <;> rfl

@[simp] theorem handOver_mapped (st : RowStream Row R) (reception : Reception) :
    (st.handOver reception).scan.mapped = st.scan.mapped := by
  cases reception <;> rfl

end RowStream

theorem PollStage.Gives.mapped_eq {runtime : Bool} {reception : Reception}
    {st st' : RowStream Row R} {stage stage' : PollStage R}
    (h : stage.Gives runtime reception st st' stage') : st'.scan.mapped = st.scan.mapped := by
  cases h with
  | turnsBack => exact RowStream.abandonStart_mapped _
  | strands => exact RowStream.abandonStart_mapped _
  | handsOver => exact RowStream.handOver_mapped st reception
  | _ => rfl

namespace Invocation

section
variable {v v' : Invocation Row R} {move : Move Row}

/-- Nobody but the scan calls the mapper or enqueues anything. -/
theorem mapped_of_aside (hv : v.Coherent) (hstep : v.step? move = some v')
    (haside : ∀ m, move ≠ .scan m) :
    v'.stream.scan.mapped = v.stream.scan.mapped ∧ v'.ledger = v.ledger := by
  cases move with
  | pass => cases hstep; exact ⟨rfl, rfl⟩
  | beginPoll =>
      obtain ⟨-, ⟨⟩⟩ := Option.ite_none_right_eq_some.mp hstep
      exact ⟨rfl, rfl⟩
  | poll runtime reception =>
      obtain ⟨stage, hp, rfl⟩ := Option.map_eq_some_iff.mp hstep
      obtain ⟨stream, stage', hg, heq⟩ := advance_eq hv hp runtime reception
      rw [heq, goOn_stream]
      refine ⟨hg.mapped_eq, ?_⟩
      cases stage' <;> rfl
  | scan m => exact absurd rfl (haside m)
  | close reason => cases hstep; exact ⟨rfl, rfl⟩
  | cancel =>
      obtain ⟨-, ⟨⟩⟩ := Option.ite_none_right_eq_some.mp hstep
      exact ⟨RowStream.abandonStart_mapped _, rfl⟩
  | drop =>
      obtain ⟨-, ⟨⟩⟩ := Option.ite_none_right_eq_some.mp hstep
      exact ⟨RowStream.abandonStart_mapped _, rfl⟩

/-- A stream that has handed its scan over keeps its phase, and any other has
none to speak of. -/
theorem phase_cases_of_aside (hv : v.Coherent) (hstep : v.step? move = some v')
    (haside : ∀ m, move ≠ .scan m) :
    v'.phase = v.phase ∨ (v.phase = .deferred ∧ (v'.phase = .discarded ∨ v'.phase = .queued)) := by
  cases hs : v.stream.started with
  | true => exact Or.inl (phase_of_aside hv hs hstep haside).1
  | false => exact (phase_of_step hstep haside).imp_right fun hp => ⟨hv.kept.deferred hs, hp⟩

end

/-! ## After a closing -/

section
variable {u v w : Invocation Row R} {move : Move Row}

/-- What a scan of a closed session has done meanwhile, and what it has left. -/
structure Winds (v w : Invocation Row R) : Prop where
  mapped_le : v.stream.scan.mapped ≤ w.stream.scan.mapped
  toMap : w.stream.scan.mapped + w.phase.toMap ≤ v.stream.scan.mapped + v.phase.toMap
  enqueued : v.ledger.enqueued <+: w.ledger.enqueued
  toLand : w.ledger.enqueued.length + w.phase.toLand ≤
    v.ledger.enqueued.length + v.phase.toLand

theorem Winds.refl (v : Invocation Row R) : v.Winds v :=
  ⟨Nat.le_refl _, Nat.le_refl _, List.prefix_refl _, Nat.le_refl _⟩

theorem Winds.trans (h : u.Winds v) (h' : v.Winds w) : u.Winds w where
  mapped_le := Nat.le_trans h.mapped_le h'.mapped_le
  toMap := Nat.le_trans h'.toMap h.toMap
  enqueued := h.enqueued.trans h'.enqueued
  toLand := Nat.le_trans h'.toLand h.toLand

/-- Once the session is closed, every move only winds the scan down. -/
theorem Coherent.winds (hv : v.Coherent) (hc : v.session.isClosed = true)
    (hstep : v.step? move = some w) : v.Winds w := by
  by_cases hscan : ∃ m, move = .scan m
  · obtain ⟨m, rfl⟩ := hscan
    obtain ⟨scan, hs, rfl⟩ := Option.map_eq_some_iff.mp hstep
    have hsound := hv.kept.accounts.sound
    have hd := Scan.does_of_step? hsound hs
    have henq := enqueued_enter hd v.ledger
    have hqueue := Scan.length_queue_of_isClosed hsound hc hs
    have hlength := hd.touches.queue.length_le
    refine ⟨hd.mapped_le.1, Nat.le_of_eq (hd.mapped_le.2 hc), henq ▸ List.prefix_append _ _, ?_⟩
    have hgrown := congrArg List.length henq
    rw [List.length_append, List.length_drop] at hgrown
    show (v.ledger.enter v.stream.scan.session scan.session m).enqueued.length +
        scan.phase.toLand ≤ v.ledger.enqueued.length + v.stream.scan.phase.toLand
    omega
  have haside : ∀ m, move ≠ .scan m := fun m hm => hscan ⟨m, hm⟩
  obtain ⟨hmapped, hledger⟩ := mapped_of_aside hv hstep haside
  have hphase : w.phase.toMap = v.phase.toMap ∧ w.phase.toLand = v.phase.toLand := by
    rcases phase_cases_of_aside hv hstep haside with hp | ⟨hp, hp'⟩
    · rw [hp]
      exact ⟨rfl, rfl⟩
    · rw [hp]
      rcases hp' with hp' | hp' <;> rw [hp'] <;> exact ⟨rfl, rfl⟩
  refine ⟨Nat.le_of_eq hmapped.symm, ?_, hledger ▸ List.prefix_refl _, ?_⟩
  · exact Nat.le_of_eq (by rw [hmapped, hphase.1])
  · exact Nat.le_of_eq (by rw [hledger, hphase.2])

theorem winds_of_play {moves : List (Move Row)} (hv : v.Coherent)
    (hc : v.session.isClosed = true) (hplay : play? step? v moves = some w) :
    w.Coherent ∧ w.session.isClosed = true ∧ v.Winds w := by
  refine play?_preserves (P := fun u => u.Coherent ∧ u.session.isClosed = true ∧ v.Winds u)
    ?_ ⟨hv, hc, .refl v⟩ hplay
  rintro u u' move ⟨hu, hcu, hwinds⟩ hstep
  exact ⟨hu.step hstep, isClosed_of_step hu hcu hstep, hwinds.trans (hu.winds hcu hstep)⟩

/-- A scan with nothing left to do does nothing more. -/
theorem Winds.eq_of_zero (h : v.Winds w) (hm : v.phase.toMap = 0) (hl : v.phase.toLand = 0) :
    w.stream.scan.mapped = v.stream.scan.mapped ∧ w.ledger.enqueued = v.ledger.enqueued := by
  have htoMap := h.toMap
  have htoLand := h.toLand
  have hmapped := h.mapped_le
  refine ⟨by omega, ?_⟩
  exact (h.enqueued.eq_of_length (Nat.le_antisymm h.enqueued.length_le (by omega))).symm

/-- A call of the mapper after a closing is for the row that was in hand, which
is not enqueued. -/
theorem Winds.mapped_cases (h : v.Winds w) :
    w.stream.scan.mapped = v.stream.scan.mapped ∨
      (w.stream.scan.mapped = v.stream.scan.mapped + 1 ∧
        (∃ row index, v.phase = .mapping row index) ∧
        w.ledger.enqueued = v.ledger.enqueued) := by
  have hmapped := h.mapped_le
  have htoMap := h.toMap
  have htoLand := h.toLand
  cases hp : v.phase with
  | mapping row index =>
      rw [hp] at htoMap htoLand
      change _ ≤ v.stream.scan.mapped + 1 at htoMap
      change _ ≤ v.ledger.enqueued.length at htoLand
      have henq := h.enqueued.eq_of_length
        (Nat.le_antisymm h.enqueued.length_le (Nat.le_of_add_right_le htoLand))
      by_cases hsame : w.stream.scan.mapped = v.stream.scan.mapped
      · exact Or.inl hsame
      · exact Or.inr ⟨by omega, ⟨row, index, rfl⟩, henq.symm⟩
  | _ =>
      rw [hp] at htoMap
      exact Or.inl (Nat.le_antisymm (Nat.le_of_add_right_le htoMap) hmapped)

/-- An item that is enqueued after a closing had looked for it before. -/
theorem Winds.enqueued_cases (h : v.Winds w) :
    w.ledger.enqueued = v.ledger.enqueued ∨
      (((∃ item, v.phase = .sending item .reserving) ∨ v.phase = .ending .reserving) ∧
        ∃ item, w.ledger.enqueued = v.ledger.enqueued ++ [item]) := by
  obtain ⟨items, hitems⟩ := h.enqueued
  have htoLand := h.toLand
  rw [← hitems, List.length_append] at htoLand
  cases items with
  | nil => exact Or.inl (hitems.symm.trans (List.append_nil _))
  | cons item rest =>
      rw [List.length_cons] at htoLand
      rcases v.phase.toLand_cases with hzero | ⟨hone, hreserving⟩
      · omega
      · cases List.length_eq_zero_iff.mp (show rest.length = 0 by omega)
        exact Or.inr ⟨hreserving, item, hitems.symm⟩

/-- A row that is offered to a closed session is turned away, and with it all
further work. -/
theorem turned_away {row : Row} {index : Nat} {late : List (Move Row)} (hv : v.Coherent)
    (hc : v.session.isClosed = true)
    (hplay : play? step? v (.scan (.offer row index) :: late) = some w) :
    (∃ u, v.step? (.scan (.offer row index)) = some u ∧ u.phase = .scanning ∧
        u.stream.scan.answer = some .stop) ∧
      w.stream.scan.mapped = v.stream.scan.mapped ∧
      w.ledger.enqueued = v.ledger.enqueued := by
  obtain ⟨-, -, hwinds⟩ := winds_of_play hv hc hplay
  obtain ⟨u, hu, -⟩ := play?_cons hplay
  obtain ⟨scan, hs, rfl⟩ := Option.map_eq_some_iff.mp hu
  obtain ⟨hidle, hoffer⟩ := Option.ite_none_right_eq_some.mp hs
  have hp : v.phase = .scanning := Scan.phase_of_isIdle hidle
  have hturned : scan = { v.stream.scan with answer := some .stop } :=
    (Option.some.inj hoffer).symm.trans (if_pos hc)
  cases hturned
  exact ⟨⟨_, hu, hp, rfl⟩, hwinds.eq_of_zero (by rw [hp]; rfl) (by rw [hp]; rfl)⟩

end
end Invocation
end RowBridge
