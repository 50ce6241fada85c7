/-
# `RowBridge.Proofs.Stream.Marker` — a scan that has enqueued its end marker

The end marker is the last thing a scan enqueues, and nothing can go wrong for it
afterwards:

* it ends well (`Marked`);
* it has not closed the session, nor will it, so a closing is somebody else's
  (`Unbroken`).

The second needs more than it says.  A scan closes its session when an enqueue
finds no room, or for a failure of its source, and from then on it has nothing in
hand that could still be enqueued (`ScanPhase.isSettled`): a row that is offered
is turned away, and a source that returns leaves no marker.

Once a scan has been handed over, only its own moves change its phase
(`phase_of_aside`).
-/
import RowBridge.Proofs.Stream.Invocation

namespace RowBridge

variable {Row R : Type}

/-- A move by which somebody else than the scan or its scheduler closes the
session. -/
def Move.closes : Move Row → Bool
  | .close _ | .cancel | .drop => true
  | _ => false

/-- Nothing is in hand that could be enqueued. -/
def ScanPhase.isSettled : ScanPhase Row R → Bool
  | mapping _ _ | failing _ => false
  | sending _ stage | ending stage => stage.isDone
  | _ => true

/-- An enqueue that closes the session is over, without success. -/
theorem SendStage.Moves.reason_eq_or {runtime expired : Bool} {s s' : Session R} {item : Item R}
    {stage stage' : SendStage} (h : stage.Moves runtime expired s item s' stage') :
    s'.reason = s.reason ∨ (stage'.isDone = true ∧ stage' ≠ .done .sent) := by
  cases h with
  | strands => exact Or.inr ⟨rfl, nofun⟩
  | settles hreason =>
      refine Or.inr ⟨rfl, ?_⟩
      rintro ⟨⟩
      cases hreason
  | _ => exact Or.inl rfl

/-- An enqueue that makes a move is not over. -/
theorem SendStage.Moves.isDone_eq_false {runtime expired : Bool} {s s' : Session R} {item : Item R}
    {stage stage' : SendStage} (h : stage.Moves runtime expired s item s' stage') :
    stage.isDone = false := by
  cases stage with
  | done outcome =>
      cases h with
      | turnedAway _ hl => cases hl
      | refused _ hl => cases hl
      | lands _ _ hl => cases hl
      | expires _ _ _ hl => cases hl
      | waits _ _ _ hl => cases hl
  | _ => rfl

/-! ## The scan -/

section
variable {s s' : Scan Row R} {l : Ledger Row R} {move : ScanMove Row}

/-- A scan that ends with its marker enqueued ends well. -/
theorem Accounts.ending_eq_ok (h : Accounts s l) (hd : s.Does move s') {ending : Ending}
    (he : s'.phase = .ended ending)
    (hmarked : .finish ∈ (l.enter s.session s'.session move).enqueued) : ending = .ok := by
  have hst := h.stands
  have hover := hd.isUnderWay.2
  cases hd with
  | skips => cases he; rfl
  | stops => cases he; rfl
  | stopsFailing => cases he; rfl
  | completes =>
      rw [Scan.settleFinish_phase] at he
      cases he
      rfl
  | raises hp =>
      rw [hp] at hst
      obtain ⟨-, early, late, -, hcar, -⟩ := hst
      exact absurd hmarked hcar.finish_notMem
  | givesUp hp =>
      rw [hp] at hst
      obtain ⟨-, early, -, hcar⟩ := hst
      have hq : s.session.dropProducer.queue = s.session.queue := Session.dropProducer_queue _
      change .finish ∈ (l.grow s.session s.session.dropProducer).enqueued at hmarked
      rw [Ledger.grow_of_queue_eq l hq] at hmarked
      exact absurd hmarked hcar.finish_notMem
  | @closes expired failure hp =>
      rw [hp] at hst
      have hq : (s.session.close (Scan.closureOf failure)).dropProducer.queue = s.session.queue :=
        (Session.dropProducer_queue _).trans (Session.close_queue _ _)
      rw [Scan.settleFailure_session] at hmarked
      change .finish ∈ (l.grow s.session _).enqueued at hmarked
      rw [Ledger.grow_of_queue_eq l hq] at hmarked
      exact absurd hmarked hst.2.finish_notMem
  | turnsAway hp => rw [hp] at he; cases he
  | settles => rw [Scan.settleRow_phase] at he; cases he
  | _ => cases he

/-- A scan that has closed its session has nothing to enqueue, and has not
enqueued its marker. -/
theorem Accounts.unbroken (h : Accounts s l) (hd : s.Does move s')
    (hu : s.session.reason = none ∨ (.finish ∉ l.enqueued ∧ s.phase.isSettled = true)) :
    s'.session.reason = none ∨ (.finish ∉ (l.enter s.session s'.session move).enqueued ∧
      s'.phase.isSettled = true) := by
  have hst := h.stands
  have hsame : ∀ {session : Session R}, session.queue = s.session.queue →
      .finish ∉ l.enqueued → .finish ∉ (l.grow s.session session).enqueued := by
    intro session hq hnone
    rw [Ledger.grow_of_queue_eq l hq]
    exact hnone
  -- an enqueue that ended without success has added nothing to what was there before
  have hfailed : ∀ {runtime expired : Bool} {session : Session R} {item : Item R}
      {body : List (Item R)} {stage stage' : SendStage},
      stage.Moves runtime expired s.session item session stage' → stage' ≠ .done .sent →
      l.enqueued = body ++ stage.landed item → .finish ∉ body →
      .finish ∉ (l.grow s.session session).enqueued := by
    intro runtime expired session item body stage stage' hm hne henq hbody
    rw [hm.grow henq, SendStage.landed_of_ne _ hne, List.append_nil]
    exact hbody
  have hdropped : s.session.dropProducer.queue = s.session.queue := Session.dropProducer_queue _
  have hdrop : s.session.reason = none → s.session.dropProducer.reason = none :=
    (Session.dropProducer_reason _).trans
  have hopen : s.session.isClosed = false → s.session.reason = none := Session.reason_of_isOpen
  have hbusy : s.phase.isSettled = false → s.session.reason = none := by
    intro hp
    exact hu.resolve_right fun hset => Bool.false_ne_true (hp.symm.trans hset.2)
  cases hd with
  | skips => exact hu.imp hdrop fun hset => ⟨hsame hdropped hset.1, rfl⟩
  | begins _ ho => exact Or.inl (hopen ho)
  | vanishes => exact hu.imp hdrop fun hset => ⟨hsame hdropped hset.1, rfl⟩
  | turnsAway => exact hu
  | takesOn _ ho => exact Or.inl (hopen ho)
  | comesToEnd _ ho => exact Or.inl (hopen ho)
  | fails _ ho => exact Or.inl (hopen ho)
  | stops => exact hu.imp hdrop fun hset => ⟨hset.1, rfl⟩
  | stopsFailing => exact hu.imp hdrop fun hset => ⟨hset.1, rfl⟩
  | raises => exact hu.imp hdrop fun hset => ⟨hset.1, rfl⟩
  | maps hp => exact Or.inl (hbusy (by rw [hp]; rfl))
  | givesUp hp => exact Or.inl (hdrop (hbusy (by rw [hp]; rfl)))
  | sends hp hm =>
      have hnone := hbusy (by rw [hp]; exact hm.isDone_eq_false)
      rcases hm.reason_eq_or with hsame' | ⟨hdone, hne⟩
      · exact Or.inl (hsame'.trans hnone)
      · rw [hp] at hst
        obtain ⟨-, early, row, index, value, body, -, -, -, hcar, henq⟩ := hst
        exact Or.inr ⟨hfailed hm hne henq hcar.finish_notMem, hdone⟩
  | settles =>
      rw [Scan.settleRow_session, Scan.settleRow_phase]
      exact hu.imp_right fun hset => ⟨hsame rfl hset.1, rfl⟩
  | delivers hp hm =>
      have hnone := hbusy (by rw [hp]; exact hm.isDone_eq_false)
      rcases hm.reason_eq_or with hsame' | ⟨hdone, hne⟩
      · exact Or.inl (hsame'.trans hnone)
      · rw [hp] at hst
        obtain ⟨-, body, hcar, henq⟩ := hst
        exact Or.inr ⟨hfailed hm hne henq hcar.finish_notMem, hdone⟩
  | completes =>
      rw [Scan.settleFinish_session, Scan.settleFinish_phase]
      exact hu.imp hdrop fun hset => ⟨hsame hdropped hset.1, rfl⟩
  | @closes expired failure hp =>
      rw [Scan.settleFailure_session, Scan.settleFailure_phase]
      rw [hp] at hst
      have hq : (s.session.close (Scan.closureOf failure)).dropProducer.queue = s.session.queue :=
        (Session.dropProducer_queue _).trans (Session.close_queue _ _)
      exact Or.inr ⟨hsame hq hst.2.finish_notMem, rfl⟩
  | looksAgain hp => exact Or.inl (hbusy (by rw [hp]; rfl))
  | endsAgain hp => exact Or.inl (hbusy (by rw [hp]; rfl))

end

/-! ## The invocation -/

namespace Invocation

section
variable {v v' : Invocation Row R} {move : Move Row}

/-- Once a scan has been handed over, only its own moves change its phase, and
only a closing by somebody else can close its session otherwise. -/
theorem phase_of_aside (h : v.Coherent) (hs : v.stream.started = true)
    (hstep : v.step? move = some v') (haside : ∀ m, move ≠ .scan m) :
    v'.phase = v.phase ∧ v'.stream.started = true ∧ v'.ledger = v.ledger ∧
      (move.closes = false → v'.session.reason = v.session.reason) := by
  have hcloses : ∀ {p : Prop}, true = false → p := fun h => absurd h.symm Bool.false_ne_true
  have hstarted : ∀ (st : RowStream Row R), st.started = true → st.abandonStart = st :=
    fun _ hst => if_pos hst
  cases move with
  | pass => cases hstep; exact ⟨rfl, hs, rfl, fun _ => rfl⟩
  | beginPoll =>
      obtain ⟨-, ⟨⟩⟩ := Option.ite_none_right_eq_some.mp hstep
      exact ⟨rfl, hs, rfl, fun _ => rfl⟩
  | poll runtime reception =>
      obtain ⟨stage, hp, rfl⟩ := Option.map_eq_some_iff.mp hstep
      obtain ⟨stream, stage', hg, heq⟩ := advance_eq h hp runtime reception
      have hm := h.midway stage hp
      have hledger : ({ v with stream := stream }.goOn stage').ledger = v.ledger := by
        cases stage' <;> rfl
      rw [heq, hledger, phase, session, goOn_stream]
      -- a poll that is about to hand the scan over has not done so
      have hnot : stage ≠ .starting := by
        rintro rfl
        exact Bool.false_ne_true (hm.2.2.symm.trans hs)
      cases hg with
      | strands => exact absurd rfl hnot
      | handsOver => exact absurd rfl hnot
      | turnsBack =>
          rw [hstarted (v.stream.withSession v.stream.session.hush) hs]
          exact ⟨rfl, hs, rfl, fun _ => rfl⟩
      | _ => exact ⟨rfl, hs, rfl, fun _ => rfl⟩
  | scan m => exact absurd rfl (haside m)
  | close reason => cases hstep; exact ⟨rfl, hs, rfl, hcloses⟩
  | cancel =>
      obtain ⟨-, ⟨⟩⟩ := Option.ite_none_right_eq_some.mp hstep
      rw [RowStream.cancel, phase, hstarted (v.stream.withSession v.stream.session.cancel) hs]
      exact ⟨rfl, hs, rfl, hcloses⟩
  | drop =>
      obtain ⟨-, ⟨⟩⟩ := Option.ite_none_right_eq_some.mp hstep
      rw [RowStream.drop, phase,
        hstarted (v.stream.withSession v.stream.session.dropConsumer) hs]
      exact ⟨rfl, hs, rfl, hcloses⟩

/-- What holds of a scan that has been handed over. -/
structure Marked (v : Invocation Row R) : Prop where
  coherent : v.Coherent
  started : v.stream.started = true
  /-- A scan that ended with its marker enqueued ended well. -/
  ended : ∀ ending, v.phase = .ended ending → .finish ∈ v.ledger.enqueued → ending = .ok

/-- A scan that waits for its scheduler has been handed over. -/
theorem Coherent.marked (h : v.Coherent) (hp : v.phase = .queued) : v.Marked where
  coherent := h
  started := by
    cases hs : v.stream.started with
    | true => rfl
    | false => exact nomatch hp.symm.trans (h.kept.deferred hs)
  ended _ hp' := nomatch hp.symm.trans hp'

/-- Whether a stream that stood by has just handed its scan over. -/
theorem Standing.step_cases (h : v.Standing) (hv : v.Coherent) (hstep : v.step? move = some v') :
    (v'.stream.scan.isQueued = true ∧ v'.phase = .queued ∧ v'.Marked) ∨
      (v'.stream.scan.isQueued = false ∧ v'.Standing) := by
  rcases h.step hv hstep with hstands | hp
  · refine Or.inr ⟨?_, hstands⟩
    rcases hstands with hp | hp
    · rw [Scan.isQueued, show v'.stream.scan.phase = .deferred from hp]
    · rw [Scan.isQueued, show v'.stream.scan.phase = .discarded from hp]
  · refine Or.inl ⟨?_, hp, (hv.step hstep).marked hp⟩
    rw [Scan.isQueued, show v'.stream.scan.phase = .queued from hp]

/-- If the session is closed, the scan closed it, and will not enqueue its
marker. -/
def Unbroken (v : Invocation Row R) : Prop :=
  v.session.reason = none ∨ (.finish ∉ v.ledger.enqueued ∧ v.phase.isSettled = true)

theorem Marked.step (h : v.Marked) (hstep : v.step? move = some v') : v'.Marked := by
  have hcoherent := h.coherent.step hstep
  cases move with
  | scan m =>
      obtain ⟨scan, hs, rfl⟩ := Option.map_eq_some_iff.mp hstep
      have hd := Scan.does_of_step? h.coherent.kept.accounts.sound hs
      exact ⟨hcoherent, h.started, fun ending => h.coherent.kept.accounts.ending_eq_ok hd⟩
  | _ =>
      obtain ⟨hphase, hstarted, hledger, -⟩ := phase_of_aside h.coherent h.started hstep nofun
      refine ⟨hcoherent, hstarted, ?_⟩
      rw [hphase, hledger]
      exact h.ended

/-- A scan that is over stays as it is. -/
theorem Marked.phase_of_over (h : v.Marked) (hover : v.phase.isOver = true)
    (hstep : v.step? move = some v') : v'.phase = v.phase := by
  cases move with
  | scan m =>
      obtain ⟨scan, hs, rfl⟩ := Option.map_eq_some_iff.mp hstep
      have hd := Scan.does_of_step? h.coherent.kept.accounts.sound hs
      exact absurd (hover.symm.trans hd.isUnderWay.2) Bool.noConfusion
  | _ => exact (phase_of_aside h.coherent h.started hstep nofun).1

theorem Unbroken.step (h : v.Unbroken) (hv : v.Marked) (hstep : v.step? move = some v')
    (hmove : move.closes = false) : v'.Unbroken := by
  cases move with
  | scan m =>
      obtain ⟨scan, hs, rfl⟩ := Option.map_eq_some_iff.mp hstep
      exact hv.coherent.kept.accounts.unbroken
        (Scan.does_of_step? hv.coherent.kept.accounts.sound hs) h
  | _ =>
      obtain ⟨hphase, -, hledger, hreason⟩ := phase_of_aside hv.coherent hv.started hstep nofun
      rw [Unbroken, hphase, hledger, hreason hmove]
      exact h

/-- A scan that has enqueued its marker has not closed its session. -/
theorem Unbroken.reason_eq_none (h : v.Unbroken) (hmarked : .finish ∈ v.ledger.enqueued) :
    v.session.reason = none :=
  h.resolve_right fun hset => hset.1 hmarked

end
end Invocation
end RowBridge
