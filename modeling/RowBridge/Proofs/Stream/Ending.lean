/-
# `RowBridge.Proofs.Stream.Ending` — how a scan ended, and what that says

What a scan returns says something about its rows and its session, and a
scheduler relies on it.

    ended with     the session   then
    ok             open          every row was enqueued, and one end marker after them
    ok             closed        nothing that is said here
    failed         closed        the source had returned this failure, with another
                                 statement or none, while the session was open, and it
                                 was not transient
    raised         open, closed  the source or the mapper gave up

A failure is on its way from the moment in which the source returns it
(`ScanPhase.Fails`); a scan that is not failing comes to fail in no other way
(`Does.fails_cases`), and a scan that fails goes on failing (`Does.failsOn`).

If all others close a session by cancelling it, a session closed for another
reason was closed by its scan (`Invocation.Tame`).
-/
import RowBridge.Proofs.Stream.Marker

namespace RowBridge

variable {Row R : Type}

/-! ## The scan -/

/-- The scan has this failure for its result, or is about to. -/
def ScanPhase.Fails (statement : String) (error : ScanError) : ScanPhase Row R → Prop
  | failing failure => failure.isTransient = false ∧ failure.withStatement statement = error
  | ended result => result = .failed error
  | _ => False

namespace Scan

/-- The source returns a failure that is not transient to an open session; with
the statement of the scan it is this error. -/
structure Returns (s : Scan Row R) (failure error : ScanError) : Prop where
  idle : s.phase = .scanning
  isOpen : s.session.isClosed = false
  hard : failure.isTransient = false
  named : failure.withStatement s.plan.statement = error

section
variable {s s' : Scan Row R} {move : ScanMove Row} {error : ScanError}

/-- A failure that is met while the session is open becomes the result unless it
is transient. -/
theorem resultOf_eq_failed {statement : String} {failure : ScanError} :
    resultOf statement failure = .failed error ↔
      failure.isTransient = false ∧ failure.withStatement statement = error := by
  unfold resultOf
  cases failure.isTransient <;> simp

/-- A scan fails because its source has just returned a failure, or failed
before. -/
theorem Does.fails_cases (hd : s.Does move s') (h : s'.phase.Fails s'.plan.statement error) :
    s.phase.Fails s.plan.statement error ∨
      ∃ failure, move = .conclude (.failed failure) ∧ s.Returns failure error := by
  cases hd with
  | @fails failure hp ho => exact Or.inr ⟨failure, rfl, hp, ho, h.1, h.2⟩
  | @closes expired failure hp =>
      rw [settleFailure_phase, settleFailure_plan] at h
      have hresult : resultOf s.plan.statement failure = .failed error := h
      rw [hp]
      exact Or.inl (resultOf_eq_failed.mp hresult)
  | turnsAway hp =>
      have hnone : s.phase.Fails s.plan.statement error := h
      exact Or.inl hnone
  | settles => rw [settleRow_phase] at h; cases h
  | completes => rw [settleFinish_phase] at h; cases h
  | _ => cases h

theorem Returns.fails {failure : ScanError} (h : s.Returns failure error) :
    (s.conclude (.failed failure)).phase.Fails (s.conclude (.failed failure)).plan.statement
      error := by
  have hconclude : s.conclude (.failed failure) = { s with phase := .failing failure } := by
    simp [conclude, h.isOpen]
  rw [hconclude]
  exact ⟨h.hard, h.named⟩

/-- A scan that fails closes the session next. -/
theorem Does.eq_of_failing (hd : s.Does move s') {failure : ScanError}
    (hp : s.phase = .failing failure) : s' = s.settleFailure failure := by
  cases hd with
  | closes hp' =>
      cases hp.symm.trans hp'
      rfl
  | _ hp' => exact nomatch hp.symm.trans hp'

/-- A scan that fails goes on failing. -/
theorem Does.failsOn (hd : s.Does move s') (h : s.phase.Fails s.plan.statement error) :
    s'.phase.Fails s'.plan.statement error := by
  cases hp : s.phase with
  | failing failure =>
      rw [hp] at h
      rw [hd.eq_of_failing hp, settleFailure_phase, settleFailure_plan]
      exact resultOf_eq_failed.mpr h
  | ended result =>
      have hover := hd.isUnderWay.2
      rw [hp] at hover
      cases hover
  | _ =>
      rw [hp] at h
      cases h

/-- A scan whose result is a failure has closed the session. -/
theorem Does.isClosed_of_failed (hd : s.Does move s') (he : s'.phase = .ended (.failed error)) :
    s'.session.isClosed = true := by
  cases hd with
  | closes =>
      rw [settleFailure_session, Session.dropProducer_isClosed]
      exact Session.close_isClosed _ _
  | turnsAway hp => rw [hp] at he; cases he
  | settles => rw [settleRow_phase] at he; cases he
  | completes => rw [settleFinish_phase] at he; cases he
  | _ => cases he

/-- A scan is dropped by its scheduler and by nobody else. -/
theorem Does.phase_ne_discarded (hd : s.Does move s') (hmove : move ≠ .lose) :
    s'.phase ≠ .discarded := by
  cases hd with
  | vanishes => exact absurd rfl hmove
  | turnsAway hp =>
      show s.phase ≠ .discarded
      rw [hp]
      nofun
  | settles => rw [settleRow_phase]; nofun
  | completes => rw [settleFinish_phase]; nofun
  | closes => rw [settleFailure_phase]; nofun
  | _ => nofun

/-- No scan goes back to where its scheduler has not begun it. -/
theorem Does.phase_ne_queued (hd : s.Does move s') : s'.phase ≠ .queued := by
  cases hd with
  | turnsAway hp =>
      show s.phase ≠ .queued
      rw [hp]
      nofun
  | settles => rw [settleRow_phase]; nofun
  | completes => rw [settleFinish_phase]; nofun
  | closes => rw [settleFailure_phase]; nofun
  | _ => nofun

end
end Scan

section
variable {s s' : Scan Row R} {l : Ledger Row R} {move : ScanMove Row}

/-- A scan that ends well and leaves the session open has enqueued its marker. -/
theorem Accounts.marked_of_open (h : Accounts s l) (hd : s.Does move s')
    (he : s'.phase = .ended .ok) (hr : s'.session.reason = none) :
    .finish ∈ (l.enter s.session s'.session move).enqueued := by
  have hst := h.stands
  have hsound := h.sound
  -- the session was open before the scan gave up its half
  have hopen : s.session.dropProducer.reason = none → s.session.isClosed = true → False := by
    intro hnone hc
    rw [Session.dropProducer_reason] at hnone
    rw [Session.isClosed_eq_isSome, hnone] at hc
    cases hc
  cases hd with
  | skips _ hc => exact (hopen hr hc).elim
  | stops _ hc => exact (hopen hr hc).elim
  | stopsFailing _ hc => exact (hopen hr hc).elim
  | @completes expired outcome hp =>
      rw [hp] at hst hsound
      rw [Scan.settleFinish_session] at hr
      rcases hsound with rfl | hc
      · obtain ⟨-, body, -, henq⟩ := hst
        have hq : (s.settleFinish .sent).session.queue = s.session.queue :=
          Session.dropProducer_queue _
        show .finish ∈ (l.grow s.session (s.settleFinish .sent).session).enqueued
        rw [Ledger.grow_of_queue_eq l hq, henq]
        exact List.mem_append_right _ List.mem_cons_self
      · exact (hopen hr hc).elim
  | closes =>
      rw [Scan.settleFailure_session, Session.dropProducer_reason, Session.close_reason] at hr
      cases hr
  | turnsAway hp => rw [hp] at he; cases he
  | settles => rw [Scan.settleRow_phase] at he; cases he
  | _ => cases he

/-- A scan that has enqueued its marker has enqueued every row before it. -/
theorem Accounts.complete (h : Accounts s l) (hmarked : .finish ∈ l.enqueued) :
    ∃ values : List R, l.enqueued = values.map .value ++ [.finish] ∧
      l.handed.map s.plan.result = values.map .ok := by
  obtain ⟨early, late, body, hrows, hcar, henq | ⟨rfl, -, henq⟩⟩ := h.stands.initial
  · rw [henq] at hmarked
    exact absurd hmarked hcar.finish_notMem
  · obtain ⟨values, rfl, hvalues⟩ := hcar
    rw [List.append_nil] at hrows
    exact ⟨values, henq, hrows ▸ hvalues⟩

end

/-! ## The invocation -/

/-- A move that closes the session only by cancelling. -/
def Move.OnlyCancels : Move Row → Prop
  | .close reason => reason = .cancelled
  | _ => True

instance : DecidablePred (@Move.OnlyCancels Row)
  | .close reason => inferInstanceAs (Decidable (reason = .cancelled))
  | .beginPoll | .poll _ _ | .scan _ | .cancel | .drop | .pass =>
      inferInstanceAs (Decidable True)

namespace Invocation

/-- What holds of a scan that has been handed over: how it ended says what has
become of its rows and of the session. -/
structure Candid (v : Invocation Row R) : Prop extends Marked v where
  complete : v.phase = .ended .ok → v.session.reason = none → .finish ∈ v.ledger.enqueued
  shut : ∀ error, v.phase = .ended (.failed error) → v.session.isClosed = true

/-- If the session is closed, it was cancelled, or the scan closed it, and will
not enqueue its marker. -/
def Tame (v : Invocation Row R) : Prop :=
  v.session.reason = none ∨ v.session.reason = some .cancelled ∨
    (.finish ∉ v.ledger.enqueued ∧ v.phase.isSettled = true ∧ v.phase ≠ .queued)

section
variable {v v' : Invocation Row R} {move : Move Row}

theorem isClosed_of_step (hv : v.Coherent) (hc : v.session.isClosed = true)
    (hstep : v.step? move = some v') : v'.session.isClosed = true := by
  obtain ⟨reason, hr⟩ := Option.isSome_iff_exists.mp hc
  exact Session.isClosed_of_reason (reason_of_step hv hr hstep)

theorem Candid.step (h : v.Candid) (hstep : v.step? move = some v') : v'.Candid := by
  refine ⟨h.toMarked.step hstep, ?_, ?_⟩
  · intro hp hr
    cases move with
    | scan m =>
        obtain ⟨scan, hs, rfl⟩ := Option.map_eq_some_iff.mp hstep
        have haccounts := h.coherent.kept.accounts
        exact haccounts.marked_of_open (Scan.does_of_step? haccounts.sound hs) hp hr
    | _ =>
        obtain ⟨hphase, -, hledger, -⟩ := phase_of_aside h.coherent h.started hstep nofun
        rw [hledger]
        refine h.complete (hphase.symm.trans hp) ?_
        cases hbefore : v.session.reason with
        | none => rfl
        | some reason => exact nomatch hr.symm.trans (reason_of_step h.coherent hbefore hstep)
  · intro error hp
    cases move with
    | scan m =>
        obtain ⟨scan, hs, rfl⟩ := Option.map_eq_some_iff.mp hstep
        exact (Scan.does_of_step? h.coherent.kept.accounts.sound hs).isClosed_of_failed hp
    | _ =>
        obtain ⟨hphase, -⟩ := phase_of_aside h.coherent h.started hstep nofun
        exact isClosed_of_step h.coherent (h.shut error (hphase.symm.trans hp)) hstep

/-- What has been enqueued has been enqueued. -/
theorem Marked.enqueued_isPrefix (h : v.Marked) (hstep : v.step? move = some v') :
    v.ledger.enqueued <+: v'.ledger.enqueued := by
  cases move with
  | scan m =>
      obtain ⟨scan, hs, rfl⟩ := Option.map_eq_some_iff.mp hstep
      have hd := Scan.does_of_step? h.coherent.kept.accounts.sound hs
      have hgrown := enqueued_enter hd v.ledger
      exact hgrown ▸ List.prefix_append _ _
  | _ =>
      obtain ⟨-, -, hledger, -⟩ := phase_of_aside h.coherent h.started hstep nofun
      exact hledger.symm ▸ List.prefix_refl _

/-- A scan that has just been handed over has not ended in any way. -/
theorem Marked.candid (h : v.Marked) (hp : v.phase = .queued) : v.Candid where
  toMarked := h
  complete hp' := nomatch hp.symm.trans hp'
  shut _ hp' := nomatch hp.symm.trans hp'

/-- The scan of an invocation fails because its source has just returned a failure,
or failed before. -/
theorem Coherent.fails_cases (hv : v.Coherent) (hstep : v.step? move = some v')
    {error : ScanError} (h : v'.phase.Fails v'.stream.scan.plan.statement error) :
    v.phase.Fails v.stream.scan.plan.statement error ∨
      ∃ failure, move = .scan (.conclude (.failed failure)) ∧
        v.stream.scan.Returns failure error := by
  cases move with
  | scan m =>
      obtain ⟨scan, hs, rfl⟩ := Option.map_eq_some_iff.mp hstep
      rcases (Scan.does_of_step? hv.kept.accounts.sound hs).fails_cases h with hf | ⟨failure, hf⟩
      · exact Or.inl hf
      · exact Or.inr ⟨failure, congrArg Move.scan hf.1, hf.2⟩
  | _ =>
      rw [plan_eq_of_step hv hstep] at h
      rcases phase_of_step hstep nofun with hp | hp | hp
      · exact Or.inl (hp ▸ h)
      · rw [hp] at h; cases h
      · rw [hp] at h; cases h

theorem Marked.phase_ne_discarded (h : v.Marked) (hp : v.phase ≠ .discarded)
    (hstep : v.step? move = some v') (hmove : move ≠ .scan .lose) : v'.phase ≠ .discarded := by
  cases move with
  | scan m =>
      obtain ⟨scan, hs, rfl⟩ := Option.map_eq_some_iff.mp hstep
      have hd := Scan.does_of_step? h.coherent.kept.accounts.sound hs
      exact hd.phase_ne_discarded (mt (congrArg _) hmove)
  | _ =>
      rw [(phase_of_aside h.coherent h.started hstep nofun).1]
      exact hp

theorem Marked.failsOn (h : v.Marked) (hstep : v.step? move = some v') {error : ScanError}
    (hf : v.phase.Fails v.stream.scan.plan.statement error) :
    v'.phase.Fails v'.stream.scan.plan.statement error := by
  cases move with
  | scan m =>
      obtain ⟨scan, hs, rfl⟩ := Option.map_eq_some_iff.mp hstep
      exact (Scan.does_of_step? h.coherent.kept.accounts.sound hs).failsOn hf
  | _ =>
      rw [plan_eq_of_step h.coherent hstep, (phase_of_aside h.coherent h.started hstep nofun).1]
      exact hf

/-- Whoever is not the scan leaves the reason as it is, or cancels. -/
theorem reason_of_aside (h : v.Coherent) (hs : v.stream.started = true)
    (hstep : v.step? move = some v') (haside : ∀ m, move ≠ .scan m) (hmove : move.OnlyCancels) :
    v'.session.reason = v.session.reason ∨ v'.session.reason = some .cancelled := by
  cases hr : v.session.reason with
  | some reason => exact Or.inl (reason_of_step h hr hstep)
  | none =>
      have hclosed : (v.session.close .cancelled).reason = some .cancelled := by
        rw [Session.close_reason, hr]
        rfl
      cases move with
      | close reason =>
          cases hmove
          cases hstep
          exact Or.inr hclosed
      | cancel =>
          obtain ⟨-, ⟨⟩⟩ := Option.ite_none_right_eq_some.mp hstep
          have hk := (v.stream.withSession v.session.cancel).keeps_abandonStart
          exact Or.inr (hk.reason hclosed)
      | drop =>
          obtain ⟨-, ⟨⟩⟩ := Option.ite_none_right_eq_some.mp hstep
          have hk := (v.stream.withSession v.session.dropConsumer).keeps_abandonStart
          exact Or.inr (hk.reason hclosed)
      | scan m => exact absurd rfl (haside m)
      | _ =>
          obtain ⟨-, -, -, hreason⟩ := phase_of_aside h hs hstep nofun
          exact Or.inl ((hreason rfl).trans hr)

theorem Tame.step (h : v.Tame) (hv : v.Marked) (hstep : v.step? move = some v')
    (hmove : move.OnlyCancels) : v'.Tame := by
  cases move with
  | scan m =>
      obtain ⟨scan, hs, rfl⟩ := Option.map_eq_some_iff.mp hstep
      have haccounts := hv.coherent.kept.accounts
      have hd := Scan.does_of_step? haccounts.sound hs
      have hunbroken : v.Unbroken →
          (v.onScan m scan).session.reason = none ∨
            (.finish ∉ (v.onScan m scan).ledger.enqueued ∧
              (v.onScan m scan).phase.isSettled = true ∧ (v.onScan m scan).phase ≠ .queued) := by
        intro hu
        refine (haccounts.unbroken hd hu).imp_right ?_
        intro hset
        exact ⟨hset.1, hset.2, hd.phase_ne_queued⟩
      rcases h with hnone | hcancelled | hset
      · exact (hunbroken (Or.inl hnone)).imp_right Or.inr
      · exact Or.inr (Or.inl (reason_of_step hv.coherent hcancelled hstep))
      · exact (hunbroken (Or.inr ⟨hset.1, hset.2.1⟩)).imp_right Or.inr
  | _ =>
      obtain ⟨hphase, -, hledger, -⟩ := phase_of_aside hv.coherent hv.started hstep nofun
      rcases reason_of_aside hv.coherent hv.started hstep nofun hmove with hsame | hcancelled
      · rw [Tame, hsame, hphase, hledger]
        exact h
      · exact Or.inr (Or.inl hcancelled)

/-- A session closed for another reason than a cancellation, under a scan that
will not enqueue its marker. -/
theorem Tame.finish_notMem (h : v.Tame) {reason : ClosureReason}
    (hr : v.session.reason = some reason) (hne : reason ≠ .cancelled) :
    .finish ∉ v.ledger.enqueued := by
  rcases h with hnone | hcancelled | hset
  · exact nomatch hr.symm.trans hnone
  · exact absurd (Option.some.inj (hr.symm.trans hcancelled)) hne
  · exact hset.1

/-- A session found closed before its scan was begun was cancelled. -/
theorem Tame.cancelled (h : v.Tame) (hp : v.phase = .queued) (hc : v.session.isClosed = true) :
    v.session.reason = some .cancelled := by
  rcases h with hnone | hcancelled | hset
  · rw [Session.isClosed_eq_isSome, hnone] at hc
    cases hc
  · exact hcancelled
  · exact absurd hp hset.2.2

end
end Invocation
end RowBridge
