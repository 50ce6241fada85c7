/-
# `RowBridge.Proofs.Stream.Rejected` — a stream whose scan is turned away

A scheduler that takes on no more scans cancels the session of a scan that it is
given, and drops it.  The stream learns of this from the closer, at which it looks
right after it has handed the scan over, in the same poll:

    moment     session                       scan
    entering   open, or closed for a reason  not handed over
    starting   open when it was looked at    not handed over
    checking   closed                        dropped
    done       closed, and the reason given  dropped

Others may close the session at any of these moments.  The reason that is given
is always the one that is recorded (`Refused`), so it is that of the first
closing, or a cancellation (`first_poll_rejected`).

A scan is run when its scheduler begins it.  One that was dropped, or that still
waits for its scheduler, has never been run (`Unrun`).
-/
import RowBridge.Proofs.Stream.Draining

namespace RowBridge

variable {Row R : Type}

/-! ## Scans that nobody began -/

/-- Nobody has begun the scan. -/
def ScanPhase.isUnbegun : ScanPhase Row R → Bool
  | deferred | queued | discarded => true
  | _ => false

/-- A move after which nobody has begun the scan runs nothing. -/
theorem Scan.Does.unbegun {s s' : Scan Row R} {move : ScanMove Row} (hd : s.Does move s')
    (h : s'.phase.isUnbegun = true) : s.phase.isUnbegun = true ∧ s'.scans = s.scans := by
  cases hd with
  | vanishes hp => rw [hp]; exact ⟨rfl, rfl⟩
  | turnsAway hp => rw [show _ = _ from hp] at h; cases h
  | settles => rw [Scan.settleRow_phase] at h; cases h
  | completes => rw [Scan.settleFinish_phase] at h; cases h
  | closes => rw [Scan.settleFailure_phase] at h; cases h
  | _ => cases h

namespace RowStream

@[simp] theorem abandonStart_scans (st : RowStream Row R) :
    st.abandonStart.scan.scans = st.scan.scans := by
  unfold abandonStart
  split <;> rfl

@[simp] theorem handOver_scans (st : RowStream Row R) (reception : Reception) :
    (st.handOver reception).scan.scans = st.scan.scans := by
  cases reception <;> rfl

end RowStream

theorem PollStage.Gives.scans_eq {runtime : Bool} {reception : Reception}
    {st st' : RowStream Row R} {stage stage' : PollStage R}
    (h : stage.Gives runtime reception st st' stage') : st'.scan.scans = st.scan.scans := by
  cases h with
  | turnsBack => exact (st.withSession st.session.hush).abandonStart_scans
  | strands => exact (st.close .sourceFailure).abandonStart_scans
  | handsOver => exact st.handOver_scans reception
  | _ => rfl

namespace Invocation

/-- A scan that nobody began has not been run. -/
def Unrun (v : Invocation Row R) : Prop :=
  v.phase.isUnbegun = true → v.stream.scan.scans = 0

section
variable {v v' : Invocation Row R} {move : Move Row}

theorem scans_eq_of_aside (hv : v.Coherent) (hstep : v.step? move = some v')
    (haside : ∀ m, move ≠ .scan m) : v'.stream.scan.scans = v.stream.scan.scans := by
  cases move with
  | pass => cases hstep; rfl
  | beginPoll =>
      obtain ⟨-, ⟨⟩⟩ := Option.ite_none_right_eq_some.mp hstep
      rfl
  | poll runtime reception =>
      obtain ⟨stage, hp, rfl⟩ := Option.map_eq_some_iff.mp hstep
      obtain ⟨stream, stage', hg, heq⟩ := advance_eq hv hp runtime reception
      rw [heq, goOn_stream]
      exact hg.scans_eq
  | scan m => exact absurd rfl (haside m)
  | close reason => cases hstep; rfl
  | cancel =>
      obtain ⟨-, ⟨⟩⟩ := Option.ite_none_right_eq_some.mp hstep
      exact (v.stream.withSession v.session.cancel).abandonStart_scans
  | drop =>
      obtain ⟨-, ⟨⟩⟩ := Option.ite_none_right_eq_some.mp hstep
      exact (v.stream.withSession v.session.dropConsumer).abandonStart_scans

theorem Unrun.step (h : v.Unrun) (hv : v.Coherent) (hstep : v.step? move = some v') :
    v'.Unrun := by
  intro hunbegun
  cases move with
  | scan m =>
      obtain ⟨scan, hs, rfl⟩ := Option.map_eq_some_iff.mp hstep
      obtain ⟨hbefore, hsame⟩ :=
        (Scan.does_of_step? hv.kept.accounts.sound hs).unbegun hunbegun
      exact hsame.trans (h hbefore)
  | _ =>
      rw [scans_eq_of_aside hv hstep nofun]
      refine h ?_
      cases hs : v.stream.started with
      | true =>
          have hphase := (phase_of_aside hv hs hstep nofun).1
          exact hphase ▸ hunbegun
      | false =>
          rw [show v.phase = .deferred from hv.kept.deferred hs]
          rfl

end
end Invocation

/-! ## The first poll -/

namespace PollStage

/-- A first poll under way of a stream whose scan is going to be turned away, if
the session is not closed before. -/
inductive Refused (st : RowStream Row R) : PollStage R → Prop
  | enters : st.done = false → st.started = false → Refused st .entering
  | starts : st.done = false → st.started = false → Refused st .starting
  | checks {reason : ClosureReason} : st.done = false → st.started = true →
      st.scan.phase = .discarded → st.reason = some reason → Refused st .checking
  | ends {reason : ClosureReason} : st.started = true → st.scan.phase = .discarded →
      st.reason = some reason → Refused st (.done (.failed (.closed reason)))

section
variable {runtime : Bool} {reception : Reception} {st st' : RowStream Row R}
  {stage stage' : PollStage R}

/-- One moment; the reason is the one before, or a cancellation. -/
theorem Refused.gives (h : Refused st stage) (hg : stage.Gives runtime reception st st' stage')
    (hgiven : stage = .starting → runtime = true ∧ reception = .rejected) :
    Refused st' stage' ∧
      (st'.reason = st.reason ∨ (st.reason = none ∧ st'.reason = some .cancelled)) := by
  cases h with
  | enters hd hs =>
      cases hg with
      | overAgain hd' => exact absurd (hd.symm.trans hd') Bool.false_ne_true
      | turnsBack _ hr =>
          have hdropped : (st.withSession st.session.hush).abandonStart =
              { st.withSession st.session.hush with
                started := true, scan := (st.withSession st.session.hush).scan.discard } :=
            if_neg (by rw [show (st.withSession st.session.hush).started = false from hs]; nofun)
          rw [hdropped]
          have hsame : st.session.hush.dropProducer.reason = st.reason :=
            Session.dropProducer_reason _
          exact ⟨.ends rfl rfl (hsame.trans hr), Or.inl hsame⟩
      | goesToStart => exact ⟨.starts hd hs, Or.inl rfl⟩
      | goesToQueue _ _ hs' => exact absurd (hs.symm.trans hs') Bool.false_ne_true
      | stops hl => cases hl
  | starts hd hs =>
      obtain ⟨rfl, rfl⟩ := hgiven rfl
      cases hg with
      | strands hnone => cases hnone
      | handsOver =>
          have hr : (st.handOver .rejected).reason = some (st.reason.getD .cancelled) :=
            (Session.dropProducer_reason _).trans (Session.close_reason st.session .cancelled)
          refine ⟨.checks hd rfl rfl hr, ?_⟩
          cases hbefore : st.reason with
          | none => rw [hbefore] at hr; exact Or.inr ⟨rfl, hr⟩
          | some reason => rw [hbefore] at hr; exact Or.inl hr
      | stops hl => cases hl
  | checks hd hs hp hr =>
      cases hg with
      | goesOn ho => exact nomatch hr.symm.trans ho
      | stops _ hr' =>
          cases hr.symm.trans hr'
          exact ⟨.ends hs hp hr, Or.inl rfl⟩
  | ends => exact absurd hg.toGo_lt (Nat.not_lt_zero _)

/-- Whoever closes the session meanwhile. -/
theorem Refused.close (h : Refused st stage) (reason : ClosureReason) :
    Refused (st.close reason) stage := by
  have hr : (st.close reason).reason = some (st.reason.getD reason) :=
    Session.close_reason st.session reason
  cases h with
  | enters hd hs => exact .enters hd hs
  | starts hd hs => exact .starts hd hs
  | checks hd hs hp hbefore =>
      rw [hbefore] at hr
      exact .checks hd hs hp hr
  | ends hs hp hbefore =>
      rw [hbefore] at hr
      exact .ends hs hp hr

/-- The rest of such a poll, if nobody interrupts it, gives the reason that is
recorded, or that the session is cancelled. -/
theorem Refused.run_eq (h : Refused st stage) :
    (run true .rejected moments st stage).2 =
      done (.failed (.closed (st.reason.getD .cancelled))) := by
  obtain ⟨next, hnext, hrefused, hreason⟩ := exists_run_done true .rejected
    (P := fun u stage => Refused u stage ∧
      (u.reason = st.reason ∨ (st.reason = none ∧ u.reason = some .cancelled)))
    (fun hu hg => by
      obtain ⟨hrefused, hsame⟩ := hu.1.gives hg fun _ => ⟨rfl, rfl⟩
      refine ⟨hrefused, ?_⟩
      rcases hsame with hsame | ⟨hnone, hcancelled⟩
      · rw [hsame]
        exact hu.2
      · rcases hu.2 with hbefore | ⟨hnone', -⟩
        · exact Or.inr ⟨hbefore.symm.trans hnone, hcancelled⟩
        · exact Or.inr ⟨hnone', hcancelled⟩)
    ⟨h, Or.inl rfl⟩
  rw [hnext]
  cases hrefused with
  | ends _ _ hr =>
      rcases hreason with hsame | ⟨hnone, hcancelled⟩
      · rw [← hsame, hr]
        rfl
      · cases hr.symm.trans hcancelled
        rw [hnone]
        rfl

end
end PollStage

/-! ## Every schedule -/

namespace Invocation

/-- A first poll that hands its scan over does so inside a runtime, and to a
scheduler that receives it so. -/
def ReceivedAs (reception : Reception) (v : Invocation Row R) : Move Row → Prop
  | .poll runtime reception' =>
      v.poll = some .starting → runtime = true ∧ reception' = reception
  | _ => True

/-- The first poll of a stream since its diary was `before`: it is under way, or
its answer is in the diary. -/
inductive FirstPoll (before : List (Note R)) (v : Invocation Row R) : Prop
  | underWay {stage : PollStage R} : v.poll = some stage → stage.Refused v.stream →
      v.diary = before → FirstPoll before v
  | answered {reason : ClosureReason} : v.stream.started = true → v.phase = .discarded →
      v.session.reason = some reason →
      before ++ [.told (.failed (.closed reason))] <+: v.diary → FirstPoll before v

section
variable {v v' : Invocation Row R} {move : Move Row} {before : List (Note R)}
  {P : ClosureReason → Prop}

/-- No scheduler has the scan of such a stream. -/
theorem FirstPoll.standing (h : FirstPoll before v) (hv : v.Coherent) : v.Standing := by
  cases h with
  | @underWay stage hp hrefused =>
      cases hrefused with
      | enters _ hs => exact Or.inl (hv.kept.deferred hs)
      | starts _ hs => exact Or.inl (hv.kept.deferred hs)
      | checks _ _ hdiscarded => exact Or.inr hdiscarded
      | ends => exact (hv.midway _ hp).elim
  | answered _ hdiscarded => exact Or.inr hdiscarded

/-- Every move keeps it, and records no reasons but cancellations and those that
somebody closes with. -/
theorem FirstPoll.step (h : FirstPoll before v) (hv : v.Coherent)
    (hmove : v.ReceivedAs .rejected move) (hstep : v.step? move = some v') :
    FirstPoll before v' ∧ (v'.session.reason = v.session.reason ∨
      (v.session.reason = none ∧ ∃ reason, v'.session.reason = some reason ∧
        (reason = .cancelled ∨ move = .close reason))) := by
  have hstand := (h.standing hv).step?_scan hv
  cases h with
  | answered hs hp hr hnoted =>
      have hr' := reason_of_step hv hr hstep
      have hnoted' := hnoted.trans (diary_isPrefix hv hstep)
      refine ⟨?_, Or.inl (hr'.trans hr.symm)⟩
      cases move with
      | scan m => exact nomatch (hstand m).symm.trans hstep
      | _ =>
          obtain ⟨hphase, hs', -⟩ := phase_of_aside hv hs hstep nofun
          exact .answered hs' (hphase.trans hp) hr' hnoted'
  | underWay hp hrefused hdiary =>
      have hbusy : v.isFree = false := by simp [isFree, hp]
      cases move with
      | pass => cases hstep; exact ⟨.underWay hp hrefused hdiary, Or.inl rfl⟩
      | scan m => exact nomatch (hstand m).symm.trans hstep
      | close reason =>
          cases hstep
          refine ⟨.underWay hp (hrefused.close reason) hdiary, ?_⟩
          have hr : (v.session.close reason).reason = some (v.session.reason.getD reason) :=
            Session.close_reason v.session reason
          cases hbefore : v.session.reason with
          | none => rw [hbefore] at hr; exact Or.inr ⟨rfl, reason, hr, Or.inr rfl⟩
          | some recorded => rw [hbefore] at hr; exact Or.inl hr
      | poll runtime reception =>
          obtain ⟨stage, hstage, rfl⟩ := Option.map_eq_some_iff.mp hstep
          cases hp.symm.trans hstage
          obtain ⟨stream, stage', hg, heq⟩ := advance_eq hv hp runtime reception
          obtain ⟨hrefused', hreason⟩ := hrefused.gives hg fun hs => hmove (hs ▸ hp)
          rw [heq]
          refine ⟨?_, ?_⟩
          · cases stage' with
            | done next =>
                cases hrefused' with
                | ends hs hdiscarded hr =>
                    exact .answered hs hdiscarded hr (hdiary ▸ List.prefix_refl _)
            | _ => exact .underWay rfl hrefused' hdiary
          · rw [session, goOn_stream]
            refine hreason.imp_right ?_
            rintro ⟨hnone, hcancelled⟩
            exact ⟨hnone, .cancelled, hcancelled, Or.inl rfl⟩
      | _ =>
          obtain ⟨hf, -⟩ := Option.ite_none_right_eq_some.mp hstep
          exact absurd (hbusy.symm.trans hf) Bool.false_ne_true

/-- A closing that is recorded in the course of a first poll was recorded before,
or is a cancellation, or somebody's who closes the session. -/
theorem FirstPoll.recorded_of_play {u w : Invocation Row R} {later : List (Move Row)}
    (h : FirstPoll before u) (hu : u.Coherent)
    (halong : Along step? (ReceivedAs .rejected) u later) (hplay : play? step? u later = some w)
    {reason : ClosureReason} (hr : w.session.reason = some reason) :
    u.session.reason = some reason ∨
      (u.session.reason = none ∧ (reason = .cancelled ∨ .close reason ∈ later)) := by
  cases hbefore : u.session.reason with
  | some recorded => exact Or.inl ((reason_of_play hu hbefore hplay).symm.trans hr)
  | none =>
      obtain ⟨early, move, late, x, y, rfl, -, hstep, hmove, ⟨hx, hfirst⟩, hnot, hrecorded⟩ :=
        halong.exists_turn (I := fun v => v.Coherent ∧ FirstPoll before v)
          (P := fun v => v.session.reason = some reason)
          (fun hv hmove hstep => ⟨hv.1.step hstep, (hv.2.step hv.1 hmove hstep).1⟩) ⟨hu, h⟩ hplay
          (fun hsome => nomatch hbefore.symm.trans hsome) hr
      rcases (hfirst.step hx hmove hstep).2 with hsame | ⟨-, other, hother, hcase⟩
      · exact absurd (hsame.symm.trans hrecorded) hnot
      · cases hother.symm.trans hrecorded
        refine Or.inr ⟨rfl, hcase.imp_right ?_⟩
        rintro rfl
        exact List.mem_append_right _ List.mem_cons_self

/-- What has become of a stream by now whose first poll began at `v`, and whose
scan no scheduler took on. -/
structure TurnedAway (v : Invocation Row R) (later : List (Move Row)) (w : Invocation Row R) :
    Prop where
  unbegun : w.phase.isUnbegun = true
  unrun : w.stream.scan.scans = 0
  recorded : ∀ reason, w.session.reason = some reason → v.session.reason = some reason ∨
    (v.session.reason = none ∧ (reason = .cancelled ∨ .close reason ∈ later))
  /-- The poll is under way, and if nobody interrupts it gives the closing that is
  recorded, or that the session is cancelled; or it has given the closing, and
  what was given since is the end. -/
  answered : (w.diary = v.diary ∧ ∃ stage, w.poll = some stage ∧
      (stage.run true .rejected PollStage.moments w.stream).2 =
        .done (.failed (.closed (w.session.reason.getD .cancelled)))) ∨
    ∃ reason late, w.session.reason = some reason ∧
      w.diary = v.diary ++ .told (.failed (.closed reason)) :: late ∧
      ∀ note ∈ late, note.isEcho = true

theorem Standing.isUnbegun (h : v.Standing) : v.phase.isUnbegun = true := by
  rcases h with hp | hp <;> rw [hp] <;> rfl

/-- A stream that is polled for the first time, inside a runtime, when its
scheduler takes on no more scans. -/
theorem first_poll_rejected {plan : ScanPlan Row R} {capacity : Nat} {stream : RowStream Row R}
    {moves later : List (Move Row)} {u w : Invocation Row R}
    (hopen : RowStream.open? plan capacity = .ok stream)
    (hplay : play? step? (start stream) moves = some v) (hs : v.stream.started = false)
    (hd : v.stream.done = false) (hbegin : v.step? .beginPoll = some u)
    (halong : Along step? (ReceivedAs .rejected) u later) (hlater : play? step? u later = some w) :
    v.TurnedAway later w := by
  have hstart : (start stream).Coherent ∧ (start stream).Unrun := by
    refine ⟨coherent_start hopen, ?_⟩
    cases RowStream.eq_fresh_of_open? hopen
    exact fun _ => rfl
  have hunrun : ∀ {x y : Invocation Row R} {steps : List (Move Row)}, x.Coherent ∧ x.Unrun →
      play? step? x steps = some y → y.Coherent ∧ y.Unrun :=
    play?_preserves (P := fun x : Invocation Row R => x.Coherent ∧ x.Unrun)
      fun hx hstep => ⟨hx.1.step hstep, hx.2.step hx.1 hstep⟩
  obtain ⟨hv, horderly⟩ := orderly_of_play hopen hplay
  have hu : u.Coherent ∧ u.Unrun := by
    refine ⟨hv.step hbegin, ?_⟩
    exact (hunrun hstart hplay).2.step hv hbegin
  have horderly' := orderly_step horderly hv hbegin
  obtain ⟨-, ⟨⟩⟩ := Option.ite_none_right_eq_some.mp hbegin
  have hfirst : FirstPoll v.diary { v with poll := some (.entering : PollStage R) } :=
    .underWay rfl (.enters hd hs) rfl
  obtain ⟨hw, hlast, horderly''⟩ := halong.preserves
    (P := fun x => x.Coherent ∧ FirstPoll v.diary x ∧ Orderly x.stream.done x.diary)
    (fun hx hmove hstep => ⟨hx.1.step hstep, (hx.2.1.step hx.1 hmove hstep).1,
      orderly_step hx.2.2 hx.1 hstep⟩) ⟨hu.1, hfirst, horderly'⟩ hlater
  have hunbegun := (hlast.standing hw).isUnbegun
  refine ⟨hunbegun, (hunrun hu hlater).2 hunbegun, ?_, ?_⟩
  · intro reason hr
    exact hfirst.recorded_of_play hu.1 halong hlater hr
  · cases hlast with
    | underWay hp hrefused hdiary => exact Or.inl ⟨hdiary, _, hp, hrefused.run_eq⟩
    | answered _ _ hr hnoted =>
        obtain ⟨late, hlate⟩ := hnoted
        rw [List.append_assoc, List.singleton_append] at hlate
        refine Or.inr ⟨_, late, hr, hlate.symm, ?_⟩
        exact (hlate ▸ horderly'').isEcho_of_mem rfl

end
end Invocation
end RowBridge
