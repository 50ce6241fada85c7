/-
# `RowBridge.Proofs.Schedule.Contexts` — either scheduler will do

The elastic scheduler puts a job on a thread at once.  A worker may look for a
closing before that, twice, and lets go of a job whose session it finds closed.
The consumer cannot tell: a job that is put on a thread all the same finds the
closing and ends at once.

    elastic scheduler    worker                         the job
    submitted            spawned, admitted, launching   waits in both
    submitted            concluding, leaving, ended     waits in both, and is closed
    running, reported    ended                          has ended at once; was dropped
    running              running                        is the same
    reported             concluding, leaving, ended     has ended, is the same

Related deployments have the same outcome, make the same actions, and either can
wait until it is where the other has come (`Matched`).  In all rows but one the
jobs are equal; in that one they are alike behind the veil.
-/
import RowBridge.Proofs.Schedule.Simulation
import RowBridge.Proofs.Stream.Ending
import RowBridge.Proofs.Stream.Veil

namespace RowBridge

open Schedule

variable {Row R : Type}

/-! ## A job that is not run -/

namespace Invocation

variable {v : Invocation Row R}

/-- A job that waits can be dropped; if its session is closed, it looks as if it
had been begun. -/
theorem Marked.drops (h : v.Marked) (hp : v.phase = .queued) (hc : v.session.isClosed = true) :
    ∃ w, v.step? (.scan .lose) = some w ∧ w.Marked ∧ w.phase = .discarded ∧
      (ScanJob.begin v).phase = .ended .ok ∧ (ScanJob.begin v).veiled = w.veiled := by
  have hphase : v.stream.scan.phase = .queued := hp
  have hclosed : v.stream.scan.session.isClosed = true := hc
  have hstep : v.step? (.scan .lose) = some (v.onScan .lose v.stream.scan.discard) := by
    show (v.stream.scan.step? .lose).map _ = _
    simp only [Scan.step?, Scan.isQueued, hphase]
    rfl
  have hbegun : v.stream.scan.begin = v.stream.scan.reportSkipped.finish .ok := by
    simp only [Scan.begin, hphase, hclosed]
    rfl
  refine ⟨_, hstep, h.step hstep, rfl, ?_, ?_⟩
  · show v.stream.scan.begin.phase = _
    rw [hbegun]
    rfl
  · have hscan := v.stream.scan.begin_veiled_of_isClosed hphase hclosed
    have hsession : v.stream.scan.begin.session = v.stream.scan.discard.session := by
      rw [hbegun]
      rfl
    show (⟨{ v.stream with scan := v.stream.scan.begin.veiled }, v.poll,
      (v.ledger.grow v.session v.stream.scan.begin.session).veiled, v.diary⟩ : Invocation Row R) = _
    rw [hscan, hsession]
    rfl

end Invocation

namespace Schedule

variable {id id' : String} {bounded : Bool}

/-! ## What a worker does by itself -/

/-- The job has not been put on a thread, nor turned back. -/
def SupervisorStage.isAhead : SupervisorStage → Bool
  | spawned | admitted | launching => true
  | _ => false

/-- There is nothing left to do with the job. -/
def SupervisorStage.isBehind : SupervisorStage → Bool
  | concluding _ | leaving | ended => true
  | _ => false

namespace Worker

variable {v : Invocation Row R} {stage : SupervisorStage} {failures : List TaskFailure}

/-- A job that waits goes on waiting, is turned back because its session is closed,
or is put on a thread. -/
theorem next?_of_isAhead (h : stage.isAhead = true) :
    (∃ stage', next? id bounded ⟨v, stage, failures⟩ = some ⟨v, stage', failures⟩ ∧
      (stage'.isAhead = true ∨ (v.session.isClosed = true ∧ stage'.isBehind = true))) ∨
    next? id bounded ⟨v, stage, failures⟩ = some ⟨ScanJob.begin v, .running, failures⟩ := by
  cases stage with
  | spawned =>
      refine Or.inl ⟨_, rfl, ?_⟩
      cases hback : bounded && v.session.isClosed with
      | true => exact Or.inr ⟨(Bool.and_eq_true_iff.mp hback).2, rfl⟩
      | false => exact Or.inl rfl
  | admitted =>
      refine Or.inl ⟨_, rfl, ?_⟩
      cases hclosed : v.session.isClosed with
      | true => exact Or.inr ⟨rfl, rfl⟩
      | false => exact Or.inl rfl
  | launching => exact Or.inr rfl
  | _ => cases h

/-- A supervisor with nothing left to do with its job leaves it as it is until it has
ended. -/
theorem next?_of_isBehind (h : stage.isBehind = true) :
    stage = .ended ∨ ∃ stage', next? id bounded ⟨v, stage, failures⟩ = some ⟨v, stage', failures⟩ ∧
      stage'.isBehind = true := by
  cases stage with
  | concluding final => exact Or.inr ⟨.leaving, rfl, rfl⟩
  | leaving => exact Or.inr ⟨.ended, rfl, rfl⟩
  | ended => exact Or.inl rfl
  | _ => cases h

/-- A supervisor with nothing left to do ends. -/
theorem waits_ended (h : stage.isBehind = true) :
    Deployment.Waits (solo id bounded) (.hosted ⟨v, stage, failures⟩)
      (.hosted ⟨v, .ended, failures⟩) := by
  have hleaves : Deployment.Waits (solo id bounded) (.hosted ⟨v, .leaving, failures⟩)
      (.hosted ⟨v, .ended, failures⟩) := .step rfl (.refl _)
  cases stage with
  | concluding final => exact .step rfl hleaves
  | leaving => exact hleaves
  | ended => exact .refl _
  | _ => cases h

/-- In the end the job is put on a thread, or is turned back because its session is
closed. -/
def Decides (id : String) (bounded : Bool) (v : Invocation Row R) (failures : List TaskFailure)
    (stage : SupervisorStage) : Prop :=
  Deployment.Waits (solo id bounded) (.hosted ⟨v, stage, failures⟩)
    (.hosted ⟨ScanJob.begin v, .running, failures⟩) ∨
  (v.session.isClosed = true ∧ Deployment.Waits (solo id bounded)
    (.hosted ⟨v, stage, failures⟩) (.hosted ⟨v, .ended, failures⟩))

theorem Decides.before {stage' : SupervisorStage} (h : Decides id bounded v failures stage')
    (hstep : (Deployment.hosted ⟨v, stage, failures⟩).step? (solo id bounded) .host =
      some (.hosted ⟨v, stage', failures⟩)) : Decides id bounded v failures stage :=
  h.imp (.step hstep) (And.imp_right (.step hstep))

theorem decides_of_isAhead (h : stage.isAhead = true) : Decides id bounded v failures stage := by
  have hlaunching : Decides id bounded v failures .launching := Or.inl (.step rfl (.refl _))
  have hback : v.session.isClosed = true → Decides id bounded v failures (.concluding .cancelled) :=
    fun hclosed => Or.inr ⟨hclosed, waits_ended rfl⟩
  have hadmitted : Decides id bounded v failures .admitted := by
    have hlooks : (Deployment.hosted ⟨v, .admitted, failures⟩).step? (solo id bounded) .host =
        some (.hosted ⟨v, if v.session.isClosed then .concluding .cancelled else .launching,
          failures⟩) := rfl
    cases hclosed : v.session.isClosed with
    | true => exact (hback hclosed).before (by rw [hlooks, hclosed]; rfl)
    | false => exact hlaunching.before (by rw [hlooks, hclosed]; rfl)
  cases stage with
  | spawned =>
      have hlooks : (Deployment.hosted ⟨v, .spawned, failures⟩).step? (solo id bounded) .host =
          some (.hosted ⟨v, if bounded && v.session.isClosed then .concluding .cancelled
            else .admitted, failures⟩) := rfl
      cases hfound : bounded && v.session.isClosed with
      | true =>
          exact (hback (Bool.and_eq_true_iff.mp hfound).2).before (by rw [hlooks, hfound]; rfl)
      | false => exact hadmitted.before (by rw [hlooks, hfound]; rfl)
  | admitted => exact hadmitted
  | launching => exact hlaunching
  | _ => cases h

/-- A supervisor that has ended lets go of a job that waits. -/
theorem step?_ended {w : Invocation Row R} (hlost : v.step? (.scan .lose) = some w) :
    (Deployment.hosted ⟨v, .ended, failures⟩).step? (solo id bounded) .host =
      some (.hosted ⟨w, .ended, failures⟩) := by
  show ((v.step? (.scan .lose)).map _).map _ = _
  rw [hlost]
  rfl

/-- A worker that is done with a job that is over rests. -/
theorem atRest_ended (hover : v.phase.isOver = true) :
    (Deployment.hosted ⟨v, .ended, failures⟩).AtRest (solo id bounded) := by
  have hnot : v.stream.scan.isQueued = false := by
    unfold Scan.isQueued
    split
    next hp => rw [show v.phase = .queued from hp] at hover; cases hover
    · rfl
  show (((v.stream.scan.step? .lose).map _).map _).map _ = _
  rw [Scan.step?, if_neg (hnot ▸ Bool.false_ne_true)]
  rfl

end Worker

/-! ## How far both have come -/

/-- The two schedulers have the same stream, and have come equally far with it. -/
inductive Matched (id id' : String) :
    Deployment Row R (Solo (Invocation Row R) ElasticStage) →
    Deployment Row R (Solo (Invocation Row R) SupervisorStage) → Prop
  | standing {v : Invocation Row R} : v.Coherent → v.Standing →
      Matched id id' (.standing v) (.standing v)
  | waiting {v : Invocation Row R} {stage : SupervisorStage} : v.Marked → v.phase = .queued →
      stage.isAhead = true → Matched id id' (.hosted ⟨v, .submitted, []⟩) (.hosted ⟨v, stage, []⟩)
  /-- The worker has found the session closed, the elastic scheduler has not looked. -/
  | turnedBack {v : Invocation Row R} {stage : SupervisorStage} : v.Marked →
      v.phase = .queued → v.session.isClosed = true → stage.isBehind = true →
      Matched id id' (.hosted ⟨v, .submitted, []⟩) (.hosted ⟨v, stage, []⟩)
  /-- Both have found the session closed. -/
  | notRun {v w : Invocation Row R} {stage : ElasticStage} : v.Marked → w.Marked →
      v.phase = .ended .ok → w.phase = .discarded → v.veiled = w.veiled → stage ≠ .submitted →
      Matched id id' (.hosted ⟨v, stage, []⟩) (.hosted ⟨w, .ended, []⟩)
  | running {v : Invocation Row R} : v.Marked →
      Matched id id' (.hosted ⟨v, .running, []⟩) (.hosted ⟨v, .running, []⟩)
  | judged {v : Invocation Row R} {ending : Ending} {stage : SupervisorStage} : v.Marked →
      v.phase = .ended ending → stage.isBehind = true →
      Matched id id' (.hosted ⟨v, .reported, told id v ending⟩)
        (.hosted ⟨v, stage, told id' v ending⟩)

section
variable {d d' : Deployment Row R (Solo (Invocation Row R) ElasticStage)}
  {e e' : Deployment Row R (Solo (Invocation Row R) SupervisorStage)} {action : Action Row}

/-- What has been reported is the same but for the name of the task. -/
theorem Matched.outcome_eq (h : Matched id id' d e) :
    d.outcome? (Elastic.solo id) = e.outcome? (Worker.solo id' bounded) := by
  cases h with
  | @notRun v w stage _ _ _ _ hveiled =>
      show some (Outcome.mk v.diary v.session.reason v.stream.scan.scans v.stream.scan.mapped []) =
        some (Outcome.mk w.diary w.session.reason w.stream.scan.scans w.stream.scan.mapped [])
      rw [Invocation.diary_eq_of_veiled hveiled, Invocation.session_eq_of_veiled hveiled,
        Invocation.scans_eq_of_veiled hveiled, Invocation.mapped_eq_of_veiled hveiled]
  | @judged v ending stage =>
      have hreported : ∀ id : String, (told id v ending).map (fun failure =>
          (failure.statement, failure.error)) = ((failure? ending).map fun failure =>
            (ScanJob.statement v, failure)).toList := by
        intro id
        rw [told]
        cases failure? ending <;> rfl
      show some (Outcome.mk v.diary v.session.reason v.stream.scan.scans v.stream.scan.mapped
        ((told id v ending).map _)) = some (Outcome.mk _ _ _ _ ((told id' v ending).map _))
      rw [hreported, hreported]
  | _ => rfl

/-- A job that both have is the same after an action. -/
theorem matched_of_act {v : Invocation Row R} {stage : ElasticStage} {stage' : SupervisorStage}
    {failures failures' : List TaskFailure}
    (hnext : ∀ v', v.act? action.move = some v' →
      Matched id id' (.hosted ⟨v', stage, failures⟩) (.hosted ⟨v', stage', failures'⟩)) :
    Option.Rel (Matched id id')
      ((Deployment.hosted ⟨v, stage, failures⟩).step? (Elastic.solo id) (.act action))
      ((Deployment.hosted ⟨v, stage', failures'⟩).step? (Worker.solo id' bounded)
        (.act action)) := by
  rw [action.act?_move] at hnext
  show Option.Rel _ ((v.step? action.move).map _) ((v.step? action.move).map _)
  cases hstep : v.step? action.move with
  | none => exact .none
  | some v' => exact .some (hnext v' hstep)

/-- The same action is possible in both, or in neither. -/
theorem Matched.act (h : Matched id id' d e) :
    Option.Rel (Matched id id') (d.step? (Elastic.solo id) (.act action))
      (e.step? (Worker.solo id' bounded) (.act action)) := by
  cases h with
  | @standing v hv hstands =>
      show Option.Rel _ ((v.step? action.move).map _) ((v.step? action.move).map _)
      cases hstep : v.step? action.move with
      | none => exact .none
      | some v' =>
          refine .some ?_
          unfold Deployment.afterAction
          rcases hstands.step_cases hv hstep with ⟨hq, hp, hmarked⟩ | ⟨hq, hstands'⟩
          · rw [if_pos hq, if_pos hq]
            exact .waiting hmarked hp rfl
          · rw [if_neg (hq ▸ Bool.false_ne_true), if_neg (hq ▸ Bool.false_ne_true)]
            exact .standing (hv.step hstep) hstands'
  | waiting hv hp hstage =>
      refine matched_of_act ?_
      intro v' hact
      obtain ⟨hv', hphase, -⟩ := hv.act hact
      exact .waiting hv' ((hphase (Or.inl hp)).trans hp) hstage
  | turnedBack hv hp hclosed hstage =>
      refine matched_of_act ?_
      intro v' hact
      obtain ⟨hv', hphase, -⟩ := hv.act hact
      obtain ⟨hstep, -⟩ := Invocation.step?_of_act? hact
      have hclosed' := Invocation.isClosed_of_step hv.coherent hclosed hstep
      exact .turnedBack hv' ((hphase (Or.inl hp)).trans hp) hclosed' hstage
  | @notRun v w stage hv hw hp hp' hveiled hstage =>
      have hboth := Invocation.step?_veiled_congr hveiled (rfl : action.move.veiled = _)
      show Option.Rel _ ((v.step? action.move).map _) ((w.step? action.move).map _)
      generalize hnext : v.step? action.move = next, hnext' : w.step? action.move = next' at hboth
      cases hboth with
      | none => exact .none
      | some hveiled' =>
          refine .some (.notRun (hv.step hnext) (hw.step hnext') ?_ ?_ hveiled' hstage)
          · exact (hv.phase_of_over (by rw [hp]; rfl) hnext).trans hp
          · exact (hw.phase_of_over (by rw [hp']; rfl) hnext').trans hp'
  | running hv =>
      refine matched_of_act ?_
      intro v' hact
      exact .running (hv.act hact).1
  | @judged v ending stage hv hp hstage =>
      refine matched_of_act ?_
      intro v' hact
      obtain ⟨hv', hphase, -⟩ := hv.act hact
      obtain ⟨hstep, -⟩ := Invocation.step?_of_act? hact
      have hplan := Invocation.plan_eq_of_step hv.coherent hstep
      rw [← told_eq hplan ending, ← told_eq hplan ending]
      exact .judged hv' ((hphase (Or.inr ⟨ending, hp⟩)).trans hp) hstage

variable (id id') in
/-- A job whose session is closed, begun by the one and dropped by the other. -/
theorem matched_notRun {v : Invocation Row R} (hv : v.Marked) (hp : v.phase = .queued)
    (hclosed : v.session.isClosed = true) : ∃ w, v.step? (.scan .lose) = some w ∧
      Matched id id' (.hosted ⟨ScanJob.begin v, .running, []⟩) (.hosted ⟨w, .ended, []⟩) := by
  obtain ⟨w, hlost, hw, hp', hended, hveiled⟩ := hv.drops hp hclosed
  exact ⟨w, hlost, .notRun (hv.begin hp).2 hw hended hp' hveiled nofun⟩

/-- Nothing is reported about a job that ended well. -/
theorem Elastic.step?_endedWell {v : Invocation Row R} (hp : v.phase = .ended .ok) :
    (Deployment.hosted ⟨v, .running, []⟩).step? (Elastic.solo id) .host =
      some (.hosted ⟨v, .reported, []⟩) := by
  show ((ScanJob.ending? v).map _).map _ = _
  rw [Service.ending?_of_phase hp]
  rfl

variable (id id' bounded) in
/-- Both take up the end of a job that they have put on a thread, and only that. -/
theorem matched_running {v : Invocation Row R} (hv : v.Marked) :
    Option.Rel (Matched id id')
      ((Deployment.hosted ⟨v, .running, []⟩).step? (Elastic.solo id) .host)
      ((Deployment.hosted ⟨v, .running, []⟩).step? (Worker.solo id' bounded) .host) := by
  show Option.Rel _ (((ScanJob.ending? v).map _).map _) (((ScanJob.ending? v).map _).map _)
  cases hending : ScanJob.ending? v with
  | none => exact .none
  | some ending =>
      have hp := Service.phase_of_ending? hending
      refine .some ?_
      cases ending with
      | raised text => exact .judged (hv.close _) hp rfl
      | _ => exact .judged hv hp rfl

/-- Whatever the elastic scheduler does, the worker comes to have done. -/
theorem Matched.host (h : Matched id id' d e) (hstep : d.step? (Elastic.solo id) .host = some d') :
    ∃ e', Deployment.Waits (Worker.solo id' bounded) e e' ∧ Matched id id' d' e' := by
  cases h with
  | standing => cases hstep
  | judged => cases hstep
  | @waiting v stage hv hp hstage =>
      cases hstep
      rcases Worker.decides_of_isAhead hstage with hwaits | ⟨hclosed, hwaits⟩
      · exact ⟨_, hwaits, .running (hv.begin hp).2⟩
      · -- the worker turns back the job that the elastic scheduler has begun in vain
        obtain ⟨w, hlost, hw⟩ := matched_notRun id id' hv hp hclosed
        exact ⟨_, hwaits.trans (.step (Worker.step?_ended hlost) (.refl _)), hw⟩
  | @turnedBack v stage hv hp hclosed hstage =>
      cases hstep
      obtain ⟨w, hlost, hw⟩ := matched_notRun id id' hv hp hclosed
      refine ⟨_, ?_, hw⟩
      exact (Worker.waits_ended hstage).trans (.step (Worker.step?_ended hlost) (.refl _))
  | @notRun v w stage hv hw hp hp' hveiled hstage =>
      cases stage with
      | submitted => exact absurd rfl hstage
      | reported => cases hstep
      | running =>
          cases hstep.symm.trans (Elastic.step?_endedWell hp)
          exact ⟨_, .refl _, .notRun hv hw hp hp' hveiled nofun⟩
  | @running v hv =>
      obtain ⟨e', hnext, hmatched⟩ := exists_of_rel_left (matched_running id id' bounded hv) hstep
      exact ⟨e', .step hnext (.refl e'), hmatched⟩

/-- Whatever the worker does, the elastic scheduler comes to have done. -/
theorem Matched.host_symm (h : Matched id id' d e)
    (hstep : e.step? (Worker.solo id' bounded) .host = some e') :
    ∃ d', Deployment.Waits (Elastic.solo id) d d' ∧ Matched id id' d' e' := by
  cases h with
  | standing => cases hstep
  | @waiting v stage hv hp hstage =>
      obtain ⟨q, hnext, rfl⟩ := Option.map_eq_some_iff.mp hstep
      rcases Worker.next?_of_isAhead hstage with ⟨stage', hgoesOn, hstage'⟩ | hbegun
      · cases hnext.symm.trans hgoesOn
        rcases hstage' with hahead | ⟨hclosed, hbehind⟩
        · exact ⟨_, .refl _, .waiting hv hp hahead⟩
        · exact ⟨_, .refl _, .turnedBack hv hp hclosed hbehind⟩
      · cases hnext.symm.trans hbegun
        exact ⟨_, .step rfl (.refl _), .running (hv.begin hp).2⟩
  | @turnedBack v stage hv hp hclosed hstage =>
      rcases Worker.next?_of_isBehind hstage with rfl | ⟨stage', hgoesOn, hbehind⟩
      · obtain ⟨w, hlost, hw⟩ := matched_notRun id id' hv hp hclosed
        cases hstep.symm.trans (Worker.step?_ended hlost)
        exact ⟨_, .step rfl (.refl _), hw⟩
      · cases hstep.symm.trans (congrArg (Option.map _) hgoesOn)
        exact ⟨_, .refl _, .turnedBack hv hp hclosed hbehind⟩
  | @notRun v w stage hv hw hp hp' hveiled hstage =>
      have hover : w.phase.isOver = true := by rw [hp']; rfl
      exact nomatch hstep.symm.trans (Worker.atRest_ended hover)
  | @running v hv =>
      obtain ⟨d', hnext, hmatched⟩ := exists_of_rel_right (matched_running id id' bounded hv) hstep
      exact ⟨d', .step hnext (.refl d'), hmatched⟩
  | @judged v ending stage hv hp hstage =>
      rcases Worker.next?_of_isBehind hstage with rfl | ⟨stage', hgoesOn, hbehind⟩
      · have hover : v.phase.isOver = true := by rw [hp]; rfl
        exact nomatch hstep.symm.trans (Worker.atRest_ended hover)
      · cases hstep.symm.trans (congrArg (Option.map _) hgoesOn)
        exact ⟨_, .refl _, .judged hv hp hbehind⟩

/-- When the elastic scheduler rests, the worker can come to rest. -/
theorem Matched.rest (h : Matched id id' d e) (hrest : d.AtRest (Elastic.solo id)) :
    ∃ e', Deployment.Waits (Worker.solo id' bounded) e e' ∧ Matched id id' d e' ∧
      e'.AtRest (Worker.solo id' bounded) := by
  cases h with
  | standing hv hstands => exact ⟨_, .refl _, .standing hv hstands, rfl⟩
  | waiting => cases hrest
  | turnedBack => cases hrest
  | @notRun v w stage hv hw hp hp' hveiled hstage =>
      have hover : w.phase.isOver = true := by rw [hp']; rfl
      exact ⟨_, .refl _, .notRun hv hw hp hp' hveiled hstage, Worker.atRest_ended hover⟩
  | @running v hv =>
      have hrest' := (none_iff_of_rel (matched_running id id' bounded hv)).mp hrest
      exact ⟨_, .refl _, .running hv, hrest'⟩
  | @judged v ending stage hv hp hstage =>
      have hover : v.phase.isOver = true := by rw [hp]; rfl
      exact ⟨_, Worker.waits_ended hstage, .judged hv hp rfl, Worker.atRest_ended hover⟩

/-- When the worker rests, the elastic scheduler can come to rest. -/
theorem Matched.rest_symm (h : Matched id id' d e) (hrest : e.AtRest (Worker.solo id' bounded)) :
    ∃ d', Deployment.Waits (Elastic.solo id) d d' ∧ Matched id id' d' e ∧
      d'.AtRest (Elastic.solo id) := by
  cases h with
  | standing hv hstands => exact ⟨_, .refl _, .standing hv hstands, rfl⟩
  | @waiting v stage hv hp hstage =>
      have hnone := Option.map_eq_none_iff.mp hrest
      rcases Worker.next?_of_isAhead hstage with ⟨stage', hgoesOn, -⟩ | hbegun
      · exact nomatch hnone.symm.trans hgoesOn
      · exact nomatch hnone.symm.trans hbegun
  | @turnedBack v stage hv hp hclosed hstage =>
      rcases Worker.next?_of_isBehind hstage with rfl | ⟨stage', hgoesOn, -⟩
      · obtain ⟨w, hlost, -⟩ := hv.drops hp hclosed
        exact nomatch (Worker.step?_ended hlost).symm.trans hrest
      · exact nomatch (Option.map_eq_none_iff.mp hrest).symm.trans hgoesOn
  | @notRun v w stage hv hw hp hp' hveiled hstage =>
      cases stage with
      | submitted => exact absurd rfl hstage
      | running =>
          exact ⟨_, .step (Elastic.step?_endedWell hp) (.refl _),
            .notRun hv hw hp hp' hveiled nofun, rfl⟩
      | reported => exact ⟨_, .refl _, .notRun hv hw hp hp' hveiled nofun, rfl⟩
  | @running v hv =>
      have hrest' := (none_iff_of_rel (matched_running id id' bounded hv)).mpr hrest
      exact ⟨_, .refl _, .running hv, hrest'⟩
  | judged hv hp hstage => exact ⟨_, .refl _, .judged hv hp hstage, rfl⟩

end

section
variable (id id') (bounded)

/-- The worker can do whatever the elastic scheduler can. -/
theorem matched_simulates : Simulates (Elastic.solo (J := Invocation Row R) id)
    (Worker.solo id' bounded) (Matched id id') where
  outcome h := h.outcome_eq
  act h hstep := exists_of_rel_left h.act hstep
  host h hstep := h.host hstep
  rest h hrest := h.rest hrest

/-- The elastic scheduler can do whatever the worker can. -/
theorem matched_simulates_symm : Simulates (Worker.solo id' bounded)
    (Elastic.solo (J := Invocation Row R) id) fun e d => Matched id id' d e where
  outcome h := h.outcome_eq.symm
  act h hstep := exists_of_rel_right h.act hstep
  host h hstep := h.host_symm hstep
  rest h hrest := h.rest_symm hrest

/-- The elastic scheduler comes to rest by itself. -/
theorem Elastic.waits_atRest (d : Deployment Row R (Solo (Invocation Row R) ElasticStage)) :
    ∃ d' outcome, Deployment.Waits (Elastic.solo id) d d' ∧ d'.AtRest (Elastic.solo id) ∧
      d'.outcome? (Elastic.solo id) = some outcome := by
  have hrunning : ∀ (v : Invocation Row R) (failures : List TaskFailure), ∃ d' outcome,
      Deployment.Waits (Elastic.solo id) (.hosted ⟨v, .running, failures⟩) d' ∧
        d'.AtRest (Elastic.solo id) ∧ d'.outcome? (Elastic.solo id) = some outcome := by
    intro v failures
    cases hending : ScanJob.ending? v with
    | none =>
        refine ⟨_, _, .refl _, ?_, rfl⟩
        show ((ScanJob.ending? v).map _).map _ = none
        rw [hending]
        rfl
    | some ending =>
        refine ⟨.hosted ⟨closeAfter v ending, .reported, failures ++ told id v ending⟩, _,
          .step ?_ (.refl _), rfl, rfl⟩
        show ((ScanJob.ending? v).map _).map _ = some _
        rw [hending]
        rfl
  cases d with
  | standing v => exact ⟨_, _, .refl _, rfl, rfl⟩
  | hosted p =>
      obtain ⟨v, stage, failures⟩ := p
      cases stage with
      | submitted =>
          obtain ⟨d', outcome, hwaits, hrest⟩ := hrunning (ScanJob.begin v) failures
          exact ⟨d', outcome, .step rfl hwaits, hrest⟩
      | running => exact hrunning v failures
      | reported => exact ⟨_, _, .refl _, rfl, rfl⟩

end

/-! ## Either will do -/

section
variable {plan : ScanPlan Row R} {capacity : Nat} {stream : RowStream Row R}
  {settings : WorkerSettings}

/-- A stream that the elastic scheduler serves, with a failure hook, and one that a
worker serves that nobody has used before, with room for one running job at least
and neither cancelled nor shut down.  Whatever the consumer, the source and the
clock do, in whatever order, and however late the schedulers are:

* an outcome (what the polls gave, the reason of the closing, how often source and
  mapper were called, which failures were reported) that one of them can have, the
  other can have, at the same pace;
* if both are prompt, they have the same outcome;
* a script that can be played at all can be played until the scheduler rests, with an
  outcome that both can have. -/
theorem contexts_interchangeable (hopen : RowStream.open? plan capacity = .ok stream)
    (hlimit : settings.limit ≠ some 0) (script : List (Action Row)) :
    (∀ pace outcome, Yields (elastic id) pace stream script outcome ↔
      Yields (worker id' settings) pace stream script outcome) ∧
    (∀ outcome outcome', Yields (elastic id) .prompt stream script outcome →
      Yields (worker id' settings) .prompt stream script outcome' → outcome = outcome') ∧
    ∀ outcome, Yields (elastic id) .anyhow stream script outcome →
      ∃ outcome', Yields (elastic id) .settled stream script outcome' ∧
        Yields (worker id' settings) .settled stream script outcome' := by
  have helastic := mirrors_elastic (J := Invocation Row R) id
  have hworker : Mirrors (worker (R := R) id' settings)
      (Worker.solo (R := R) id' settings.limit.isSome)
      (Worker.Holds (J := Invocation Row R) id' settings) := mirrors_worker hlimit
  have hstart : Matched id id' (.standing (.start stream)) (.standing (.start stream)) :=
    .standing (Invocation.coherent_start hopen) (Invocation.standing_start hopen)
  have hsame : ∀ pace outcome, Yields (elastic id) pace stream script outcome ↔
      Yields (worker id' settings) pace stream script outcome := by
    intro pace outcome
    rw [helastic.yields_iff, hworker.yields_iff]
    constructor
    · exact (matched_simulates id id' _).yields hstart
    · exact (matched_simulates_symm id id' _).yields hstart
  refine ⟨hsame, ?_, ?_⟩
  · intro outcome outcome' h h'
    exact h.unique ((hsame _ _).mpr h')
  · intro outcome h
    obtain ⟨outcome', h'⟩ := (helastic.yields_iff.mp h).settle (Elastic.waits_atRest id)
    have hsettled := helastic.yields_iff.mpr h'
    exact ⟨outcome', hsettled, (hsame _ _).mp hsettled⟩

end

def oneAtATime : WorkerSettings := ⟨some 1, .ofMillis 10, false⟩

/-- The source fails while the first poll waits. -/
def failsWhilePolled : List (Action Nat) :=
  [.beginPoll, .poll true, .poll true,
    .conclude (.failed (.plain .queryFailed "division by zero")), .advance false, .poll true]

/-- The poll is told of the closing; what went wrong is reported. -/
def closedForFailure : Outcome Nat where
  diary := [.told (.failed (.closed .sourceFailure))]
  reason := some .sourceFailure
  scans := 1
  mapped := 0
  failures := [("SELECT n", ⟨.queryFailed, "division by zero", some "SELECT n"⟩)]

theorem contexts_interchangeable_of_broken_query :
    RowStream.open? Invocation.doubling 1 = .ok (.fresh Invocation.doubling (.fresh 1)) ∧
      oneAtATime.limit ≠ some 0 ∧
      Yields (worker "task" oneAtATime) .prompt (.fresh Invocation.doubling (.fresh 1))
        failsWhilePolled closedForFailure := by
  have hlimit : oneAtATime.limit ≠ some 0 := by decide
  obtain ⟨hsame, -⟩ := @contexts_interchangeable _ _ "scan" "task" Invocation.doubling 1
    (.fresh Invocation.doubling (.fresh 1)) oneAtATime rfl hlimit failsWhilePolled
  refine ⟨rfl, hlimit, (hsame .prompt closedForFailure).mp ?_⟩
  -- the elastic scheduler puts the job on a thread, and takes up its end
  refine ⟨[.act .beginPoll, .act (.poll true), .act (.poll true), .host,
    .act (.conclude (.failed (.plain .queryFailed "division by zero"))), .act (.advance false),
    .host, .act (.poll true)], _, rfl, rfl, ⟨rfl, ?_⟩, rfl⟩
  exact ⟨rfl, rfl, rfl, trivial, rfl, rfl, trivial, rfl, trivial⟩

end Schedule
end RowBridge
