/-
# `RowBridge.Proofs.Schedule.Routing` — where a failure goes

With the elastic scheduler a failure has two readers.  The failure hook is told
what went wrong; the consumer is told the reason of the closing, and no more.

    what happened                          hook          consumer
    the source failed, not transiently,
      while the session was open           the failure   closed
    the source or the mapper gave up       the text      closed
    the source failed transiently                        closed
    the source failed after a closing                    closed
    the source returned                                  the end

The hook is called when the scheduler takes up the end of the job, which happens
once: what has been reported is settled by how far the scheduler has come and by
how the scan ended (`Fits`).  A failure with which a scan ends was returned by
its source in one of the turns before (`Coherent.fails_cases`).

That the consumer cannot tell two failures apart if both are transient or
neither is, is a statement about two runs: whatever is in front of the veil is
the same after the same turns (`Blurred`).
-/
import RowBridge.Proofs.Schedule.Deployment
import RowBridge.Proofs.Stream.Ending
import RowBridge.Proofs.Stream.Errors
import RowBridge.Proofs.Stream.Terminal
import RowBridge.Proofs.Stream.Veil

namespace RowBridge

open Schedule

variable {Row R : Type}

/-! ## Turns behind the veil -/

namespace Schedule

def Action.veiled : Action Row → Action Row
  | conclude ending => conclude ending.veiled
  | action => action

/-- Of a failure that the source returns, it is not told which one it is. -/
def Turn.veiled : Turn Row → Turn Row
  | act action => act action.veiled
  | host => host

theorem Action.move_veiled (action : Action Row) : action.move.veiled = action.veiled.move := by
  cases action <;> rfl

end Schedule

/-! ## The stream, wherever it is -/

/-- What holds of a stream with this plan, wherever its scan is. -/
structure Invocation.Sincere (plan : ScanPlan Row R) (v : Invocation Row R) : Prop where
  coherent : v.Coherent
  plan_eq : v.stream.scan.plan = plan
  orderly : Orderly v.stream.done v.diary
  plain : v.Plain

namespace Invocation

variable {plan : ScanPlan Row R} {v v' : Invocation Row R} {move : Move Row}

theorem sincere_start {capacity : Nat} {stream : RowStream Row R}
    (hopen : RowStream.open? plan capacity = .ok stream) : (start stream).Sincere plan := by
  refine ⟨coherent_start hopen, ?_, ?_, plain_start hopen⟩
  · cases RowStream.eq_fresh_of_open? hopen
    rfl
  · cases RowStream.eq_fresh_of_open? hopen
    exact .unended nofun

theorem Sincere.step (h : v.Sincere plan) (hstep : v.step? move = some v') : v'.Sincere plan where
  coherent := h.coherent.step hstep
  plan_eq := (plan_eq_of_step h.coherent hstep).trans h.plan_eq
  orderly := orderly_step h.orderly h.coherent hstep
  plain := h.plain.step h.coherent hstep

end Invocation

namespace Schedule

variable {id : String} {plan : ScanPlan Row R}

/-! ## What has been reported -/

namespace Elastic

/-- The job is where the scheduler believes it to be, and what has been reported
is what its end calls for. -/
structure Fits (id : String) (p : Solo (Invocation Row R) ElasticStage) : Prop where
  marked : p.job.Marked
  present : p.job.phase ≠ .discarded
  waits : p.stage = .submitted → p.job.phase = .queued
  silent : p.stage ≠ .reported → p.failures = []
  reported : p.stage = .reported →
    ∃ ending, p.job.phase = .ended ending ∧ p.failures = told id p.job ending

variable {p p' : Solo (Invocation Row R) ElasticStage}

theorem fits_take {v : Invocation Row R} (hv : v.Coherent) (hp : v.phase = .queued) :
    Fits id ⟨v, .submitted, []⟩ where
  marked := hv.marked hp
  present hp' := nomatch hp.symm.trans hp'
  waits _ := hp
  silent _ := rfl
  reported hs := nomatch hs

theorem Fits.act (h : Fits id p) {action : Action Row} {v : Invocation Row R}
    (hstep : p.job.step? action.move = some v) : Fits id { p with job := v } := by
  have hact := (action.act?_move p.job).trans hstep
  obtain ⟨hmarked, hphase, -⟩ := h.marked.act hact
  refine ⟨hmarked, ?_, ?_, h.silent, ?_⟩
  · exact h.marked.phase_ne_discarded h.present hstep (Invocation.step?_of_act? hact).2.2
  · intro hs
    exact (hphase (Or.inl (h.waits hs))).trans (h.waits hs)
  · intro hs
    obtain ⟨ending, hp, htold⟩ := h.reported hs
    refine ⟨ending, (hphase (Or.inr ⟨ending, hp⟩)).trans hp, htold.trans ?_⟩
    exact (told_eq (Invocation.plan_eq_of_step h.marked.coherent hstep) ending).symm

/-- A step of the scheduler, and what it is for the job. -/
theorem Fits.host (h : Fits id p) (hnext : Elastic.next? id p = some p') :
    Fits id p' ∧ ∃ move, Turn.host.Moves move ∧ p.job.step? move = some p'.job := by
  obtain ⟨job, stage, failures⟩ := p
  have hmarked : job.Marked := h.marked
  cases stage with
  | submitted =>
      cases hnext
      obtain ⟨hstep, hbegun⟩ := hmarked.begin (h.waits rfl)
      refine ⟨⟨hbegun, ?_, nofun, fun _ => h.silent nofun, nofun⟩, .scan .begin, Or.inl rfl, hstep⟩
      exact hmarked.phase_ne_discarded h.present hstep nofun
  | running =>
      obtain ⟨ending, hending, rfl⟩ := Option.map_eq_some_iff.mp hnext
      have hp := Service.phase_of_ending? hending
      have hnone : failures = [] := h.silent nofun
      subst hnone
      cases ending with
      | raised text =>
          refine ⟨⟨hmarked.close _, h.present, nofun, fun hs => absurd rfl hs, ?_⟩, ?_⟩
          · exact fun _ => ⟨.raised text, hp, rfl⟩
          · exact ⟨.close .sourceFailure, Or.inr (Or.inr (Or.inl rfl)), rfl⟩
      | _ =>
          refine ⟨⟨hmarked, h.present, nofun, fun hs => absurd rfl hs, ?_⟩, ?_⟩
          · exact fun _ => ⟨_, hp, rfl⟩
          · exact ⟨.pass, Or.inr (Or.inr (Or.inr rfl)), rfl⟩
  | reported => cases hnext

/-- The end of a job has been reported, or it is in the next step. -/
theorem Fits.paid_or_due (h : Fits id p) (hplan : p.job.stream.scan.plan = plan) {ending : Ending}
    (hp : p.job.phase = .ended ending) {error : ScanError} (hfailure : failure? ending = some error) :
    p.failures = [⟨id, plan.statement, error⟩] ∨
      ∃ p', next? id p = some p' ∧ p'.failures = [⟨id, plan.statement, error⟩] := by
  have htold : told id p.job ending = [⟨id, plan.statement, error⟩] := by
    rw [told, hfailure, ← hplan]
    rfl
  cases hstage : p.stage with
  | submitted =>
      have hboth := hp.symm.trans (h.waits hstage)
      cases hboth
  | running =>
      have hsilent : p.failures = [] := by
        refine h.silent ?_
        rw [hstage]
        intro hs
        cases hs
      have hending := Service.ending?_of_phase hp
      refine Or.inr ⟨_, by rw [next?, hstage, hending]; rfl, ?_⟩
      show p.failures ++ told id p.job ending = _
      rw [hsilent, htold]
      rfl
  | reported =>
      obtain ⟨other, hother, hreported⟩ := h.reported hstage
      cases hp.symm.trans hother
      exact Or.inl (hreported.trans htold)

/-- What holds of a stream with this plan before and after the elastic scheduler
has its scan. -/
inductive Routed (id : String) (plan : ScanPlan Row R) :
    Deployment Row R (Solo (Invocation Row R) ElasticStage) → Prop
  | standing {v : Invocation Row R} : v.Sincere plan → v.Standing → Routed id plan (.standing v)
  | hosted {p : Solo (Invocation Row R) ElasticStage} : p.job.Sincere plan → Fits id p →
      Routed id plan (.hosted p)

section
variable {d d' : Deployment Row R (Solo (Invocation Row R) ElasticStage)} {turn : Turn Row}

/-- Every turn keeps what holds, and is a move for the stream. -/
theorem Routed.step (h : Routed id plan d) (hstep : d.step? (solo id) turn = some d') :
    Routed id plan d' ∧ ∃ v v' move, d.job? (solo id) = some v ∧ d'.job? (solo id) = some v' ∧
      turn.Moves move ∧ v.step? move = some v' := by
  cases h with
  | @standing v hv hstands =>
      cases turn with
      | host => cases hstep
      | act action =>
          obtain ⟨v', hv', rfl⟩ := Option.map_eq_some_iff.mp hstep
          have hsincere := hv.step hv'
          unfold Deployment.afterAction
          rcases hstands.step_cases hv.coherent hv' with ⟨hq, hp, -⟩ | ⟨hq, hstands'⟩
          · rw [if_pos hq]
            exact ⟨.hosted hsincere (fits_take hsincere.coherent hp), v, v', _, rfl, rfl, rfl, hv'⟩
          · rw [if_neg (hq ▸ Bool.false_ne_true)]
            exact ⟨.standing hsincere hstands', v, v', _, rfl, rfl, rfl, hv'⟩
  | @hosted p hp hfits =>
      cases turn with
      | act action =>
          obtain ⟨v', hv', rfl⟩ := Option.map_eq_some_iff.mp hstep
          exact ⟨.hosted (hp.step hv') (hfits.act hv'), p.job, v', _, rfl, rfl, rfl, hv'⟩
      | host =>
          obtain ⟨p', hnext, rfl⟩ := Option.map_eq_some_iff.mp hstep
          obtain ⟨hfits', move, hmove, hv'⟩ := hfits.host hnext
          exact ⟨.hosted (hp.step hv') hfits', p.job, p'.job, move, rfl, rfl, hmove, hv'⟩

theorem Routed.exists_job (h : Routed id plan d) :
    ∃ v, d.job? (solo id) = some v ∧ v.Sincere plan := by
  cases h with
  | standing hv => exact ⟨_, rfl, hv⟩
  | hosted hp => exact ⟨_, rfl, hp⟩

/-- Something is reported about a scan that has ended with a failure, or has given
up, and nothing else is. -/
theorem Routed.failures_cases (h : Routed id plan d) :
    d.failures (solo id) = [] ∨ ∃ v ending error, d.job? (solo id) = some v ∧
      v.phase = .ended ending ∧ failure? ending = some error ∧
      d.failures (solo id) = [⟨id, plan.statement, error⟩] := by
  cases h with
  | standing => exact Or.inl rfl
  | @hosted p hp hfits =>
      by_cases hstage : p.stage = .reported
      · obtain ⟨ending, hended, htold⟩ := hfits.reported hstage
        cases hfailure : failure? ending with
        | none =>
            left
            show p.failures = []
            rw [htold, told, hfailure]
            rfl
        | some error =>
            refine Or.inr ⟨p.job, ending, error, rfl, hended, hfailure, ?_⟩
            show p.failures = _
            rw [htold, told, hfailure, ← hp.plan_eq]
            rfl
      · exact Or.inl (hfits.silent hstage)

/-! ## What provoked it -/

/-- The scan fails with this error. -/
def FailsIn (id : String) (error : ScanError)
    (d : Deployment Row R (Solo (Invocation Row R) ElasticStage)) : Prop :=
  ∃ v, d.job? (solo id) = some v ∧ v.phase.Fails v.stream.scan.plan.statement error

variable {error : ScanError}

/-- The turn with which a scan comes to fail: its source returns a failure. -/
theorem Routed.returns (h : Routed id plan d) (hstep : d.step? (solo id) turn = some d')
    (hbefore : ¬ FailsIn id error d) (hafter : FailsIn id error d') :
    ∃ failure v, turn = .act (.conclude (.failed failure)) ∧ d.job? (solo id) = some v ∧
      v.stream.scan.Returns failure error := by
  obtain ⟨-, v, v', move, hv, hv', hmove, hmoved⟩ := h.step hstep
  obtain ⟨w, hw, hsincere⟩ := h.exists_job
  cases hv.symm.trans hw
  obtain ⟨w', hw', hfails⟩ := hafter
  cases hv'.symm.trans hw'
  rcases hsincere.coherent.fails_cases hmoved hfails with hf | ⟨failure, rfl, hreturns⟩
  · exact absurd ⟨v, hv, hf⟩ hbefore
  · refine ⟨failure, v, ?_, hv, hreturns⟩
    cases turn with
    | act action => cases action <;> cases hmove; rfl
    | host => rcases hmove with hmove | hmove | hmove | hmove <;> cases hmove

theorem Routed.failsOn (h : Routed id plan d) (hf : FailsIn id error d)
    (hstep : d.step? (solo id) turn = some d') : FailsIn id error d' := by
  obtain ⟨-, v, v', move, hv, hv', -, hmoved⟩ := h.step hstep
  obtain ⟨w, hw, hfails⟩ := hf
  cases hv.symm.trans hw
  refine ⟨v', hv', ?_⟩
  cases h with
  | standing _ hstands =>
      cases hv
      rcases hstands with hp | hp
      · rw [hp] at hfails; cases hfails
      · rw [hp] at hfails; cases hfails
  | hosted _ hfits =>
      cases hv
      exact hfits.marked.failsOn hmoved hfails

/-! ## What is owed -/

/-- The error is the scan's result, or is about to be, and the hook is to be called
for it. -/
def Owes (id : String) (error : ScanError)
    (d : Deployment Row R (Solo (Invocation Row R) ElasticStage)) : Prop :=
  ∃ v, d.job? (solo id) = some v ∧ (v.phase.Fails v.stream.scan.plan.statement error ∨
    ∃ text, v.phase = .ended (.raised text) ∧ error = raisedFailure text)

/-- An error that is owed is the end of the scan, or the scan is about to close the
session for it. -/
theorem Routed.owes_cases (h : Routed id plan d) (howes : Owes id error d) :
    ∃ p, d = .hosted p ∧ p.job.Sincere plan ∧ Fits id p ∧
      ((∃ ending, p.job.phase = .ended ending ∧ failure? ending = some error) ∨
        ∃ failure, p.job.phase = .failing failure ∧
          Scan.resultOf plan.statement failure = .failed error) := by
  obtain ⟨v, hv, howes⟩ := howes
  cases h with
  | standing _ hstands =>
      cases hv
      have hnone : ∀ {phase : ScanPhase Row R}, phase = .deferred ∨ phase = .discarded →
          ¬ (phase.Fails v.stream.scan.plan.statement error ∨
            ∃ text, phase = .ended (.raised text) ∧ error = raisedFailure text) := by
        rintro _ (rfl | rfl) (hf | ⟨text, hp, -⟩)
        · cases hf
        · cases hp
        · cases hf
        · cases hp
      exact absurd howes (hnone hstands)
  | @hosted p hsincere hfits =>
      cases hv
      refine ⟨p, rfl, hsincere, hfits, ?_⟩
      rw [hsincere.plan_eq] at howes
      rcases howes with hf | ⟨text, hp, rfl⟩
      · cases hp : p.job.phase with
        | failing failure =>
            rw [hp] at hf
            exact Or.inr ⟨failure, rfl, Scan.resultOf_eq_failed.mpr hf⟩
        | ended result =>
            rw [hp] at hf
            cases hf
            exact Or.inl ⟨_, rfl, rfl⟩
        | _ => rw [hp] at hf; cases hf
      · exact Or.inl ⟨.raised text, hp, rfl⟩

/-- At rest, the hook has been called for what was owed. -/
theorem Routed.paid (h : Routed id plan d) (howes : Owes id error d) (hrest : d.AtRest (solo id))
    (hidle : ∀ v, d.job? (solo id) = some v → v.stream.scan.move? false = none) :
    d.failures (solo id) = [⟨id, plan.statement, error⟩] := by
  obtain ⟨p, rfl, hsincere, hfits, ⟨ending, hp, hfailure⟩ | ⟨failure, hp, -⟩⟩ := h.owes_cases howes
  · refine (hfits.paid_or_due hsincere.plan_eq hp hfailure).resolve_right ?_
    rintro ⟨p', hnext, -⟩
    have hnone : next? id p = none := Option.map_eq_none_iff.mp hrest
    exact nomatch hnone.symm.trans hnext
  · have hnone := hidle p.job rfl
    rw [Scan.move?, show p.job.stream.scan.phase = .failing failure from hp] at hnone
    cases hnone

/-- A step of the scan at the most, and then one of the scheduler. -/
theorem Routed.due (h : Routed id plan d) (howes : Owes id error d) :
    ∃ due d', (due = [] ∨ due = [.host] ∨ due = [.act (.advance false), .host]) ∧
      play? (Deployment.step? (solo id)) d due = some d' ∧
      d'.failures (solo id) = [⟨id, plan.statement, error⟩] := by
  obtain ⟨p, rfl, hsincere, hfits, ⟨ending, hp, hfailure⟩ | ⟨failure, hp, hresult⟩⟩ :=
    h.owes_cases howes
  · rcases hfits.paid_or_due hsincere.plan_eq hp hfailure with hpaid | ⟨p', hnext, hpaid⟩
    · exact ⟨[], _, Or.inl rfl, rfl, hpaid⟩
    · refine ⟨[.host], .hosted p', Or.inr (Or.inl rfl), ?_, hpaid⟩
      show ((next? id p).map Deployment.hosted).bind _ = _
      rw [hnext]
      rfl
  · have hadvance : p.job.stream.scan.step? (.advance false) =
        some (p.job.stream.scan.settleFailure failure) := by
      have hphase : p.job.stream.scan.phase = .failing failure := hp
      simp [Scan.step?, Scan.advance, hphase, ScanPhase.isBusy]
    obtain ⟨v, hv⟩ : ∃ v, v = p.job.onScan (.advance false)
        (p.job.stream.scan.settleFailure failure) := ⟨_, rfl⟩
    have hstep : p.job.step? (Action.advance false).move = some v := by
      show (p.job.stream.scan.step? (.advance false)).map _ = _
      rw [hadvance, hv]
      rfl
    have hended : v.phase = .ended (.failed error) := by
      rw [hv, ← hresult, ← hsincere.plan_eq]
      exact Scan.settleFailure_phase _ failure
    have hturn : Deployment.step? (solo id) (.hosted p) (.act (.advance false)) =
        some (.hosted { p with job := v }) := by
      show ((p.job.step? (Action.advance false).move).map fun v =>
        Deployment.hosted { p with job := v }) = _
      rw [hstep]
      rfl
    rcases (hfits.act hstep).paid_or_due (hsincere.step hstep).plan_eq hended rfl with
      hpaid | ⟨p', hnext, hpaid⟩
    · exact ⟨[], _, Or.inl rfl, rfl, hpaid⟩
    · refine ⟨[.act (.advance false), .host], .hosted p', Or.inr (Or.inr rfl), ?_, hpaid⟩
      show (Deployment.step? (solo id) (.hosted p) _).bind _ = _
      rw [hturn]
      show ((next? id { p with job := v }).map Deployment.hosted).bind _ = _
      rw [hnext]
      rfl

end
end Elastic

/-! ## Runs -/

namespace Deployment

variable {σ : Type}

/-- In some turns the source of the scan returned a failure that is not transient
while the session was open, or the job gave up; this is the error to report. -/
def Provoked (H : Host (Invocation Row R) σ) (stream : RowStream Row R) (turns : List (Turn Row))
    (error : ScanError) : Prop :=
  (∃ early failure late v, turns = early ++ .act (.conclude (.failed failure)) :: late ∧
      after? H (.start stream) early = some v ∧ v.stream.scan.Returns failure error) ∨
    ∃ v text, after? H (.start stream) turns = some v ∧ v.phase = .ended (.raised text) ∧
      error = raisedFailure text

/-- In some turns the first poll of the stream went on outside a runtime when it
was about to start the stream. -/
def Stranded (H : Host (Invocation Row R) σ) (stream : RowStream Row R) (turns : List (Turn Row)) :
    Prop :=
  ∃ early late v, turns = early ++ .act (.poll false) :: late ∧
    after? H (.start stream) early = some v ∧ v.poll = some .starting ∧ v.diary = []

end Deployment

namespace Elastic

section
variable {capacity : Nat} {stream : RowStream Row R} {turns : List (Turn Row)}
  {d : Deployment Row R (Solo (Invocation Row R) ElasticStage)} {v : Invocation Row R}
  {error : ScanError}

theorem routed_start (hopen : RowStream.open? plan capacity = .ok stream) :
    Routed id plan (.standing (.start stream)) :=
  .standing (Invocation.sincere_start hopen) (Invocation.standing_start hopen)

theorem routed_of_play (hopen : RowStream.open? plan capacity = .ok stream)
    (hplay : play? (Deployment.step? (solo id)) (.standing (.start stream)) turns = some d) :
    Routed id plan d :=
  play?_preserves (P := Routed id plan) (fun h hstep => (h.step hstep).1) (routed_start hopen) hplay

theorem after?_of_play
    (hplay : play? (Deployment.step? (solo id)) (.standing (.start stream)) turns = some d)
    (hv : d.job? (solo id) = some v) :
    Deployment.after? (solo id) (.start stream) turns = some v := by
  rw [Deployment.after?, hplay]
  exact hv

/-- What is reported was provoked. -/
theorem provoked_of_ended (hopen : RowStream.open? plan capacity = .ok stream)
    (hplay : play? (Deployment.step? (solo id)) (.standing (.start stream)) turns = some d)
    (hv : d.job? (solo id) = some v) {ending : Ending} (hp : v.phase = .ended ending)
    (hfailure : failure? ending = some error) :
    Deployment.Provoked (solo id) stream turns error := by
  cases ending with
  | ok => cases hfailure
  | raised text =>
      cases hfailure
      exact Or.inr ⟨v, text, after?_of_play hplay hv, hp, rfl⟩
  | failed failure =>
      cases hfailure
      have hfails : FailsIn id error d := ⟨v, hv, by rw [hp]; rfl⟩
      have hcalm : ¬ FailsIn id error (.standing (.start stream)) := by
        rintro ⟨w, hw, hf⟩
        cases hw
        cases RowStream.eq_fresh_of_open? hopen
        cases hf
      have hfree : Along (Deployment.step? (solo id)) (fun _ _ => True)
          (.standing (.start stream)) turns := Along.of_forall (fun _ _ _ => trivial) _
      obtain ⟨early, turn, late, u, u', rfl, hearly, hturn, -, hu, hne, heq⟩ :=
        hfree.exists_turn (I := Routed id plan) (fun h _ hstep => (h.step hstep).1)
          (routed_start hopen) hplay hcalm hfails
      obtain ⟨failure, w, rfl, hw, hreturns⟩ := hu.returns hturn hne heq
      exact Or.inl ⟨early, failure, late, w, rfl, after?_of_play hearly hw, hreturns⟩

/-- What was provoked is to be reported. -/
theorem owes_of_provoked (hopen : RowStream.open? plan capacity = .ok stream)
    (hplay : play? (Deployment.step? (solo id)) (.standing (.start stream)) turns = some d)
    (hprovoked : Deployment.Provoked (solo id) stream turns error) : Owes id error d := by
  rcases hprovoked with ⟨early, failure, late, w, rfl, hw, hreturns⟩ | ⟨w, text, hw, hp, rfl⟩
  · obtain ⟨u, hearly, hlate⟩ := Option.bind_eq_some_iff.mp (play?_append.symm.trans hplay)
    obtain ⟨u', hturn, hrest⟩ := play?_cons hlate
    have hu := routed_of_play hopen hearly
    have hjob : u.job? (solo id) = some w := by
      rw [Deployment.after?, hearly] at hw
      exact hw
    -- from the turn in which the source returned the failure, the scan fails with it
    have hfails : FailsIn id error u' := by
      obtain ⟨-, w', w'', move, hw', hw'', rfl, hmoved⟩ := hu.step hturn
      cases hjob.symm.trans hw'
      obtain ⟨scan, hscan, rfl⟩ := Option.map_eq_some_iff.mp hmoved
      obtain ⟨-, ⟨⟩⟩ := Option.ite_none_right_eq_some.mp hscan
      exact ⟨_, hw'', hreturns.fails⟩
    have hlast : Routed id plan d ∧ FailsIn id error d := by
      refine play?_preserves (P := fun d => Routed id plan d ∧ FailsIn id error d) ?_
        ⟨(hu.step hturn).1, hfails⟩ hrest
      intro d d' turn hd hstep
      exact ⟨(hd.1.step hstep).1, hd.1.failsOn hd.2 hstep⟩
    obtain ⟨v, hv, hf⟩ := hlast.2
    exact ⟨v, hv, Or.inl hf⟩
  · rw [Deployment.after?, hplay] at hw
    exact ⟨w, hw, Or.inr ⟨text, hp, rfl⟩⟩

/-- The note about a poll outside a runtime was made by the first poll. -/
theorem stranded_of_mem (hopen : RowStream.open? plan capacity = .ok stream)
    (hplay : play? (Deployment.step? (solo id)) (.standing (.start stream)) turns = some d)
    (hv : d.job? (solo id) = some v)
    (hmem : .told (.failed PollStage.strandedError) ∈ v.diary) :
    Deployment.Stranded (solo id) stream turns := by
  have hcalm : ¬ ∃ w, (Deployment.standing (.start stream) :
      Deployment Row R (Solo (Invocation Row R) ElasticStage)).job? (solo id) = some w ∧
        .told (.failed PollStage.strandedError) ∈ w.diary := by
    rintro ⟨w, hw, hnoted⟩
    cases hw
    cases hnoted
  have hfree : Along (Deployment.step? (solo id)) (fun _ _ => True)
      (.standing (.start stream)) turns := Along.of_forall (fun _ _ _ => trivial) _
  obtain ⟨early, turn, late, u, u', rfl, hearly, hturn, -, hu, hne, w', hw', hnoted⟩ :=
    hfree.exists_turn (I := Routed id plan)
      (P := fun d => ∃ w, d.job? (solo id) = some w ∧
        .told (.failed PollStage.strandedError) ∈ w.diary)
      (fun h _ hstep => (h.step hstep).1) (routed_start hopen) hplay hcalm ⟨v, hv, hmem⟩
  obtain ⟨-, w, other, move, hw, hother, hmove, hmoved⟩ := hu.step hturn
  cases hw'.symm.trans hother
  obtain ⟨known, hknown, hsincere⟩ := hu.exists_job
  cases hw.symm.trans hknown
  obtain ⟨hdiary, hpoll, reception, rfl⟩ := hsincere.plain.stranded hsincere.coherent hmoved
    (fun hbefore => hne ⟨w, hw, hbefore⟩) hnoted
  refine ⟨early, late, w, ?_, after?_of_play hearly hw, hpoll, hdiary⟩
  cases turn with
  | act action => cases action <;> cases hmove; rfl
  | host => rcases hmove with hmove | hmove | hmove | hmove <;> cases hmove

end

/-! ## Two runs -/

section
variable {d d' e e' : Deployment Row R (Solo (Invocation Row R) ElasticStage)}
  {p q : Solo (Invocation Row R) ElasticStage} {turn turn' : Turn Row}

/-- Two deployments that have come equally far, with streams that are alike behind
the veil. -/
inductive Blurred : Deployment Row R (Solo (Invocation Row R) ElasticStage) →
    Deployment Row R (Solo (Invocation Row R) ElasticStage) → Prop
  | standing {v w : Invocation Row R} : v.veiled = w.veiled → Blurred (.standing v) (.standing w)
  | hosted {p q : Solo (Invocation Row R) ElasticStage} : p.stage = q.stage →
      p.job.veiled = q.job.veiled → Blurred (.hosted p) (.hosted q)

theorem Blurred.job (h : Blurred d e) : ∃ v w, d.job? (solo id) = some v ∧
    e.job? (solo id) = some w ∧ v.veiled = w.veiled := by
  cases h with
  | standing h => exact ⟨_, _, rfl, rfl, h⟩
  | hosted _ h => exact ⟨_, _, rfl, rfl, h⟩

/-- The job after its end, behind the veil. -/
theorem closeAfter_veiled {v w : Invocation Row R} (h : v.veiled = w.veiled)
    {ending ending' : Ending} (hending : ending.veiled = ending'.veiled) :
    (closeAfter v ending).veiled = (closeAfter w ending').veiled := by
  cases ending with
  | raised text =>
      cases ending' with
      | raised text' =>
          have hclosed := Invocation.step?_veiled_congr h
            (show (Move.close .sourceFailure : Move Row).veiled = (Move.close .sourceFailure).veiled
              from rfl)
          cases hclosed with
          | some hclosed => exact hclosed
      | _ => cases hending
  | _ =>
      cases ending' with
      | raised text' => cases hending
      | _ => exact h

/-- The scheduler does the same with jobs that are alike behind the veil. -/
theorem blurred_next (hp : Fits id p) (hq : Fits id q) (hs : p.stage = q.stage)
    (hv : p.job.veiled = q.job.veiled) :
    Option.Rel (fun p' q' : Solo (Invocation Row R) ElasticStage =>
      p'.stage = q'.stage ∧ p'.job.veiled = q'.job.veiled) (next? id p) (next? id q) := by
  unfold next?
  rw [← hs]
  cases hstage : p.stage with
  | submitted =>
      have hbegun := Invocation.step?_veiled_congr hv
        (show (Move.scan .begin : Move Row).veiled = (Move.scan .begin).veiled from rfl)
      rw [(hp.marked.begin (hp.waits hstage)).1,
        (hq.marked.begin (hq.waits (hs.symm.trans hstage))).1] at hbegun
      cases hbegun with
      | some hbegun => exact .some ⟨rfl, hbegun⟩
  | running =>
      have hscan := Invocation.scan_eq_of_veiled hv
      have hendings : (ScanJob.ending? p.job).map Ending.veiled =
          (ScanJob.ending? q.job).map Ending.veiled := by
        show p.job.stream.scan.ending?.map _ = q.job.stream.scan.ending?.map _
        rw [← Scan.ending?_veiled _ hp.present, ← Scan.ending?_veiled _ hq.present, hscan]
      refine rel_map (rel_of_map_eq hendings) ?_
      intro ending ending' hending
      exact ⟨rfl, closeAfter_veiled hv hending⟩
  | reported => exact .none

/-- The same turn, but for what is behind the veil, leads to deployments that are
alike again. -/
theorem Blurred.step (h : Blurred d e) (hd : Routed id plan d) (he : Routed id plan e)
    (hturn : turn.veiled = turn'.veiled) :
    Option.Rel Blurred (d.step? (solo id) turn) (e.step? (solo id) turn') := by
  cases turn with
  | host =>
      cases turn' with
      | act action => cases hturn
      | host =>
          cases h with
          | standing => exact .none
          | @hosted p q hs hv =>
              cases hd with
              | hosted _ hp =>
              cases he with
              | hosted _ hq =>
              exact rel_map (blurred_next hp hq hs hv) fun hnext => .hosted hnext.1 hnext.2
  | act action =>
      cases turn' with
      | host => cases hturn
      | act action' =>
          have hmove : action.move.veiled = action'.move.veiled := by
            rw [action.move_veiled, action'.move_veiled, Turn.act.inj hturn]
          cases h with
          | @standing v w hv =>
              refine rel_map (Invocation.step?_veiled_congr hv hmove) ?_
              intro v' w' hv'
              have hq : v'.stream.scan.isQueued = w'.stream.scan.isQueued := by
                rw [← Scan.isQueued_veiled, ← Scan.isQueued_veiled w'.stream.scan,
                  Invocation.scan_eq_of_veiled hv']
              unfold Deployment.afterAction
              rw [hq]
              split
              · exact .hosted rfl hv'
              · exact .standing hv'
          | @hosted p q hs hv =>
              refine rel_map (Invocation.step?_veiled_congr hv hmove) ?_
              intro v' w' hv'
              exact .hosted hs hv'

variable (id) in
/-- Runs with the same turns, but for what is behind the veil, are alike. -/
theorem blurred_of_play {capacity : Nat} {stream : RowStream Row R} {turns turns' : List (Turn Row)}
    (hopen : RowStream.open? plan capacity = .ok stream)
    (hturns : turns.map Turn.veiled = turns'.map Turn.veiled) :
    Option.Rel (fun d e => Routed id plan d ∧ Routed id plan e ∧ Blurred d e)
      (play? (Deployment.step? (solo id)) (.standing (.start stream)) turns)
      (play? (Deployment.step? (solo id)) (.standing (.start stream)) turns') := by
  have hstart : Routed id plan (.standing (.start stream)) := routed_start hopen
  refine play?_rel ?_ ⟨hstart, hstart, .standing rfl⟩ hturns
  rintro d e turn turn' ⟨hd, he, hde⟩ hturn
  have hstep := hde.step hd he hturn
  have hleft : ∀ d', d.step? (solo id) turn = some d' → Routed id plan d' :=
    fun _ h => (hd.step h).1
  have hright : ∀ e', e.step? (solo id) turn' = some e' → Routed id plan e' :=
    fun _ h => (he.step h).1
  generalize d.step? (solo id) turn = next, e.step? (solo id) turn' = next' at hstep hleft hright ⊢
  cases hstep with
  | none => exact .none
  | some hblurred => exact .some ⟨hleft _ rfl, hright _ rfl, hblurred⟩

end
end Elastic

/-! ## Both readers of a failure -/

section
variable {capacity : Nat} {stream : RowStream Row R} {turns : List (Turn Row)}
  {d : Deployment Row R (Elastic (Invocation Row R))}

/-- Whatever the consumer, the source, the clock and the elastic scheduler do with
a stream, and in whatever order:

* the failure hook has been called for nothing but a failure that the source
  returned while the session was open and that was not transient, with the
  statement of the scan, or for a job that gave up, and at most once;
* it has been called for such a failure, once, when neither the scheduler nor the
  scan has a step to make, and is never more than a step of each away from it;
* every error in the diary is the reason of a closing, or that of a first poll
  outside a runtime, and there is at most one error;
* a run with the same turns, in which the source returns another failure, transient
  if the first was, gives the consumer the same: the same polls, reason, queue, and
  calls of the mapper. -/
theorem failures_routed (hopen : RowStream.open? plan capacity = .ok stream)
    (hplay : play? (Deployment.step? (elastic id)) (.standing (.start stream)) turns = some d) :
    ∃ v, d.job? (elastic id) = some v ∧
    (d.failures (elastic id) = [] ∨ ∃ error, Deployment.Provoked (elastic id) stream turns error ∧
      d.failures (elastic id) = [⟨id, plan.statement, error⟩]) ∧
    (∀ error, Deployment.Provoked (elastic id) stream turns error →
      (d.AtRest (elastic id) → v.stream.scan.move? false = none →
        d.failures (elastic id) = [⟨id, plan.statement, error⟩]) ∧
      ∃ due d', (due = [] ∨ due = [.host] ∨ due = [.act (.advance false), .host]) ∧
        play? (Deployment.step? (elastic id)) d due = some d' ∧
        d'.failures (elastic id) = [⟨id, plan.statement, error⟩]) ∧
    (∀ error, .told (.failed error) ∈ v.diary →
      (∃ reason, error = .closed reason) ∨
        (error = PollStage.strandedError ∧ Deployment.Stranded (elastic id) stream turns)) ∧
    v.diary.countP Note.isFailure ≤ 1 ∧
    ∀ early failure late, turns = early ++ .act (.conclude (.failed failure)) :: late →
      ∀ other : ScanError, other.isTransient = failure.isTransient →
      ∃ w, Deployment.after? (elastic id) (.start stream)
          (early ++ .act (.conclude (.failed other)) :: late) = some w ∧
        w.diary = v.diary ∧ w.session.reason = v.session.reason ∧
        w.session.queue = v.session.queue ∧ w.stream.scan.mapped = v.stream.scan.mapped := by
  have hmirrors := mirrors_elastic (J := Invocation Row R) id
  obtain ⟨e, hplay', hsame⟩ := hmirrors.exists_play? hplay
  have hrouted := Elastic.routed_of_play hopen hplay'
  obtain ⟨v, hv, hsincere⟩ := hrouted.exists_job
  have hprovoked : Deployment.Provoked (elastic id) stream turns =
      Deployment.Provoked (Elastic.solo id) stream turns := by
    unfold Deployment.Provoked
    rw [hmirrors.after?_eq]
  have hstranded : Deployment.Stranded (elastic id) stream turns =
      Deployment.Stranded (Elastic.solo id) stream turns := by
    unfold Deployment.Stranded
    rw [hmirrors.after?_eq]
  rw [hmirrors.job?_eq hsame, hmirrors.failures_eq hsame, hmirrors.atRest_iff hsame, hprovoked,
    hstranded, hmirrors.after?_eq]
  refine ⟨v, hv, ?_, ?_, ?_, hsincere.orderly.countP_isFailure_le, ?_⟩
  · rcases hrouted.failures_cases with hnone | ⟨w, ending, error, hw, hp, hfailure, hone⟩
    · exact Or.inl hnone
    · exact Or.inr ⟨error, Elastic.provoked_of_ended hopen hplay' hw hp hfailure, hone⟩
  · intro error herror
    have howes := Elastic.owes_of_provoked hopen hplay' herror
    refine ⟨?_, ?_⟩
    · intro hrest hidle
      refine hrouted.paid howes hrest ?_
      intro w hw
      cases hv.symm.trans hw
      exact hidle
    · obtain ⟨due, e', hdue, hlater, hpaid⟩ := hrouted.due howes
      obtain ⟨d', hlast, hsame'⟩ := exists_of_rel_right (hmirrors.played hsame due) hlater
      exact ⟨due, d', hdue, hlast, (hmirrors.failures_eq hsame').trans hpaid⟩
  · intro error hmem
    rcases hsincere.plain.errors error hmem with hclosed | rfl
    · exact Or.inl hclosed
    · exact Or.inr ⟨rfl, Elastic.stranded_of_mem hopen hplay' hv hmem⟩
  · rintro early failure late rfl other hother
    have hturns : (early ++ .act (.conclude (.failed failure)) :: late).map Turn.veiled =
        (early ++ .act (.conclude (.failed other)) :: late).map Turn.veiled := by
      simp [Turn.veiled, Action.veiled, Ending.veiled, ScanError.veiled_eq hother]
    obtain ⟨e', hlast, -, -, hblurred⟩ :=
      exists_of_rel_left (Elastic.blurred_of_play id hopen hturns) hplay'
    obtain ⟨v', w, hv', hw, hveiled⟩ := hblurred.job
    cases hv.symm.trans hv'
    have hsession := Invocation.session_eq_of_veiled hveiled
    refine ⟨w, Elastic.after?_of_play hlast hw, (Invocation.diary_eq_of_veiled hveiled).symm,
      ?_, ?_, (Invocation.mapped_eq_of_veiled hveiled).symm⟩
    · rw [hsession]
    · rw [hsession]

end

/-- The source fails during the first poll; the scheduler has taken this up when the
poll looks at the closer. -/
def failedRead (failure : ScanError) : List (Turn Nat) :=
  [.act .beginPoll, .act (.poll true), .act (.poll true), .host, .act (.conclude (.failed failure)),
    .act (.advance false), .host, .act (.poll true)]

theorem failures_routed_of_broken_query :
    ∃ (d : Deployment Nat Nat (Elastic (Invocation Nat Nat))) (v w : Invocation Nat Nat),
      RowStream.open? Invocation.doubling 1 = .ok (.fresh Invocation.doubling (.fresh 1)) ∧
      play? (Deployment.step? (elastic "scan"))
        (.standing (.start (.fresh Invocation.doubling (.fresh 1))))
        (failedRead (.plain .queryFailed "division by zero")) = some d ∧
      d.job? (elastic "scan") = some v ∧
      d.failures (elastic "scan") =
        [⟨"scan", "SELECT n", ⟨.queryFailed, "division by zero", some "SELECT n"⟩⟩] ∧
      v.diary = [.told (.failed (.closed .sourceFailure))] ∧
      Deployment.after? (elastic "scan") (.start (.fresh Invocation.doubling (.fresh 1)))
        (failedRead (.plain .typeConversion "not a number")) = some w ∧ w.diary = v.diary := by
  obtain ⟨v, hv, -, hreported, -, -, hveiled⟩ :=
    @failures_routed _ _ "scan" Invocation.doubling 1 (.fresh Invocation.doubling (.fresh 1))
      (failedRead (.plain .queryFailed "division by zero")) _ rfl rfl
  cases hv
  have hsplit : failedRead (.plain .queryFailed "division by zero") =
      (failedRead (.plain .queryFailed "division by zero")).take 4 ++
        .act (.conclude (.failed (.plain .queryFailed "division by zero"))) ::
          [.act (.advance false), .host, .act (.poll true)] := rfl
  obtain ⟨w, hw, hdiary, -⟩ := hveiled _ _ _ hsplit (.plain .typeConversion "not a number") rfl
  refine ⟨_, _, w, rfl, rfl, rfl, ?_, rfl, hw, hdiary⟩
  refine (hreported _ (Or.inl ?_)).1 rfl rfl
  exact ⟨_, _, _, _, hsplit, rfl, rfl, rfl, rfl, rfl⟩

end Schedule
end RowBridge
