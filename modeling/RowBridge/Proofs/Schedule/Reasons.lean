/-
# `RowBridge.Proofs.Schedule.Reasons` — what a worker says about a task that was closed

A supervisor turns a closing into a status in three places: while it waits for a slot,
when it looks once more before the job is due, and when the job has returned.  Only the
last of them reads the reason.

    the session is closed     the job           the status in the end
    before the second look    is never begun    cancelled, for every reason
    after it                  returns           cancelled, or closed for the reason
                              fails, gives up   failed

The reason is that of the first closing, and stays; the way the job ended stays too
(`Remembers`).  A supervisor that has not looked for the second time has one way to go
(`SupervisorStage.Recedes`), one that has found the session open has the other
(`SupervisorStage.Proceeds`); no move takes it from the one to the other.

**Proved here**, for every job, every number of tasks and every schedule: the table
(`closing_settles_status`).  What it is for a job to be in good order, and to wait for
its thread, are parameters with three laws (`Lasting`); plain jobs obey them, and so do
the scans of streams.  The first row is at odds with the second: the same closing is
reported without its reason or with it (`waiting_task_hides_reason`).
-/
import RowBridge.Proofs.Schedule.Lifecycle
import RowBridge.Proofs.Schedule.Slots

namespace RowBridge

variable {Row R : Type}

namespace Schedule

variable {J μ : Type}

/-! ## What is known about a job for good -/

/-- With which reason the session of the job was closed first, and how the job ended. -/
structure Remembers [ScanJob J] (before after : J) : Prop where
  reason : ∀ {reason}, (ScanJob.closer before).reason = some reason →
    (ScanJob.closer after).reason = some reason
  ending : ∀ {ending}, ScanJob.ending? before = some ending →
    ScanJob.ending? after = some ending

theorem Remembers.refl [ScanJob J] (job : J) : Remembers job job := ⟨id, id⟩

/-- Jobs in good order stay so and forget nothing, whoever acts, and a job that waits for
its thread waits until its scheduler begins it. -/
structure Lasting [ScanJob J] (act? : J → μ → Option J) (sound waits : J → Prop) : Prop where
  acts : ∀ {job job' : J} {m : μ}, sound job → act? job m = some job' →
    sound job' ∧ Remembers job job' ∧ (waits job → waits job')
  closes : ∀ {job : J}, sound job → ∀ reason,
    sound (ScanJob.close job reason) ∧ Remembers job (ScanJob.close job reason) ∧
      (waits job → waits (ScanJob.close job reason))
  begins : ∀ {job : J}, sound job → waits job →
    sound (ScanJob.begin job) ∧ Remembers job (ScanJob.begin job)

/-! ## The two ways of a supervisor -/

/-- Where a supervisor may be that has not begun its job and is not going to. -/
def SupervisorStage.Recedes (status : TaskStatus) : SupervisorStage → Prop
  | .spawned | .admitted => status = .pending
  | .concluding final => status = .pending ∧ final = .cancelled
  | .leaving | .ended => status = .cancelled
  | .launching | .running => False

/-- The steps it makes, at most, until it has written the status. -/
def SupervisorStage.left : SupervisorStage → Nat
  | .spawned => 3
  | .admitted => 2
  | .concluding _ => 1
  | _ => 0

theorem SupervisorStage.left_le (stage : SupervisorStage) : stage.left ≤ 3 := by
  cases stage <;> simp [left]

/-- The final status of a task whose job ended like this, if the session was closed for
this reason before the supervisor took notice. -/
def Worker.verdict (reason : ClosureReason) (ending : Ending) : TaskStatus :=
  match failure? ending with
  | none => statusOfReturn (some reason)
  | some failure => .failed failure.text

/-- Where a supervisor may be that has found the session open, which was then closed for
this reason. -/
def SupervisorStage.Proceeds (reason : ClosureReason) (ending? : Option Ending)
    (status : TaskStatus) : SupervisorStage → Prop
  | .launching | .running => status = .running
  | .concluding final =>
      status = .running ∧ ∃ ending, ending? = some ending ∧ final = Worker.verdict reason ending
  | .leaving | .ended => ∃ ending, ending? = some ending ∧ status = Worker.verdict reason ending
  | .spawned | .admitted => False

theorem SupervisorStage.Proceeds.mono {reason : ClosureReason} {ending? ending?' : Option Ending}
    {status : TaskStatus} {stage : SupervisorStage} (h : stage.Proceeds reason ending? status)
    (hending : ∀ {ending}, ending? = some ending → ending?' = some ending) :
    stage.Proceeds reason ending?' status := by
  cases stage with
  | concluding final =>
      obtain ⟨hrunning, ending, hended, hfinal⟩ := h
      exact ⟨hrunning, ending, hending hended, hfinal⟩
  | leaving =>
      obtain ⟨ending, hended, hfinal⟩ := h
      exact ⟨ending, hending hended, hfinal⟩
  | ended =>
      obtain ⟨ending, hended, hfinal⟩ := h
      exact ⟨ending, hending hended, hfinal⟩
  | _ => exact h

theorem Worker.statusOfReturn_some (reason : ClosureReason) :
    statusOfReturn (some reason) = if reason = .cancelled then .cancelled else .closed reason := by
  cases reason <;> rfl

theorem Worker.verdict_cases (reason : ClosureReason) (ending : Ending) :
    (ending = .ok ∧ verdict reason ending =
      if reason = .cancelled then .cancelled else .closed reason) ∨
    ∃ failure, failure? ending = some failure ∧
      verdict reason ending = .failed failure.text := by
  cases ending with
  | ok => exact Or.inl ⟨rfl, statusOfReturn_some reason⟩
  | failed failure => exact Or.inr ⟨failure, rfl, rfl⟩
  | raised text => exact Or.inr ⟨raisedFailure text, rfl, rfl⟩

theorem Worker.verdict_isFinished (reason : ClosureReason) (ending : Ending) :
    (verdict reason ending).isFinished = true := by
  unfold verdict
  split
  · exact statusOfReturn_isFinished _
  · rfl

section
variable [ScanJob J] {w : Worker J} {i : Nat} {task : Task J} {view view' : Supervision}
  {free : Nat} {failures : Broadcast TaskFailure} {job : J} {reason : ClosureReason}

/-- A supervisor that has not begun its job, nor dismissed it, had not before. -/
theorem Worker.Supervises.unbegun (hsup : w.Supervises task view free failures job view')
    (hfollows : view.stage.Follows view.status)
    (h : view'.status = .pending ∨ view'.stage = .launching) :
    view.status = .pending ∨ view.stage = .launching := by
  cases hsup with
  | goesOn hs => rw [hs] at hfollows; exact Or.inl hfollows
  | launches hs => exact Or.inr hs
  | @settles final hs =>
      rw [hs, show final = .pending from h.resolve_right nofun] at hfollows
      exact Or.inl (hfollows.resolve_right fun hran => nomatch hran.2).1
  | _ => exact h.imp_right nofun

/-- Once the session is closed, a supervisor that has not begun its job lets it alone,
and each step brings it nearer to its end. -/
theorem Worker.Supervises.recedes (hsup : w.Supervises task view free failures job view')
    (hclosed : (ScanJob.closer task.job).isClosed = true)
    (h : view.stage.Recedes view.status) :
    job = task.job ∧ view'.stage.Recedes view'.status ∧
      view'.stage.left ≤ view.stage.left - 1 := by
  cases hsup with
  | needsNone hs => rw [hs] at h ⊢; exact ⟨rfl, h, Nat.le_refl 2⟩
  | givesUp hs => rw [hs] at h ⊢; exact ⟨rfl, ⟨h, rfl⟩, Nat.le_succ 1⟩
  | getsSlot hs => rw [hs] at h ⊢; exact ⟨rfl, h, Nat.le_refl 2⟩
  | turnsBack hs => rw [hs] at h ⊢; exact ⟨rfl, ⟨h, rfl⟩, Nat.le_refl 1⟩
  | goesOn _ hopen => exact absurd (hopen.symm.trans hclosed) Bool.false_ne_true
  | settles hs => rw [hs] at h ⊢; exact ⟨rfl, h.2, Nat.le_refl 0⟩
  | leaves hs => rw [hs] at h ⊢; exact ⟨rfl, h, Nat.le_refl 0⟩
  | launches hs => rw [hs] at h; exact h.elim
  | returns hs => rw [hs] at h; exact h.elim
  | fails hs => rw [hs] at h; exact h.elim

/-- It is never without a next step. -/
theorem Worker.supervise?_ne_none_of_recedes (htask : w.task? i = some task)
    (hview : task.supervision = some view)
    (hclosed : (ScanJob.closer task.job).isClosed = true) (h : view.stage.Recedes view.status)
    (hpending : view.status = .pending) : w.supervise? i ≠ none := by
  intro hstuck
  rw [hpending] at h
  rcases stuck_cases hstuck htask hview with ⟨-, hopen, -⟩ | hstage | hstage
  · exact absurd (hopen.symm.trans hclosed) Bool.false_ne_true
  · rw [hstage] at h
    exact h
  · rw [hstage] at h
    cases h

/-- A supervisor that has found the session open judges the job by the reason with which
the session was closed since. -/
theorem Worker.Supervises.proceeds (hsup : w.Supervises task view free failures job view')
    (hreason : (ScanJob.closer task.job).reason = some reason)
    (hremembers : Remembers task.job job)
    (h : view.stage.Proceeds reason (ScanJob.ending? task.job) view.status) :
    view'.stage.Proceeds reason (ScanJob.ending? job) view'.status := by
  cases hsup with
  | launches hs => rw [hs] at h; exact h
  | @returns ending hs hending hreturns =>
      rw [hs] at h
      refine ⟨h, ending, hending, ?_⟩
      rw [verdict, hreturns, hreason]
  | @fails ending failure hs hending hfails =>
      rw [hs] at h
      refine ⟨h, ending, hremembers.ending hending, ?_⟩
      rw [verdict, hfails]
  | settles hs => rw [hs] at h; exact h.2
  | leaves hs => rw [hs] at h; exact h
  | needsNone hs => rw [hs] at h; exact h.elim
  | givesUp hs => rw [hs] at h; exact h.elim
  | getsSlot hs => rw [hs] at h; exact h.elim
  | turnsBack hs => rw [hs] at h; exact h.elim
  | goesOn hs => rw [hs] at h; exact h.elim

/-- Its next step lacks only the end of the job. -/
theorem Worker.ending?_of_stuck_of_proceeds (htask : w.task? i = some task)
    (hview : task.supervision = some view)
    (h : view.stage.Proceeds reason (ScanJob.ending? task.job) view.status)
    (hrunning : view.status = .running) (hstuck : w.supervise? i = none) :
    ScanJob.ending? task.job = none := by
  rcases stuck_cases hstuck htask hview with ⟨hstage, -⟩ | hstage | hstage
  · rw [hstage] at h
    exact h.elim
  · rw [supervise?, htask] at hstuck
    simp only [hview, hstage] at hstuck
    exact Option.map_eq_none_iff.mp hstuck
  · rw [hstage, hrunning] at h
    obtain ⟨ending, -, hfinal⟩ := h
    have hfinished := verdict_isFinished reason ending
    rw [← hfinal] at hfinished
    cases hfinished

end

/-! ## Tasks -/

namespace Service

/-- A task in good order: its status keeps up with its supervisor, and its job waits for
its thread as long as the supervisor has not put it there. -/
structure Governed (sound waits : J → Prop) (job : J) (view : Supervision) : Prop where
  sound : sound job
  follows : view.stage.Follows view.status
  waits : view.status = .pending ∨ view.stage = .launching → waits job

/-- Jobs are handed over in good order, and before they run. -/
def BringsWaiting (sound waits : J → Prop) (_ : Service J) : WorkerMove J μ → Prop
  | .submit _ job | .enter _ job => sound job ∧ waits job
  | _ => True

theorem governed_fresh {sound waits : J → Prop} {job : J} (hsound : sound job)
    (hwaits : waits job) : Governed sound waits job .fresh :=
  ⟨hsound, rfl, fun _ => hwaits⟩

section
variable [ScanJob J] {act? : J → μ → Option J} {sound waits : J → Prop} {s w : Service J}
  {move : WorkerMove J μ} {moves later : List (WorkerMove J μ)} {settings : WorkerSettings}
  {i : Nat} {task task' : Task J} {view view' : Supervision} {entries : List Entry}
  {reason : ClosureReason}

/-- A supervisor forgets nothing about its job, which waits until it is begun. -/
theorem Governed.supervises (h : Governed sound waits task.job view)
    (hlasting : Lasting act? sound waits) {free : Nat} {failures : Broadcast TaskFailure} {job : J}
    (hsup : s.worker.Supervises task view free failures job view') :
    sound job ∧ Remembers task.job job ∧
      (waits task.job → waits job ∨ view'.stage = .running) := by
  have hsame : sound task.job ∧ Remembers task.job task.job ∧
      (waits task.job → waits task.job ∨ view'.stage = .running) :=
    ⟨h.sound, .refl _, Or.inl⟩
  cases hsup with
  | launches hs =>
      obtain ⟨hsound, hremembers⟩ := hlasting.begins h.sound (h.waits (Or.inr hs))
      exact ⟨hsound, hremembers, fun _ => Or.inr rfl⟩
  | @fails ending =>
      cases ending with
      | raised text =>
          obtain ⟨hsound, hremembers, hwaits⟩ := hlasting.closes h.sound .sourceFailure
          exact ⟨hsound, hremembers, fun hw => Or.inl (hwaits hw)⟩
      | _ => exact hsame
  | _ => exact hsame

/-- Nor does any move, and none but the supervisor begins the job. -/
theorem Governed.remembers (h : Governed sound waits task.job view)
    (hlasting : Lasting act? sound waits) (hview : task.supervision = some view)
    (ht : Touches act? s i task move entries task') (hview' : task'.supervision = some view') :
    sound task'.job ∧ Remembers task.job task'.job ∧
      (waits task.job → waits task'.job ∨ view'.stage = .running) := by
  -- whoever is no supervisor leaves a job waiting that waits
  have haside : ∀ {job : J},
      sound job ∧ Remembers task.job job ∧ (waits task.job → waits job) →
      sound job ∧ Remembers task.job job ∧
        (waits task.job → waits job ∨ view'.stage = .running) := by
    rintro job ⟨hsound, hremembers, hwaits⟩
    exact ⟨hsound, hremembers, fun hw => Or.inl (hwaits hw)⟩
  cases ht with
  | acts hact => exact haside (hlasting.acts h.sound hact)
  | closes => exact haside (hlasting.closes h.sound _)
  | cancels => exact haside (hlasting.closes h.sound .cancelled)
  | supervised hother hsup =>
      cases hview.symm.trans hother
      cases hview'
      exact h.supervises hlasting hsup
  | _ => exact haside ⟨h.sound, .refl _, id⟩

/-- A task in good order stays so. -/
theorem Governed.touches (h : Governed sound waits task.job view)
    (hlasting : Lasting act? sound waits) (hview : task.supervision = some view)
    (ht : Touches act? s i task move entries task') :
    ∃ view', task'.supervision = some view' ∧ Governed sound waits task'.job view' ∧
      ((∃ free failures, s.worker.Supervises task view free failures task'.job view') ∨
        (view'.stage = view.stage ∧ view'.status = view.status)) := by
  obtain ⟨view', hview', hcases⟩ := ht.view_cases hview
  obtain ⟨hsound, -, hstays⟩ := h.remembers hlasting hview ht hview'
  have hbefore := h.follows
  have hsteps : (∃ free failures, s.worker.Supervises task view free failures task'.job view') ∨
      (view'.stage = view.stage ∧ view'.status = view.status) := hcases.imp_left (·.2)
  have hfollows : view'.stage.Follows view'.status := by
    rcases hsteps with ⟨free, failures, hsup⟩ | ⟨hstage, hstatus⟩
    · exact (hsup.goes hbefore).1
    · rw [hstage, hstatus]
      exact hbefore
  refine ⟨view', hview', ⟨hsound, hfollows, ?_⟩, hsteps⟩
  intro hahead
  have hwaits : view.status = .pending ∨ view.stage = .launching := by
    rcases hsteps with ⟨free, failures, hsup⟩ | ⟨hstage, hstatus⟩
    · exact hsup.unbegun hbefore hahead
    · rwa [hstage, hstatus] at hahead
  refine (hstays (h.waits hwaits)).resolve_right ?_
  intro hrunning
  rw [hrunning] at hfollows hahead
  exact nomatch (hahead.resolve_right nofun).symm.trans hfollows

/-- Every supervised task is in good order. -/
theorem governed_of_play (hlasting : Lasting act? sound waits)
    (hplay : play? (step? act?) (start settings) moves = some s)
    (halong : Along (step? act?) (BringsWaiting sound waits) (start settings) moves)
    (htask : s.worker.task? i = some task) (hview : task.supervision = some view) :
    Governed sound waits task.job view := by
  refine halong.preserves (P := fun s => ∀ i task view, s.worker.task? i = some task →
    task.supervision = some view → Governed sound waits task.job view) ?_ ?_ hplay i task view
    htask hview
  · intro s s' move h hmove hstep
    refine forall_view_of_step (P := fun _ _ task view => Governed sound waits task.job view)
      ?_ ?_ hstep h
    · intro i task task' view entries _ hview h ht
      obtain ⟨view', hview', hafter, -⟩ := h.touches hlasting hview ht
      exact ⟨view', hview', hafter⟩
    rintro id job (rfl | rfl)
    · exact governed_fresh hmove.1 hmove.2
    · exact governed_fresh hmove.1 hmove.2
  · intro i task view htask
    rw [task?_start] at htask
    cases htask

/-! ## Tasks whose session is closed -/

/-- The session was closed before the supervisor had looked for the second time. -/
structure Forgone (sound waits : J → Prop) (reason : ClosureReason) (job : J)
    (view : Supervision) : Prop where
  governed : Governed sound waits job view
  closed : (ScanJob.closer job).reason = some reason
  unbegun : waits job
  recedes : view.stage.Recedes view.status

theorem Forgone.touches (h : Forgone sound waits reason task.job view)
    (hlasting : Lasting act? sound waits) (hview : task.supervision = some view)
    (ht : Touches act? s i task move entries task') :
    ∃ view', task'.supervision = some view' ∧ Forgone sound waits reason task'.job view' := by
  obtain ⟨view', hview', hgoverned, hcases⟩ := h.governed.touches hlasting hview ht
  obtain ⟨-, hremembers, hstays⟩ := h.governed.remembers hlasting hview ht hview'
  have hclosed : (ScanJob.closer task.job).isClosed = true :=
    Option.isSome_iff_exists.mpr ⟨reason, h.closed⟩
  have hrecedes : view'.stage.Recedes view'.status := by
    rcases hcases with ⟨free, failures, hsup⟩ | ⟨hstage, hstatus⟩
    · exact (hsup.recedes hclosed h.recedes).2.1
    · rw [hstage, hstatus]
      exact h.recedes
  have hunbegun : waits task'.job := by
    refine (hstays h.unbegun).resolve_right ?_
    intro hrunning
    rw [hrunning] at hrecedes
    exact hrecedes
  exact ⟨view', hview', hgoverned, hremembers.reason h.closed, hunbegun, hrecedes⟩

/-- The session was closed after the supervisor had found it open. -/
structure Underway (sound waits : J → Prop) (reason : ClosureReason) (job : J)
    (view : Supervision) : Prop where
  governed : Governed sound waits job view
  closed : (ScanJob.closer job).reason = some reason
  proceeds : view.stage.Proceeds reason (ScanJob.ending? job) view.status

theorem Underway.touches (h : Underway sound waits reason task.job view)
    (hlasting : Lasting act? sound waits) (hview : task.supervision = some view)
    (ht : Touches act? s i task move entries task') :
    ∃ view', task'.supervision = some view' ∧ Underway sound waits reason task'.job view' := by
  obtain ⟨view', hview', hgoverned, hcases⟩ := h.governed.touches hlasting hview ht
  obtain ⟨-, hremembers, -⟩ := h.governed.remembers hlasting hview ht hview'
  refine ⟨view', hview', hgoverned, hremembers.reason h.closed, ?_⟩
  rcases hcases with ⟨free, failures, hsup⟩ | ⟨hstage, hstatus⟩
  · exact hsup.proceeds h.closed hremembers h.proceeds
  · rw [hstage, hstatus]
    exact h.proceeds.mono hremembers.ending

/-! ## Every schedule -/

/-- A task that was closed before its job was begun is cancelled, or its supervisor has a
step to make. -/
theorem Forgone.settles (h : Forgone sound waits reason task.job view)
    (htask : s.worker.task? i = some task) (hview : task.supervision = some view) :
    view.status = .cancelled ∨ (view.status = .pending ∧ s.worker.supervise? i ≠ none) := by
  have hclosed : (ScanJob.closer task.job).isClosed = true :=
    Option.isSome_iff_exists.mpr ⟨reason, h.closed⟩
  have hnext := Worker.supervise?_ne_none_of_recedes htask hview hclosed h.recedes
  have hrecedes := h.recedes
  cases hstage : view.stage with
  | spawned => rw [hstage] at hrecedes; exact Or.inr ⟨hrecedes, hnext hrecedes⟩
  | admitted => rw [hstage] at hrecedes; exact Or.inr ⟨hrecedes, hnext hrecedes⟩
  | concluding final => rw [hstage] at hrecedes; exact Or.inr ⟨hrecedes.1, hnext hrecedes.1⟩
  | leaving => rw [hstage] at hrecedes; exact Or.inl hrecedes
  | ended => rw [hstage] at hrecedes; exact Or.inl hrecedes
  | launching => rw [hstage] at hrecedes; exact hrecedes.elim
  | running => rw [hstage] at hrecedes; exact hrecedes.elim

/-- A task that was closed after it had been found open is running, its supervisor
waiting for nothing but the job, or has the status of how the job ended. -/
theorem Underway.settles (h : Underway sound waits reason task.job view)
    (htask : s.worker.task? i = some task) (hview : task.supervision = some view) :
    (view.status = .running ∧
      (s.worker.supervise? i = none → ScanJob.ending? task.job = none)) ∨
    ∃ ending, ScanJob.ending? task.job = some ending ∧
      view.status = Worker.verdict reason ending := by
  have hnext := Worker.ending?_of_stuck_of_proceeds htask hview h.proceeds
  have hproceeds := h.proceeds
  cases hstage : view.stage with
  | launching => rw [hstage] at hproceeds; exact Or.inl ⟨hproceeds, hnext hproceeds⟩
  | running => rw [hstage] at hproceeds; exact Or.inl ⟨hproceeds, hnext hproceeds⟩
  | concluding final => rw [hstage] at hproceeds; exact Or.inl ⟨hproceeds.1, hnext hproceeds.1⟩
  | leaving => rw [hstage] at hproceeds; exact Or.inr hproceeds
  | ended => rw [hstage] at hproceeds; exact Or.inr hproceeds
  | spawned => rw [hstage] at hproceeds; exact hproceeds.elim
  | admitted => rw [hstage] at hproceeds; exact hproceeds.elim

/-- A supervisor has not made up its mind about a task whose session has been closed for
a reason.  Whatever is done then, by anybody and in any order, the reason stays, and

* if the task is pending, its job is never begun, and the task is cancelled, whatever
  the reason, or is still pending and its supervisor has a step to make;
* if it is running, it goes on running until its job has ended, and then, when its
  supervisor has made the steps left to it, is cancelled or closed for this reason if the
  job returned, and has failed with the text of the failure if it did not. -/
theorem closing_settles_status (hlasting : Lasting act? sound waits)
    (hplay : play? (step? act?) (start settings) moves = some s)
    (halong : Along (step? act?) (BringsWaiting sound waits) (start settings) moves)
    (htask : s.worker.task? i = some task) (hview : task.supervision = some view)
    (hundecided : view.stage.isUndecided = true)
    (hclosed : (ScanJob.closer task.job).reason = some reason)
    (hlater : play? (step? act?) s later = some w) :
    ∃ task' view', w.worker.task? i = some task' ∧ task'.supervision = some view' ∧
      (ScanJob.closer task'.job).reason = some reason ∧
      (view.status = .pending → waits task'.job ∧
        (view'.status = .cancelled ∨
          (view'.status = .pending ∧ w.worker.supervise? i ≠ none))) ∧
      (view.status = .running →
        (view'.status = .running ∧
          (w.worker.supervise? i = none → ScanJob.ending? task'.job = none)) ∨
        ∃ ending, ScanJob.ending? task'.job = some ending ∧
          ((ending = .ok ∧
              view'.status = if reason = .cancelled then .cancelled else .closed reason) ∨
            ∃ failure, failure? ending = some failure ∧
              view'.status = .failed failure.text)) := by
  have hgoverned := governed_of_play hlasting hplay halong htask hview
  have hfollows := hgoverned.follows
  -- the supervisor is ahead of its second look, or behind it
  have hways : view.status = .pending ∧ view.stage.Recedes view.status ∨
      view.status = .running ∧
        view.stage.Proceeds reason (ScanJob.ending? task.job) view.status := by
    cases hstage : view.stage with
    | spawned => rw [hstage] at hfollows; exact Or.inl ⟨hfollows, hfollows⟩
    | admitted => rw [hstage] at hfollows; exact Or.inl ⟨hfollows, hfollows⟩
    | launching => rw [hstage] at hfollows; exact Or.inr ⟨hfollows, hfollows⟩
    | running => rw [hstage] at hfollows; exact Or.inr ⟨hfollows, hfollows⟩
    | _ => rw [hstage] at hundecided; cases hundecided
  rcases hways with ⟨hpending, hrecedes⟩ | ⟨hrunning, hproceeds⟩
  · have hforgone : Forgone sound waits reason task.job view :=
      ⟨hgoverned, hclosed, hgoverned.waits (Or.inl hpending), hrecedes⟩
    obtain ⟨task', view', htask', hview', hlast⟩ :=
      view_of_play (fun hview h ht => h.touches hlasting hview ht) htask hview hforgone hlater
    refine ⟨task', view', htask', hview', hlast.closed, ?_, ?_⟩
    · intro _
      exact ⟨hlast.unbegun, hlast.settles htask' hview'⟩
    · intro hrunning
      cases hpending.symm.trans hrunning
  · have hunderway : Underway sound waits reason task.job view := ⟨hgoverned, hclosed, hproceeds⟩
    obtain ⟨task', view', htask', hview', hlast⟩ :=
      view_of_play (fun hview h ht => h.touches hlasting hview ht) htask hview hunderway hlater
    refine ⟨task', view', htask', hview', hlast.closed, ?_, ?_⟩
    · intro hpending
      cases hpending.symm.trans hrunning
    · intro _
      refine (hlast.settles htask' hview').imp_right ?_
      rintro ⟨ending, hended, hstatus⟩
      exact ⟨ending, hended, hstatus ▸ Worker.verdict_cases reason ending⟩

end
end Service

/-! ## Jobs that forget nothing -/

namespace PlainJob

theorem remembers_close (job : PlainJob) (reason : ClosureReason) :
    Remembers job (job.close reason) where
  reason {first} h := by
    have hclosed : job.closer.isClosed = true := Option.isSome_iff_exists.mpr ⟨first, h⟩
    show (job.closer.close reason).reason = some first
    rw [Closer.close_of_isClosed _ _ hclosed]
    exact h
  ending h := h

/-- A plain job does nothing before it is begun, and nothing after it has ended. -/
theorem lasting : Lasting act? (fun _ => True) (fun job => job.begun = false) where
  acts {job job' _} _ hact := by
    obtain ⟨hmay, ⟨⟩⟩ := Option.ite_none_right_eq_some.mp hact
    simp only [Bool.and_eq_true, Option.isNone_iff_eq_none] at hmay
    obtain ⟨⟨hbegun, hending⟩, -⟩ := hmay
    refine ⟨trivial, ⟨?_, ?_⟩, fun hwaits => nomatch hwaits.symm.trans hbegun⟩
    · intro reason hreason
      show job.conclude.closer.reason = some reason
      unfold conclude
      cases hcloses : job.closes with
      | none => exact hreason
      | some other => exact (remembers_close job other).reason hreason
    · intro ending hended
      cases hending.symm.trans hended
  closes {job} _ reason := ⟨trivial, remembers_close job reason, id⟩
  begins _ _ := ⟨trivial, id, id⟩

end PlainJob
end Schedule

/-- Nor does a scan that is handed over to a worker. -/
theorem Invocation.lasting :
    Schedule.Lasting (@act? Row R) Marked (fun v => v.phase = .queued) where
  acts {v v' _} hmarked hact := by
    obtain ⟨hmarked', hphase, hreason⟩ := hmarked.act hact
    refine ⟨hmarked', ⟨fun {reason} => hreason reason, ?_⟩, ?_⟩
    · intro ending hended
      have hp := Schedule.Service.phase_of_ending? hended
      exact Schedule.Service.ending?_of_phase ((hphase (Or.inr ⟨ending, hp⟩)).trans hp)
    · intro hp
      exact (hphase (Or.inl hp)).trans hp
  closes {v} hmarked reason := by
    have hstep : v.step? (.close reason) = some (Schedule.ScanJob.close v reason) := rfl
    exact ⟨hmarked.close reason, ⟨fun hr => reason_of_step hmarked.coherent hr hstep, id⟩, id⟩
  begins {v} hmarked hp := by
    obtain ⟨hstep, hmarked'⟩ := hmarked.begin hp
    refine ⟨hmarked', fun hr => reason_of_step hmarked.coherent hr hstep, ?_⟩
    intro ending hended
    cases hp.symm.trans (Schedule.Service.phase_of_ending? hended)

namespace Schedule.Service

/-- One of two jobs runs and the other waits for the slot when the sessions of both are
closed for the same reason. -/
def closedForTimeout : List (WorkerMove PlainJob Unit) :=
  [.submit "first" .heeding, .submit "second" .heeding, .supervise 0, .supervise 0, .supervise 0,
    .close 0 .consumerTimeout, .close 1 .consumerTimeout]

/-- The first returns, and both supervisors write the status. -/
def settledThen : List (WorkerMove PlainJob Unit) :=
  [.act 0 (), .supervise 0, .supervise 0, .supervise 1, .supervise 1]

theorem closing_settles_status_of_two :
    ∃ (s w : Service PlainJob) (first second : Task PlainJob) (view view' : Supervision),
      play? (step? PlainJob.act?) (start oneSlot.settings) closedForTimeout = some s ∧
      play? (step? PlainJob.act?) s settledThen = some w ∧
      w.worker.task? 0 = some first ∧ first.supervision = some view ∧
      first.job.closer.reason = some .consumerTimeout ∧
      view.status = .closed .consumerTimeout ∧
      w.worker.task? 1 = some second ∧ second.supervision = some view' ∧
      second.job.closer.reason = some .consumerTimeout ∧ second.job.begun = false ∧
      view'.status = .cancelled := by
  have halong : Along (step? PlainJob.act?)
      (BringsWaiting (fun _ => True) (fun job : PlainJob => job.begun = false))
      (start oneSlot.settings) closedForTimeout :=
    ⟨⟨trivial, rfl⟩, ⟨trivial, rfl⟩, trivial, trivial, trivial, trivial, trivial, trivial⟩
  obtain ⟨first, view, hfirst, hview, hreason, -, hrunning⟩ :=
    @closing_settles_status _ _ _ PlainJob.act? _ _ _ _ closedForTimeout settledThen
      oneSlot.settings 0 _ _ .consumerTimeout PlainJob.lasting rfl halong rfl rfl rfl rfl rfl
  obtain ⟨second, view', hsecond, hview', hreason', hpending, -⟩ :=
    @closing_settles_status _ _ _ PlainJob.act? _ _ _ _ closedForTimeout settledThen
      oneSlot.settings 1 _ _ .consumerTimeout PlainJob.lasting rfl halong rfl rfl rfl rfl rfl
  refine ⟨_, _, first, second, view, view', rfl, rfl, hfirst, hview, hreason, ?_, hsecond, hview',
    hreason', (hpending rfl).1, ?_⟩
  · cases hfirst
    cases hview
    rfl
  · cases hsecond
    cases hview'
    rfl

/-- The task that waits is closed for a reason, and ends cancelled. -/
theorem waiting_task_hides_reason :
    ∃ (s w : Service PlainJob) (task task' : Task PlainJob) (view view' : Supervision),
      play? (step? PlainJob.act?) (start oneSlot.settings) closedForTimeout = some s ∧
      s.worker.task? 1 = some task ∧ task.supervision = some view ∧
      view.stage = .spawned ∧ view.tracked = true ∧
      task.job.closer.reason = some .consumerTimeout ∧
      play? (step? PlainJob.act?) s settledThen = some w ∧
      w.worker.task? 1 = some task' ∧ task'.supervision = some view' ∧
      task'.job.begun = false ∧ task'.job.closer.reason = some .consumerTimeout ∧
      view'.status.isFinished = true ∧ view'.status ≠ .closed .consumerTimeout :=
  ⟨_, _, _, _, _, _, rfl, rfl, rfl, rfl, rfl, rfl, rfl, rfl, rfl, rfl, rfl, rfl, nofun⟩

end Schedule.Service
end RowBridge
