/-
# `RowBridge.Proofs.Schedule.Supervising` — what one step of a supervisor can do

A worker's tasks are a list, and a step of a supervisor replaces one of them.
The first section says what each change of the list does to the task at a
position; nothing else unfolds the changes.

`Worker.Supervises` lists what can come of a step, one rule for each way; every
invariant about supervisors is a case analysis on these rules.

    rule        stage       when                       next stage            besides
    needsNone   spawned     no limit                   admitted
    givesUp     spawned     a limit, closed            concluding cancelled
    getsSlot    spawned     a limit, open, a free one  admitted              a slot is taken
    turnsBack   admitted    closed                     concluding cancelled
    goesOn      admitted    open                       launching             status running
    launches    launching                              running               the job begins
    returns     running     the job returned           concluding            the reason is read
    fails       running     the job failed             concluding failed     the failure is sent
    settles     concluding                             leaving               the status is final
    leaves      leaving                                ended                 the slot is given back
-/
import RowBridge.Schedule.Supervise

namespace RowBridge.Schedule

/-- The reason by which a supervisor judges a job that has returned. -/
theorem statusOfReturn_isFinished (reason : Option ClosureReason) :
    (Worker.statusOfReturn reason).isFinished = true := by
  rcases reason with _ | reason
  · rfl
  · cases reason <;> rfl

/-- What the worker says about a task when its supervisor has come this far. -/
def SupervisorStage.Agrees (status : TaskStatus) : SupervisorStage → Prop
  | .spawned | .admitted => status = .pending
  | .launching | .running => status = .running
  | .concluding final => status.isFinished = false ∧ final.isFinished = true
  | .leaving | .ended => status.isFinished = true

namespace Worker

variable {J : Type}

/-! ## The task at a position -/

section
variable (w : Worker J) (i j : Nat)

theorem task?_setTask (task : Task J) :
    (w.setTask i task).task? j = if i = j then (w.task? j).map fun _ => task else w.task? j := by
  show (w.tasks.set i task)[j]? = _
  rw [List.getElem?_set']
  rfl

theorem task?_onJob (f : J → J) :
    (w.onJob i f).task? j =
      if i = j then (w.task? j).map fun task => { task with job := f task.job } else w.task? j := by
  by_cases hij : i = j
  · subst hij
    cases h : w.task? i with
    | none => simp [onJob, h]
    | some task => simp [onJob, h, task?_setTask]
  · rw [if_neg hij]
    cases h : w.task? i with
    | none => simp [onJob, h]
    | some task => simp [onJob, h, task?_setTask, hij]

theorem task?_onSupervision (f : Supervision → Supervision) :
    (w.onSupervision i f).task? j =
      if i = j then (w.task? j).map fun task => { task with supervision := task.supervision.map f }
      else w.task? j := by
  by_cases hij : i = j
  · subst hij
    cases h : w.task? i with
    | none => simp [onSupervision, h]
    | some task => simp [onSupervision, h, task?_setTask]
  · rw [if_neg hij]
    cases h : w.task? i with
    | none => simp [onSupervision, h]
    | some task => simp [onSupervision, h, task?_setTask, hij]

/-- A change of a job is no change of what the worker keeps about it. -/
@[simp] theorem supervision?_onJob (f : J → J) :
    (w.onJob i f).supervision? j = w.supervision? j := by
  rw [supervision?, task?_onJob]
  split
  · cases h : w.task? j <;> simp [supervision?, h]
  · rfl

@[simp] theorem calls_onJob (f : J → J) : (w.onJob i f).calls = w.calls := by
  unfold onJob
  split <;> rfl

@[simp] theorem calls_onSupervision (f : Supervision → Supervision) :
    (w.onSupervision i f).calls = w.calls := by
  unfold onSupervision
  split <;> rfl

@[simp] theorem length_onJob (f : J → J) : (w.onJob i f).tasks.length = w.tasks.length := by
  unfold onJob
  split
  · rfl
  · exact List.length_set

@[simp] theorem length_onSupervision (f : Supervision → Supervision) :
    (w.onSupervision i f).tasks.length = w.tasks.length := by
  unfold onSupervision
  split
  · rfl
  · exact List.length_set

end

/-- A task the worker keeps something about is in its list. -/
theorem supervision?_eq_some {w : Worker J} {i : Nat} {view : Supervision} :
    w.supervision? i = some view ↔
      ∃ task, w.task? i = some task ∧ task.supervision = some view :=
  Option.bind_eq_some_iff

theorem lt_length_of_supervision? {w : Worker J} {i : Nat} {view : Supervision}
    (h : w.supervision? i = some view) : i < w.tasks.length := by
  obtain ⟨task, htask, -⟩ := supervision?_eq_some.mp h
  exact (List.getElem?_eq_some_iff.mp htask).1

/-- The worker after a step of the supervisor of the task at a position. -/
def replaced (w : Worker J) (i : Nat) (task : Task J) (free : Nat)
    (failures : Broadcast TaskFailure) (job : J) (view : Supervision) : Worker J :=
  { w with free := free, failures := failures }.setTask i
    { task with job := job, supervision := some view }

section
variable {w : Worker J} {i : Nat} {task : Task J} {view : Supervision}

theorem onSupervision_eq (htask : w.task? i = some task) (hview : task.supervision = some view)
    (f : Supervision → Supervision) :
    w.onSupervision i f = w.replaced i task w.free w.failures task.job (f view) := by
  simp [onSupervision, htask, hview, replaced]

theorem onJob_onSupervision_eq (htask : w.task? i = some task)
    (hview : task.supervision = some view) (f : J → J) (g : Supervision → Supervision) :
    (w.onJob i f).onSupervision i g =
      w.replaced i task w.free w.failures (f task.job) (g view) := by
  have hjob : (w.onJob i f).task? i = some { task with job := f task.job } := by
    rw [task?_onJob, if_pos rfl, htask]
    rfl
  rw [onSupervision, hjob]
  simp [onJob, htask, hview, replaced, setTask, List.set_set]

end

/-! ## The rules -/

variable [ScanJob J]

/-- What one step of a supervisor can do: to the free slots, to the failures, to
its job, and to what the worker keeps about the task. -/
inductive Supervises (w : Worker J) (task : Task J) (view : Supervision) :
    Nat → Broadcast TaskFailure → J → Supervision → Prop
  | needsNone : view.stage = .spawned → w.settings.limit = none →
      Supervises w task view w.free w.failures task.job { view with stage := .admitted }
  | givesUp {limit : Nat} : view.stage = .spawned → w.settings.limit = some limit →
      (ScanJob.closer task.job).isClosed = true →
      Supervises w task view w.free w.failures task.job
        { view with stage := .concluding .cancelled }
  | getsSlot {limit : Nat} : view.stage = .spawned → w.settings.limit = some limit →
      (ScanJob.closer task.job).isClosed = false → 0 < w.free →
      Supervises w task view (w.free - 1) w.failures task.job
        { view with stage := .admitted, holdsSlot := true }
  | turnsBack : view.stage = .admitted → (ScanJob.closer task.job).isClosed = true →
      Supervises w task view w.free w.failures task.job
        { view with stage := .concluding .cancelled }
  | goesOn : view.stage = .admitted → (ScanJob.closer task.job).isClosed = false →
      Supervises w task view w.free w.failures task.job
        { view with stage := .launching, status := .running }
  | launches : view.stage = .launching →
      Supervises w task view w.free w.failures (ScanJob.begin task.job)
        { view with stage := .running }
  | returns {ending : Ending} : view.stage = .running → ScanJob.ending? task.job = some ending →
      failure? ending = none →
      Supervises w task view w.free w.failures task.job
        { view with stage := .concluding (statusOfReturn (ScanJob.closer task.job).reason) }
  | fails {ending : Ending} {failure : ScanError} : view.stage = .running →
      ScanJob.ending? task.job = some ending → failure? ending = some failure →
      Supervises w task view w.free
        (w.failures.send ⟨task.id, ScanJob.statement task.job, failure⟩)
        (closeAfter task.job ending) { view with stage := .concluding (.failed failure.text) }
  | settles {final : TaskStatus} : view.stage = .concluding final →
      Supervises w task view w.free w.failures task.job
        { view with stage := .leaving, status := final }
  | leaves : view.stage = .leaving →
      Supervises w task view (if view.holdsSlot then w.free + 1 else w.free) w.failures task.job
        { view with
          stage := .ended
          holdsSlot := false
          tracked := view.tracked && !w.settings.autoCleanup }

section
variable {w : Worker J} {i : Nat}

/-- A failure is sent whatever becomes of the jobs. -/
theorem publish_onJob (f : J → J) (task : Task J) (failure : ScanError) :
    (w.onJob i f).publish task failure = (w.publish task failure).onJob i f := by
  have hsame : (w.publish task failure).task? i = w.task? i := rfl
  rw [onJob, onJob, hsame]
  cases w.task? i <;> rfl

/-- Every step of a supervisor is one of the rules. -/
theorem supervises_of_supervise? {w' : Worker J} (h : w.supervise? i = some w') :
    ∃ task view free failures job view', w.task? i = some task ∧ task.supervision = some view ∧
      Supervises w task view free failures job view' ∧
      w' = w.replaced i task free failures job view' := by
  unfold supervise? at h
  split at h
  · cases h
  next task htask =>
  split at h
  · cases h
  next view hview =>
  split at h
  next hstage =>
    unfold assignSlot at h
    split at h
    next hlimit =>
      cases h
      exact ⟨task, view, _, _, _, _, htask, hview, .needsNone hstage hlimit,
        onSupervision_eq htask hview _⟩
    next limit hlimit =>
      split at h
      next hclosed =>
        cases h
        exact ⟨task, view, _, _, _, _, htask, hview, .givesUp hstage hlimit hclosed,
          onSupervision_eq htask hview _⟩
      next hopen =>
        split at h
        next hfree =>
          cases h
          exact ⟨task, view, _, _, _, _, htask, hview,
            .getsSlot hstage hlimit (by simpa using hopen) hfree,
            onSupervision_eq (w := { w with free := w.free - 1 }) htask hview _⟩
        · cases h
  next hstage =>
    cases h
    unfold lookAgain
    split
    next hclosed =>
      exact ⟨task, view, _, _, _, _, htask, hview, .turnsBack hstage hclosed,
        onSupervision_eq htask hview _⟩
    next hopen =>
      exact ⟨task, view, _, _, _, _, htask, hview, .goesOn hstage (by simpa using hopen),
        onSupervision_eq htask hview _⟩
  next hstage =>
    cases h
    exact ⟨task, view, _, _, _, _, htask, hview, .launches hstage,
      onJob_onSupervision_eq htask hview _ _⟩
  next hstage =>
    obtain ⟨ending, hending, rfl⟩ := Option.map_eq_some_iff.mp h
    unfold conclude
    split
    next hfailure =>
      exact ⟨task, view, _, _, _, _, htask, hview, .returns hstage hending hfailure,
        onSupervision_eq htask hview _⟩
    next failure hfailure =>
      refine ⟨task, view, _, _, _, _, htask, hview, .fails hstage hending hfailure, ?_⟩
      rw [publish_onJob]
      exact onJob_onSupervision_eq (w := w.publish task failure) htask hview (closeAfter · ending) _
  next final hstage =>
    cases h
    exact ⟨task, view, _, _, _, _, htask, hview, .settles hstage, onSupervision_eq htask hview _⟩
  next hstage =>
    cases h
    exact ⟨task, view, _, _, _, _, htask, hview, .leaves hstage,
      onSupervision_eq (w := { w with free := if view.holdsSlot then w.free + 1 else w.free })
        htask hview _⟩
  · cases h

end

/-- A supervisor that cannot make a step waits for a slot, its session open, or for
its job, or has ended. -/
theorem stuck_cases {w : Worker J} {i : Nat} {task : Task J} {view : Supervision}
    (hstuck : w.supervise? i = none) (htask : w.task? i = some task)
    (hview : task.supervision = some view) :
    (view.stage = .spawned ∧ (ScanJob.closer task.job).isClosed = false ∧ w.free = 0) ∨
      view.stage = .running ∨ view.stage = .ended := by
  rw [supervise?, htask] at hstuck
  simp only [hview] at hstuck
  cases hstage : view.stage with
  | spawned =>
      simp only [hstage, assignSlot] at hstuck
      split at hstuck
      · cases hstuck
      · split at hstuck
        · cases hstuck
        next hopen =>
          split at hstuck
          · cases hstuck
          next hfree => exact Or.inl ⟨rfl, by simpa using hopen, Nat.eq_zero_of_not_pos hfree⟩
  | running => exact Or.inr (Or.inl rfl)
  | ended => exact Or.inr (Or.inr rfl)
  | _ => simp only [hstage] at hstuck; cases hstuck

/-! ## Stages and statuses -/

section
variable {w : Worker J} {task : Task J} {view view' : Supervision} {free : Nat}
  {failures : Broadcast TaskFailure} {job : J}

/-- The status keeps up with the supervisor. -/
theorem Supervises.agrees (h : w.Supervises task view free failures job view')
    (ha : view.stage.Agrees view.status) : view'.stage.Agrees view'.status := by
  have hunfinished : view.status = .pending ∨ view.status = .running →
      view.status.isFinished = false := by
    rintro (h | h) <;> rw [h] <;> rfl
  cases h with
  | needsNone hs => rw [hs] at ha; exact ha
  | givesUp hs => rw [hs] at ha; exact ⟨hunfinished (Or.inl ha), rfl⟩
  | getsSlot hs => rw [hs] at ha; exact ha
  | turnsBack hs => rw [hs] at ha; exact ⟨hunfinished (Or.inl ha), rfl⟩
  | goesOn => exact rfl
  | launches hs => rw [hs] at ha; exact ha
  | returns hs => rw [hs] at ha; exact ⟨hunfinished (Or.inr ha), statusOfReturn_isFinished _⟩
  | fails hs => rw [hs] at ha; exact ⟨hunfinished (Or.inr ha), rfl⟩
  | settles hs => rw [hs] at ha; exact ha.2
  | leaves hs => rw [hs] at ha; exact ha

/-- A final status is final. -/
theorem Supervises.status_eq (h : w.Supervises task view free failures job view')
    (ha : view.stage.Agrees view.status) (hf : view.status.isFinished = true) :
    view'.status = view.status := by
  cases h with
  | goesOn hs =>
      rw [hs] at ha
      rw [show view.status = .pending from ha] at hf
      cases hf
  | settles hs =>
      rw [hs] at ha
      exact absurd (ha.1.symm.trans hf) Bool.false_ne_true
  | _ => rfl

/-- A task leaves the table only after it has ended. -/
theorem Supervises.tracked (h : w.Supervises task view free failures job view')
    (ha : view.stage.Agrees view.status)
    (ht : view.tracked = true ∨ view.status.isFinished = true) :
    view'.tracked = true ∨ view'.status.isFinished = true := by
  cases h with
  | goesOn hs =>
      refine ht.imp_right ?_
      intro hf
      rw [hs] at ha
      rw [show view.status = .pending from ha] at hf
      cases hf
  | settles hs =>
      rw [hs] at ha
      exact Or.inr ha.2
  | leaves hs =>
      rw [hs] at ha
      exact Or.inr ha
  | _ => exact ht

/-- Supervisors do not touch the handles. -/
theorem Supervises.handle (h : w.Supervises task view free failures job view') :
    view'.handle = view.handle := by
  cases h <;> rfl

/-- A supervisor that has ended makes no step. -/
theorem Supervises.stage_ne (h : w.Supervises task view free failures job view') :
    view.stage ≠ .ended := by
  intro hended
  have hstage : ∀ {stage : SupervisorStage}, view.stage = stage → stage = .ended := by
    rintro _ rfl
    exact hended
  cases h with
  | needsNone h => cases hstage h
  | givesUp h => cases hstage h
  | getsSlot h => cases hstage h
  | turnsBack h => cases hstage h
  | goesOn h => cases hstage h
  | launches h => cases hstage h
  | returns h => cases hstage h
  | fails h => cases hstage h
  | settles h => cases hstage h
  | leaves h => cases hstage h

end
end Worker
end RowBridge.Schedule
