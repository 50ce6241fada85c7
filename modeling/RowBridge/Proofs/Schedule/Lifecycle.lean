/-
# `RowBridge.Proofs.Schedule.Lifecycle` — statuses, and the failures that are sent

The status of a task is written by its supervisor, at two moments of its course.

    pending ──→ running ──→ completed, closed, failed or cancelled
       └──────────────────→ cancelled

The second moment comes after the supervisor has made up its mind, and a failure is
sent before that.  So a task is failed, or is bound to be (`Supervision.Fails`), from
the very step on that sends its failure, and no other step makes it so or sends
anything (`Worker.Supervises.fails_cases`).

**Proved here** of every worker in use: what one step does to a status
(`Service.goes_of_step`), and that the failures that were sent are those of the failed
tasks, one each, and say whose they are (`Worker.Informs`, `Service.told_of_step`).
-/
import RowBridge.Proofs.Schedule.Completion

namespace RowBridge

variable {Row R : Type}

namespace Schedule

variable {J μ : Type}

/-! ## What becomes of a status -/

/-- What may become of a status in one step. -/
inductive TaskStatus.Goes : TaskStatus → TaskStatus → Prop
  | stays {status : TaskStatus} : Goes status status
  | starts : Goes .pending .running
  | ends {final : TaskStatus} : final.isFinished = true → Goes .running final
  | withdraws : Goes .pending .cancelled

theorem TaskStatus.Goes.eq_of_isFinished {status status' : TaskStatus} (h : status.Goes status')
    (hf : status.isFinished = true) : status' = status := by
  cases h with
  | stays => rfl
  | _ => cases hf

/-- The status of a task whose supervisor has come this far, and the one it is going
to have. -/
def SupervisorStage.Follows (status : TaskStatus) : SupervisorStage → Prop
  | .spawned | .admitted => status = .pending
  | .launching | .running => status = .running
  | .concluding final =>
      (status = .pending ∧ final = .cancelled) ∨ (status = .running ∧ final.isFinished = true)
  | .leaving | .ended => status.isFinished = true

/-- Whether the supervisor has not made up its mind. -/
def SupervisorStage.isUndecided : SupervisorStage → Bool
  | .spawned | .admitted | .launching | .running => true
  | .concluding _ | .leaving | .ended => false

/-- The task has failed with this text, or is bound to. -/
def Supervision.Fails (view : Supervision) (text : String) : Prop :=
  view.status = .failed text ∨ view.stage = .concluding (.failed text)

section
variable {view : Supervision}

theorem SupervisorStage.Follows.not_fails (h : view.stage.Follows view.status)
    (hundecided : view.stage.isUndecided = true) (text : String) : ¬ view.Fails text := by
  rintro (hstatus | hfinal)
  · rw [hstatus] at h
    cases hstage : view.stage with
    | concluding | leaving | ended => rw [hstage] at hundecided; cases hundecided
    | _ => rw [hstage] at h; cases h
  · rw [hfinal] at hundecided
    cases hundecided

theorem SupervisorStage.Follows.fails_cases (h : view.stage.Follows view.status) {text : String}
    (hf : view.Fails text) : view.status = .failed text ∨
      (view.status = .running ∧ view.stage = .concluding (.failed text)) := by
  refine hf.imp_right fun hfinal => ⟨?_, hfinal⟩
  rw [hfinal] at h
  rcases h with ⟨-, hwithdrawn⟩ | ⟨hrunning, -⟩
  · cases hwithdrawn
  · exact hrunning

theorem SupervisorStage.Follows.fails_iff_of_concluding (h : view.stage.Follows view.status)
    {final : TaskStatus} (hs : view.stage = .concluding final) (text : String) :
    view.Fails text ↔ final = .failed text := by
  refine ⟨?_, fun hfinal => Or.inr (hfinal ▸ hs)⟩
  rintro (hstatus | hfinal)
  · rw [hs, hstatus] at h
    rcases h with ⟨hpending, -⟩ | ⟨hrunning, -⟩
    · cases hpending
    · cases hrunning
  · exact SupervisorStage.concluding.inj (hs.symm.trans hfinal)

end

theorem statusOfReturn_ne_failed (reason : Option ClosureReason) (text : String) :
    Worker.statusOfReturn reason ≠ .failed text := by
  rcases reason with _ | reason
  · exact nofun
  · cases reason <;> exact nofun

namespace Worker

section
variable [ScanJob J] {w : Worker J} {task : Task J} {view view' : Supervision} {free : Nat}
  {failures : Broadcast TaskFailure} {job : J}

/-- A step of a supervisor takes the status one step on, if at all. -/
theorem Supervises.goes (h : w.Supervises task view free failures job view')
    (hf : view.stage.Follows view.status) :
    view'.stage.Follows view'.status ∧ view.status.Goes view'.status := by
  cases h with
  | needsNone hs => rw [hs] at hf; exact ⟨hf, .stays⟩
  | givesUp hs => rw [hs] at hf; exact ⟨Or.inl ⟨hf, rfl⟩, .stays⟩
  | getsSlot hs => rw [hs] at hf; exact ⟨hf, .stays⟩
  | turnsBack hs => rw [hs] at hf; exact ⟨Or.inl ⟨hf, rfl⟩, .stays⟩
  | goesOn hs =>
      rw [hs] at hf
      rw [show view.status = .pending from hf]
      exact ⟨rfl, .starts⟩
  | launches hs => rw [hs] at hf; exact ⟨hf, .stays⟩
  | returns hs => rw [hs] at hf; exact ⟨Or.inr ⟨hf, statusOfReturn_isFinished _⟩, .stays⟩
  | fails hs => rw [hs] at hf; exact ⟨Or.inr ⟨hf, rfl⟩, .stays⟩
  | settles hs =>
      rw [hs] at hf
      rcases hf with ⟨hpending, rfl⟩ | ⟨hrunning, hfinal⟩
      · rw [hpending]
        exact ⟨rfl, .withdraws⟩
      · rw [hrunning]
        exact ⟨hfinal, .ends hfinal⟩
  | leaves hs => rw [hs] at hf; exact ⟨hf, .stays⟩

/-- The step that sends a failure makes the task fail, with the text of it; no other
step sends anything, or changes whether the task fails and with which text. -/
theorem Supervises.fails_cases (h : w.Supervises task view free failures job view')
    (hf : view.stage.Follows view.status) :
    (failures = w.failures ∧ ∀ text, view'.Fails text ↔ view.Fails text) ∨
      ∃ failure, failures = w.failures.send ⟨task.id, ScanJob.statement task.job, failure⟩ ∧
        (∀ text, ¬ view.Fails text) ∧ ∀ text, view'.Fails text ↔ text = failure.text := by
  have hafter := (h.goes hf).1
  have hbefore : ∀ {stage : SupervisorStage}, view.stage = stage → stage.isUndecided = true →
      ∀ text, ¬ view.Fails text := by
    rintro _ rfl hundecided
    exact hf.not_fails hundecided
  have hquiet : (∀ text, ¬ view.Fails text) → (∀ text, ¬ view'.Fails text) →
      ∀ text, view'.Fails text ↔ view.Fails text :=
    fun hbefore hafter text => iff_of_false (hafter text) (hbefore text)
  -- only one row sends: in those before it nothing is decided, or something else, and
  -- the two after it keep what was decided
  cases h with
  | needsNone hs => exact Or.inl ⟨rfl, hquiet (hbefore hs rfl) (hafter.not_fails rfl)⟩
  | getsSlot hs => exact Or.inl ⟨rfl, hquiet (hbefore hs rfl) (hafter.not_fails rfl)⟩
  | goesOn hs => exact Or.inl ⟨rfl, hquiet (hbefore hs rfl) (hafter.not_fails rfl)⟩
  | launches hs => exact Or.inl ⟨rfl, hquiet (hbefore hs rfl) (hafter.not_fails rfl)⟩
  | givesUp hs =>
      refine Or.inl ⟨rfl, hquiet (hbefore hs rfl) ?_⟩
      exact fun text hfails => nomatch (hafter.fails_iff_of_concluding rfl text).mp hfails
  | turnsBack hs =>
      refine Or.inl ⟨rfl, hquiet (hbefore hs rfl) ?_⟩
      exact fun text hfails => nomatch (hafter.fails_iff_of_concluding rfl text).mp hfails
  | returns hs =>
      refine Or.inl ⟨rfl, hquiet (hbefore hs rfl) ?_⟩
      intro text hfails
      exact statusOfReturn_ne_failed _ text ((hafter.fails_iff_of_concluding rfl text).mp hfails)
  | @fails ending failure hs =>
      refine Or.inr ⟨failure, rfl, hbefore hs rfl, ?_⟩
      intro text
      rw [hafter.fails_iff_of_concluding rfl text, TaskStatus.failed.injEq]
      exact eq_comm
  | @settles final hs =>
      refine Or.inl ⟨rfl, ?_⟩
      intro text
      rw [hf.fails_iff_of_concluding hs text]
      exact ⟨fun hfails => hfails.resolve_right nofun, Or.inl⟩
  | leaves hs =>
      refine Or.inl ⟨rfl, ?_⟩
      intro text
      refine or_congr_right (iff_of_false nofun ?_)
      rw [hs]
      exact nofun

end
end Worker

/-! ## Statements -/

/-- Nothing that is done to a job changes the statement it is for. -/
structure Steady [ScanJob J] (act? : J → μ → Option J) : Prop where
  acts : ∀ {job job' : J} {m : μ}, act? job m = some job' →
    ScanJob.statement job' = ScanJob.statement job
  closes : ∀ (job : J) (reason : ClosureReason),
    ScanJob.statement (ScanJob.close job reason) = ScanJob.statement job
  begins : ∀ job : J, ScanJob.statement (ScanJob.begin job) = ScanJob.statement job

namespace Service

section
variable [ScanJob J] {act? : J → μ → Option J} {s : Service J} {move : WorkerMove J μ} {i : Nat}
  {task task' : Task J} {entries : List Entry}

theorem Steady.supervises (hsteady : Steady act?) {w : Worker J} {view view' : Supervision}
    {free : Nat} {failures : Broadcast TaskFailure} {job : J}
    (h : w.Supervises task view free failures job view') :
    ScanJob.statement job = ScanJob.statement task.job := by
  cases h with
  | launches => exact hsteady.begins task.job
  | @fails ending =>
      cases ending with
      | raised text => exact hsteady.closes task.job .sourceFailure
      | _ => rfl
  | _ => rfl

/-- A task keeps its name and its statement. -/
theorem Touches.label (h : Touches act? s i task move entries task') (hsteady : Steady act?) :
    task'.id = task.id ∧ ScanJob.statement task'.job = ScanJob.statement task.job := by
  cases h with
  | acts hact => exact ⟨rfl, hsteady.acts hact⟩
  | closes => exact ⟨rfl, hsteady.closes _ _⟩
  | cancels => exact ⟨rfl, hsteady.closes _ _⟩
  | supervised _ hsup => exact ⟨rfl, Steady.supervises hsteady hsup⟩
  | _ => exact ⟨rfl, rfl⟩

end
end Service

/-! ## Who is told what -/

namespace Worker

/-- The task of this position has failed with this text, or is bound to. -/
def FailsAt (w : Worker J) (i : Nat) (text : String) : Prop :=
  ∃ view, w.supervision? i = some view ∧ view.Fails text

@[simp] theorem failures_onJob (w : Worker J) (i : Nat) (f : J → J) :
    (w.onJob i f).failures = w.failures := by
  unfold onJob
  split <;> rfl

@[simp] theorem failures_onSupervision (w : Worker J) (i : Nat) (f : Supervision → Supervision) :
    (w.onSupervision i f).failures = w.failures := by
  unfold onSupervision
  split <;> rfl

theorem failsAt_of_eq {w w' : Worker J} {i : Nat} (h : w'.supervision? i = w.supervision? i)
    (text : String) : w'.FailsAt i text ↔ w.FailsAt i text := by
  unfold FailsAt
  rw [h]

theorem failsAt_iff {w : Worker J} {i : Nat} {view : Supervision}
    (hview : w.supervision? i = some view) (text : String) :
    w.FailsAt i text ↔ view.Fails text := by
  refine ⟨?_, fun hf => ⟨view, hview, hf⟩⟩
  rintro ⟨other, hother, hf⟩
  cases hview.symm.trans hother
  exact hf

/-- The name and the statement of a task. -/
def label? [ScanJob J] (w : Worker J) (i : Nat) : Option (String × String) :=
  (w.task? i).map fun task => (task.id, ScanJob.statement task.job)

/-- These are the failures that were sent, each with the task it is from: it names the
task, and the task fails with its text; and every task that fails is among them, once. -/
structure Informs [ScanJob J] (w : Worker J) (told : List (Nat × TaskFailure)) : Prop where
  sent : told.map (·.2) = w.failures.sent
  once : (told.map (·.1)).Nodup
  so : ∀ i failure, (i, failure) ∈ told →
    w.FailsAt i failure.error.text ∧ w.label? i = some (failure.task, failure.statement)
  all : ∀ i text, w.FailsAt i text → i ∈ told.map (·.1)

/-- What a worker says about its tasks, and what it has sent. -/
structure Told [ScanJob J] (w : Worker J) : Prop where
  follows : ∀ i view, w.supervision? i = some view → view.stage.Follows view.status
  informs : ∃ told, w.Informs told

section
variable [ScanJob J] {w w' : Worker J} {told : List (Nat × TaskFailure)} {i j : Nat}

theorem Informs.mono (h : w.Informs told) (hsent : w'.failures.sent = w.failures.sent)
    (hfails : ∀ i text, w'.FailsAt i text ↔ w.FailsAt i text)
    (hlabel : ∀ i label, w.label? i = some label → w'.label? i = some label) :
    w'.Informs told where
  sent := h.sent.trans hsent.symm
  once := h.once
  so i failure hin := by
    obtain ⟨hf, hl⟩ := h.so i failure hin
    exact ⟨(hfails i _).mpr hf, hlabel i _ hl⟩
  all i text hf := h.all i text ((hfails i text).mp hf)

/-- A task that has not failed fails, and says so. -/
theorem Informs.send (h : w.Informs told) {failure : TaskFailure}
    (hsent : w'.failures.sent = w.failures.sent ++ [failure])
    (hnew : ∀ text, ¬ w.FailsAt j text)
    (hfails : ∀ i text, w'.FailsAt i text ↔
      w.FailsAt i text ∨ (i = j ∧ text = failure.error.text))
    (hlabel : ∀ i label, w.label? i = some label → w'.label? i = some label)
    (hj : w.label? j = some (failure.task, failure.statement)) :
    w'.Informs (told ++ [(j, failure)]) where
  sent := by rw [List.map_append, h.sent, hsent]; rfl
  once := by
    rw [List.map_append]
    refine List.nodup_append.mpr ⟨h.once, List.pairwise_singleton _ _, ?_⟩
    rintro i hi k hk rfl
    obtain ⟨⟨i, old⟩, hin, rfl⟩ := List.mem_map.mp hi
    cases List.mem_singleton.mp hk
    exact hnew _ (h.so _ _ hin).1
  so i other hin := by
    rcases List.mem_append.mp hin with hin | hin
    · obtain ⟨hf, hl⟩ := h.so i other hin
      exact ⟨(hfails i _).mpr (Or.inl hf), hlabel i _ hl⟩
    · cases List.mem_singleton.mp hin
      exact ⟨(hfails _ _).mpr (Or.inr ⟨rfl, rfl⟩), hlabel _ _ hj⟩
  all i text hf := by
    rw [List.map_append]
    rcases (hfails i text).mp hf with hold | ⟨rfl, -⟩
    · exact List.mem_append_left _ (h.all i text hold)
    · exact List.mem_append_right _ List.mem_cons_self

end
end Worker

namespace Service

section
variable [ScanJob J] {act? : J → μ → Option J} {s s' : Service J} {move : WorkerMove J μ} {i : Nat}

/-- Only supervisors send failures. -/
theorem failures_of_aside (hstep : s.step? act? move = some s')
    (haside : ∀ j, move ≠ .supervise j) : s'.worker.failures = s.worker.failures := by
  cases move with
  | submit id job =>
      cases hstep
      show (s.worker.submit id job).failures = _
      unfold Worker.submit
      split <;> rfl
  | enter id job => cases hstep; rfl
  | deposit j =>
      obtain ⟨-, ⟨⟩⟩ := Option.ite_none_right_eq_some.mp hstep
      exact Worker.failures_onSupervision _ _ _
  | supervise j => exact absurd rfl (haside j)
  | act j m =>
      obtain ⟨job, -, rfl⟩ := Option.map_eq_some_iff.mp hstep
      exact Worker.failures_onJob _ _ _
  | close j reason => cases hstep; exact Worker.failures_onJob _ _ _
  | prune j => cases hstep; exact Worker.failures_onSupervision _ _ _
  | stop => cases hstep; rfl
  | join j =>
      obtain ⟨-, ⟨⟩⟩ := Option.ite_none_right_eq_some.mp hstep
      rfl
  | cancel j =>
      obtain ⟨-, ⟨⟩⟩ := Option.ite_none_right_eq_some.mp hstep
      exact Worker.failures_onJob _ _ _
  | shutdown tasks =>
      obtain ⟨-, ⟨⟩⟩ := Option.ite_none_right_eq_some.mp hstep
      rfl
  | wait k expired =>
      obtain ⟨worker, hworker, rfl⟩ := Option.map_eq_some_iff.mp hstep
      obtain ⟨call, j, rest, entry, -, -, -, hwaits⟩ := Worker.waits_of_wait? hworker
      cases hwaits with
      | unknown => rfl
      | misses => rfl
      | _ => exact Worker.failures_onSupervision _ _ _
  | abandon k =>
      obtain ⟨hover, ⟨⟩⟩ := Option.ite_none_left_eq_some.mp hstep
      obtain ⟨call, j, rest, -, -, habandon⟩ := Worker.abandon_cases (by simpa using hover)
      show (s.worker.abandon k).failures = _
      rw [habandon]
      split
      · exact Worker.failures_onSupervision _ _ _
      · rfl
  | answer k j =>
      obtain ⟨-, hstep⟩ := Option.ite_none_right_eq_some.mp hstep
      obtain ⟨view, -, rfl⟩ := Option.map_eq_some_iff.mp hstep
      rfl

/-- A step of a supervisor takes the status one step on, and no other move changes a
status. -/
theorem goes_of_step (h : ∀ i view, s.worker.supervision? i = some view →
    view.stage.Follows view.status) (hstep : s.step? act? move = some s') {view : Supervision}
    (hview : s.worker.supervision? i = some view) :
    ∃ view', s'.worker.supervision? i = some view' ∧ view'.stage.Follows view'.status ∧
      view.status.Goes view'.status := by
  obtain ⟨task, htask, hsupervision⟩ := Worker.supervision?_eq_some.mp hview
  obtain ⟨entries, task', -, htask', ht⟩ := touches_of_step hstep htask
  obtain ⟨view', hview', hcases⟩ := ht.view_cases hsupervision
  refine ⟨view', (Worker.supervision?_of_task? htask').trans hview', ?_⟩
  rcases hcases with ⟨-, free, failures, hsup⟩ | ⟨hstage, hstatus⟩
  · exact hsup.goes (h i view hview)
  · rw [hstage, hstatus]
    exact ⟨h i view hview, .stays⟩

/-- A task that is supervised for the first time waits. -/
theorem fresh_of_step (hstep : s.step? act? move = some s')
    (hnew : s.worker.supervision? i = none) {view' : Supervision}
    (hview' : s'.worker.supervision? i = some view') : view' = .fresh := by
  obtain ⟨task', htask', hsupervision'⟩ := Worker.supervision?_eq_some.mp hview'
  cases htask : s.worker.task? i with
  | some task =>
      rw [Worker.supervision?_of_task? htask] at hnew
      obtain ⟨entries, after, -, hafter, ht⟩ := touches_of_step hstep htask
      cases htask'.symm.trans hafter
      exact nomatch (ht.unsupervised hnew).symm.trans hsupervision'
  | none =>
      obtain ⟨-, -, hnone | ⟨id, job, -, rfl⟩⟩ := new_of_step hstep htask htask'
      · exact nomatch hnone.symm.trans hsupervision'
      · exact (Option.some.inj hsupervision').symm

theorem label_of_step (hsteady : Steady act?) (hstep : s.step? act? move = some s')
    {label : String × String} (hlabel : s.worker.label? i = some label) :
    s'.worker.label? i = some label := by
  obtain ⟨task, htask, rfl⟩ := Option.map_eq_some_iff.mp hlabel
  obtain ⟨entries, task', -, htask', ht⟩ := touches_of_step hstep htask
  obtain ⟨hid, hstatement⟩ := ht.label hsteady
  rw [Worker.label?, htask', Option.map_some, hid, hstatement]

/-- A move that is no step of a supervisor leaves the failures as they were. -/
theorem failsAt_of_aside (hstep : s.step? act? move = some s')
    (haside : ∀ j, move ≠ .supervise j) (text : String) :
    s'.worker.FailsAt i text ↔ s.worker.FailsAt i text := by
  cases hview : s.worker.supervision? i with
  | some view =>
      obtain ⟨task, htask, hsupervision⟩ := Worker.supervision?_eq_some.mp hview
      obtain ⟨entries, task', -, htask', ht⟩ := touches_of_step hstep htask
      obtain ⟨view', hview', ⟨hmove, -⟩ | ⟨hstage, hstatus⟩⟩ := ht.view_cases hsupervision
      · exact absurd hmove (haside i)
      · rw [Worker.failsAt_iff ((Worker.supervision?_of_task? htask').trans hview'),
          Worker.failsAt_iff hview, Supervision.Fails, Supervision.Fails, hstage, hstatus]
  | none =>
      refine iff_of_false ?_ ?_
      · rintro ⟨view', hview', hfails⟩
        cases fresh_of_step hstep hview hview'
        rcases hfails with hstatus | hfinal
        · cases hstatus
        · cases hfinal
      · rintro ⟨view, hsome, -⟩
        cases hview.symm.trans hsome

/-- What a step of a supervisor sends, and what becomes of the failures. -/
theorem failsAt_of_supervise {j : Nat} (h : ∀ i view, s.worker.supervision? i = some view →
    view.stage.Follows view.status) (hstep : s.step? act? (.supervise j) = some s') :
    (s'.worker.failures = s.worker.failures ∧
      ∀ i text, s'.worker.FailsAt i text ↔ s.worker.FailsAt i text) ∨
      ∃ failure : TaskFailure, s'.worker.failures = s.worker.failures.send failure ∧
        s.worker.label? j = some (failure.task, failure.statement) ∧
        (∀ text, ¬ s.worker.FailsAt j text) ∧
        ∀ i text, s'.worker.FailsAt i text ↔
          s.worker.FailsAt i text ∨ (i = j ∧ text = failure.error.text) := by
  obtain ⟨worker, hworker, rfl⟩ := Option.map_eq_some_iff.mp hstep
  obtain ⟨task, view, free, failures, job, view', htask, hsupervision, hsup, rfl⟩ :=
    Worker.supervises_of_supervise? hworker
  have hview : s.worker.supervision? j = some view :=
    (Worker.supervision?_of_task? htask).trans hsupervision
  have hself : (s.worker.replaced j task free failures job view').supervision? j = some view' := by
    rw [Worker.supervision?, Worker.task?_replaced htask, if_pos rfl]
    rfl
  have hother : ∀ i, j ≠ i → (s.worker.replaced j task free failures job view').supervision? i =
      s.worker.supervision? i := by
    intro i hji
    rw [Worker.supervision?, Worker.replaced, Worker.task?_setTask, if_neg hji]
    rfl
  rcases hsup.fails_cases (h j view hview) with ⟨hsame, hfails⟩ | ⟨error, hsent, hnew, hfails⟩
  · refine Or.inl ⟨hsame, ?_⟩
    intro i text
    by_cases hji : j = i
    · subst hji
      rw [Worker.failsAt_iff hself, Worker.failsAt_iff hview]
      exact hfails text
    · exact Worker.failsAt_of_eq (hother i hji) text
  · refine Or.inr ⟨⟨task.id, ScanJob.statement task.job, error⟩, hsent, ?_, ?_, ?_⟩
    · rw [Worker.label?, htask]
      rfl
    · intro text
      rw [Worker.failsAt_iff hview]
      exact hnew text
    · intro i text
      by_cases hji : j = i
      · subst hji
        rw [Worker.failsAt_iff hself, Worker.failsAt_iff hview, hfails]
        exact ⟨fun heq => Or.inr ⟨rfl, heq⟩, fun hf => hf.elim (absurd · (hnew text)) (·.2)⟩
      · rw [Worker.failsAt_of_eq (hother i hji)]
        exact ⟨Or.inl, fun hf => hf.elim id fun hij => absurd hij.1.symm hji⟩

/-- One move sends one failure at most, of a task that fails from then on, and all other
failures are as they were. -/
theorem failsAt_of_step (h : ∀ i view, s.worker.supervision? i = some view →
    view.stage.Follows view.status) (hstep : s.step? act? move = some s') :
    (s'.worker.failures = s.worker.failures ∧
      ∀ i text, s'.worker.FailsAt i text ↔ s.worker.FailsAt i text) ∨
      ∃ (j : Nat) (failure : TaskFailure), s'.worker.failures = s.worker.failures.send failure ∧
        s.worker.label? j = some (failure.task, failure.statement) ∧
        (∀ text, ¬ s.worker.FailsAt j text) ∧
        ∀ i text, s'.worker.FailsAt i text ↔
          s.worker.FailsAt i text ∨ (i = j ∧ text = failure.error.text) := by
  by_cases hsupervise : ∃ j, move = .supervise j
  · obtain ⟨j, rfl⟩ := hsupervise
    exact (failsAt_of_supervise h hstep).imp_right fun hsent => ⟨j, hsent⟩
  · have haside : ∀ j, move ≠ .supervise j := fun j hmove => hsupervise ⟨j, hmove⟩
    exact Or.inl ⟨failures_of_aside hstep haside, fun i => failsAt_of_aside hstep haside⟩

/-- Every move keeps the failures that were sent in agreement with the statuses. -/
theorem told_of_step (hsteady : Steady act?) (h : s.worker.Told)
    (hstep : s.step? act? move = some s') : s'.worker.Told := by
  obtain ⟨told, hinforms⟩ := h.informs
  have hlabel : ∀ i label, s.worker.label? i = some label → s'.worker.label? i = some label :=
    fun i label => label_of_step hsteady hstep
  refine ⟨?_, ?_⟩
  · intro i view' hview'
    cases hview : s.worker.supervision? i with
    | some view =>
        obtain ⟨other, hother, hfollows, -⟩ := goes_of_step h.follows hstep hview
        cases hview'.symm.trans hother
        exact hfollows
    | none =>
        cases fresh_of_step hstep hview hview'
        rfl
  · rcases failsAt_of_step h.follows hstep with
      ⟨hsame, hfails⟩ | ⟨j, failure, hsent, hj, hnew, hfails⟩
    · exact ⟨told, hinforms.mono (congrArg _ hsame) hfails hlabel⟩
    · exact ⟨_, hinforms.send (congrArg _ hsent) hnew hfails hlabel hj⟩

theorem told_start (settings : WorkerSettings) : (start settings : Service J).worker.Told := by
  refine ⟨?_, [], rfl, List.nodup_nil, nofun, ?_⟩
  · intro i view hview
    rw [supervision?_start] at hview
    cases hview
  · rintro i text ⟨view, hview, -⟩
    rw [supervision?_start] at hview
    cases hview

end
end Service
end Schedule

/-! ## Jobs that keep their statement -/

namespace Scan

theorem step?_plan {s s' : Scan Row R} {move : ScanMove Row} (h : s.step? move = some s') :
    s'.plan = s.plan := by
  cases move with
  | begin =>
      obtain ⟨-, ⟨⟩⟩ := Option.ite_none_right_eq_some.mp h
      unfold begin
      split
      · split <;> rfl
      · rfl
  | lose =>
      obtain ⟨-, ⟨⟩⟩ := Option.ite_none_right_eq_some.mp h
      rfl
  | offer row index =>
      obtain ⟨-, ⟨⟩⟩ := Option.ite_none_right_eq_some.mp h
      unfold offer
      split <;> rfl
  | conclude ending =>
      obtain ⟨-, ⟨⟩⟩ := Option.ite_none_right_eq_some.mp h
      unfold conclude
      cases ending with
      | raised text => rfl
      | _ => dsimp only; split <;> rfl
  | advance expired =>
      obtain ⟨-, ⟨⟩⟩ := Option.ite_none_right_eq_some.mp h
      unfold advance
      split
      · unfold map
        dsimp only
        split <;> rfl
      · exact settleRow_plan _ _
      · rfl
      · exact settleFinish_plan _ _
      · rfl
      · exact settleFailure_plan _ _
      · rfl
  | recheck =>
      replace h : s.recheck? = some s' := h
      unfold recheck? at h
      split at h
      · cases h; rfl
      · cases h; rfl
      · cases h

end Scan

theorem PollStage.advance_plan (runtime : Bool) (reception : Reception) (st : RowStream Row R)
    (stage : PollStage R) :
    (stage.advance runtime reception st).1.scan.plan = st.scan.plan := by
  by_cases hdone : ∃ next, stage = .done next
  · obtain ⟨next, rfl⟩ := hdone
    rfl
  · have hg : stage.Gives runtime reception st _ _ :=
      PollStage.gives_advance fun next hd => hdone ⟨next, hd⟩
    exact hg.plan_eq

namespace Invocation

/-- A stream keeps the statement of its scan, whoever acts. -/
theorem steady : Schedule.Steady (@act? Row R) where
  acts {v v' move} hact := by
    have hstep := (step?_of_act? hact).1
    refine congrArg ScanPlan.statement (?_ : v'.stream.scan.plan = v.stream.scan.plan)
    cases move with
    | pass => cases hstep; rfl
    | close reason => cases hstep; rfl
    | beginPoll =>
        obtain ⟨-, ⟨⟩⟩ := Option.ite_none_right_eq_some.mp hstep
        rfl
    | poll runtime reception =>
        obtain ⟨stage, -, rfl⟩ := Option.map_eq_some_iff.mp hstep
        rw [advance, goOn_stream]
        exact PollStage.advance_plan runtime reception v.stream stage
    | scan m =>
        obtain ⟨scan, hs, rfl⟩ := Option.map_eq_some_iff.mp hstep
        exact Scan.step?_plan hs
    | cancel =>
        obtain ⟨-, ⟨⟩⟩ := Option.ite_none_right_eq_some.mp hstep
        exact (v.stream.withSession v.session.cancel).abandonStart_plan
    | drop =>
        obtain ⟨-, ⟨⟩⟩ := Option.ite_none_right_eq_some.mp hstep
        exact (v.stream.withSession v.session.dropConsumer).abandonStart_plan
  closes _ _ := rfl
  begins v := by
    show (v.stream.scan.begin).plan.statement = _
    unfold Scan.begin
    split
    · split <;> rfl
    · rfl

end Invocation

theorem Schedule.PlainJob.steady : Schedule.Steady PlainJob.act? where
  acts {job job' _} hact := by
    obtain ⟨-, ⟨⟩⟩ := Option.ite_none_right_eq_some.mp hact
    show job.conclude.statement = job.statement
    unfold conclude
    cases job.closes <;> rfl
  closes _ _ := rfl
  begins _ := rfl

end RowBridge
