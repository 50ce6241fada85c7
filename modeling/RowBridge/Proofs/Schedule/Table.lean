/-
# `RowBridge.Proofs.Schedule.Table` — what is in the table of a worker

A task enters the table when it is accepted and leaves it once; its name stands for it
as long as no later task is given the same name.

* A name that was given once stands for its task (`Worker.find?_of_nodup`).
* Pruning does something to tasks that have ended and are in the table, and to no
  others (`Worker.prune_eq_self`), so that a clean-up need not look at all tasks
  (`Worker.foldl_prune_trackedPositions`).
* A task that leaves has ended, and it is pruned or the worker cleans up by itself
  (`Service.Touches.finished_of_left`); in the latter case it has left as soon as its
  supervisor has ended (`Service.untracked_of_play`).
-/
import RowBridge.Proofs.Schedule.Waiting

namespace RowBridge.Schedule

variable {J μ : Type}

/-! ## Positions -/

namespace Worker

/-- Whether the task of this position has ended, and the worker says so. -/
def isFinished (w : Worker J) (i : Nat) : Bool := (w.supervision? i).any (·.status.isFinished)

variable {w : Worker J} {i : Nat}

theorem isTracked_iff :
    w.isTracked i = true ↔ ∃ view, w.supervision? i = some view ∧ view.tracked = true := by
  unfold isTracked
  cases w.supervision? i <;> simp

theorem isFinished_iff : w.isFinished i = true ↔
    ∃ view, w.supervision? i = some view ∧ view.status.isFinished = true := by
  unfold isFinished
  cases w.supervision? i <;> simp

theorem isTracked_eq {view : Supervision} (hview : w.supervision? i = some view) :
    w.isTracked i = view.tracked := by
  rw [isTracked, hview]
  rfl

theorem isTracked_iff_mem : w.isTracked i = true ↔ i ∈ w.trackedPositions :=
  isTracked_iff.trans Service.mem_trackedPositions.symm

theorem isAccepted_iff : w.isAccepted i = true ↔ ∃ view, w.supervision? i = some view :=
  Option.isSome_iff_exists

/-! ## Names -/

theorem lastNamed?_eq_none {id : String} {tasks : List (Task J)} (h : id ∉ tasks.map (·.id)) :
    lastNamed? id tasks = none := by
  induction tasks with
  | nil => rfl
  | cons task rest ih =>
      rw [List.map_cons, List.mem_cons, not_or] at h
      rw [lastNamed?, ih h.2, if_neg (Ne.symm h.1)]

/-- A name that was given once stands for its task. -/
theorem lastNamed?_of_nodup {task : Task J} {tasks : List (Task J)} :
    ∀ {i : Nat}, (tasks.map (·.id)).Nodup → tasks[i]? = some task →
      lastNamed? task.id tasks = some i := by
  induction tasks with
  | nil => intro i _ htask; cases htask
  | cons first rest ih =>
      intro i hnodup htask
      obtain ⟨hfirst, hrest⟩ := List.nodup_cons.mp hnodup
      cases i with
      | zero =>
          cases htask
          rw [lastNamed?, lastNamed?_eq_none hfirst, if_pos rfl]
      | succ i => rw [lastNamed?, ih hrest htask]

/-- Who asks for a task that is in the table by its name is given it, if no other task
was given the name. -/
theorem find?_of_nodup {task : Task J} (hnodup : (w.tasks.map (·.id)).Nodup)
    (htask : w.task? i = some task) (htracked : w.isTracked i = true) :
    w.find? task.id = some i := by
  rw [find?, named?, lastNamed?_of_nodup hnodup htask, Option.filter_some, if_pos htracked]

/-! ## Pruning -/

/-- A task leaves the table. -/
def untrack (w : Worker J) (i : Nat) : Worker J :=
  w.onSupervision i fun view => { view with tracked := false }

/-- A task that has ended leaves the table as if it were looked at in this moment. -/
theorem untrack_eq_prune (h : w.isFinished i = true) : w.untrack i = w.prune i := by
  obtain ⟨view, hview, hfinished⟩ := isFinished_iff.mp h
  obtain ⟨task, htask, hsupervision⟩ := supervision?_eq_some.mp hview
  rw [untrack, prune, onSupervision_eq htask hsupervision, onSupervision_eq htask hsupervision,
    hfinished]
  simp

theorem isTracked_untrack (w : Worker J) (i : Nat) : (w.untrack i).isTracked i = false := by
  rw [isTracked, supervision?, untrack, task?_onSupervision, if_pos rfl]
  cases w.task? i with
  | none => rfl
  | some task =>
      obtain ⟨id, job, supervision⟩ := task
      cases supervision <;> rfl

/-- A task that has not ended, or is not in the table, is left as it is. -/
theorem prune_eq_self (h : ∀ view, w.supervision? i = some view →
    (view.tracked && !view.status.isFinished) = view.tracked) : w.prune i = w := by
  rw [prune, onSupervision]
  cases htask : w.task? i with
  | none => rfl
  | some task =>
      obtain ⟨id, job, supervision⟩ := task
      have hsame : supervision.map (fun view =>
          { view with tracked := view.tracked && !view.status.isFinished }) = supervision := by
        cases supervision with
        | none => rfl
        | some view =>
            have hview := h view (supervision?_eq_some.mpr ⟨_, htask, rfl⟩)
            rw [Option.map_some, hview]
      obtain ⟨hlt, hget⟩ := List.getElem?_eq_some_iff.mp htask
      show { w with tasks := w.tasks.set i _ } = w
      rw [hsame, ← hget, List.set_getElem_self]

theorem prune_of_unfinished (h : w.isFinished i = false) : w.prune i = w := by
  refine prune_eq_self ?_
  intro view hview
  have hnot : view.status.isFinished = false := by
    rw [isFinished, hview] at h
    exact h
  rw [hnot, Bool.not_false, Bool.and_true]

theorem prune_of_untracked (h : w.isTracked i = false) : w.prune i = w := by
  refine prune_eq_self ?_
  intro view hview
  rw [isTracked_eq hview] at h
  rw [h, Bool.false_and]

theorem isTracked_prune_of_untracked (h : w.isTracked i = false) (j : Nat) :
    (w.prune j).isTracked i = false := by
  by_cases hji : j = i
  · subst hji
    rw [prune_of_untracked h]
    exact h
  · rw [isTracked, supervision?, prune, task?_onSupervision_of_ne hji]
    exact h

/-- It is all one whether the tasks outside the table are looked at. -/
theorem foldl_prune_filter {p : Nat → Bool} (tasks : List Nat) :
    ∀ w : Worker J, (∀ i ∈ tasks, p i = false → w.isTracked i = false) →
      (tasks.filter p).foldl prune w = tasks.foldl prune w := by
  induction tasks with
  | nil => intro w _; rfl
  | cons i tasks ih =>
      intro w h
      rw [List.filter_cons]
      cases hp : p i with
      | true =>
          refine ih (w.prune i) ?_
          intro j hj hout
          exact isTracked_prune_of_untracked (h j (List.mem_cons_of_mem i hj) hout) i
      | false =>
          rw [List.foldl_cons, prune_of_untracked (h i List.mem_cons_self hp)]
          exact ih w fun j hj => h j (List.mem_cons_of_mem i hj)

theorem foldl_prune_trackedPositions (w : Worker J) :
    w.trackedPositions.foldl prune w = w.cleanup := by
  rw [← foldl_prune_eq_cleanup]
  refine foldl_prune_filter _ w ?_
  intro i _ hout
  refine eq_false_of_ne_true ?_
  intro hin
  obtain ⟨view, hview, htracked⟩ := isTracked_iff.mp hin
  rw [hview] at hout
  exact absurd (hout.symm.trans htracked) Bool.false_ne_true

end Worker

/-! ## Who takes tasks out of the table -/

namespace Service

section
variable [ScanJob J] {act? : J → μ → Option J} {s s' : Service J} {move : WorkerMove J μ}
  {i : Nat} {task task' : Task J} {view view' : Supervision} {entries : List Entry}

/-- A task leaves the table after it has ended, by a clean-up or because the worker
cleans up by itself. -/
theorem Touches.finished_of_left (h : Touches act? s i task move entries task')
    (hview : task.supervision = some view) (ha : view.stage.Agrees view.status)
    (htracked : view.tracked = true) (hview' : task'.supervision = some view')
    (hleft : view'.tracked = false) :
    view.status.isFinished = true ∧
      (move = .prune i ∨ s.worker.settings.autoCleanup = true) := by
  obtain ⟨other, hother, hcases⟩ := h.tracked_cases hview'
  cases hview.symm.trans hother
  rcases hcases with ⟨hsame, -⟩ | ⟨hmove, -, hpruned⟩ | ⟨hs, hended⟩
  · exact absurd (hleft.symm.trans (hsame.trans htracked)) Bool.false_ne_true
  · refine ⟨?_, Or.inl hmove⟩
    simpa [hpruned, htracked] using hleft
  · rw [hs] at ha
    refine ⟨ha, Or.inr ?_⟩
    simpa [hended, htracked] using hleft

/-- A supervisor that ends takes its task out of the table if the worker cleans up by
itself, and nobody enters it again. -/
theorem Touches.untracked_of_ended (h : Touches act? s i task move entries task')
    (hauto : s.worker.settings.autoCleanup = true)
    (hview : task.supervision = some view) (hbefore : view.stage = .ended → view.tracked = false)
    (hview' : task'.supervision = some view') (hended : view'.stage = .ended) :
    view'.tracked = false := by
  obtain ⟨other, hother, hcases⟩ := h.tracked_cases hview'
  cases hview.symm.trans hother
  rcases hcases with ⟨hsame, hstage⟩ | ⟨-, hstage, hpruned⟩ | ⟨-, hout⟩
  · exact hsame.trans (hbefore (hstage hended))
  · rw [hpruned, hbefore (hstage.symm.trans hended), Bool.false_and]
  · rw [hout, hauto, Bool.not_true, Bool.and_false]

/-- A task that has ended has ended for good. -/
theorem Kept.isFinished_of_step (h : s.Kept) (hstep : s.step? act? move = some s')
    (hf : s.worker.isFinished i = true) : s'.worker.isFinished i = true := by
  obtain ⟨view, hview, hfinished⟩ := Worker.isFinished_iff.mp hf
  obtain ⟨view', hview', -, hstatus⟩ := h.view_of_step hstep hview
  exact Worker.isFinished_iff.mpr ⟨view', hview', hstatus hfinished ▸ hfinished⟩

theorem settings_of_play {moves : List (WorkerMove J μ)} {settings : WorkerSettings}
    (hplay : play? (step? act?) (start settings) moves = some s) :
    s.worker.settings = settings :=
  play?_preserves (P := fun s : Service J => s.worker.settings = settings)
    (fun h hstep => (terms_of_step hstep).1.trans h) rfl hplay

/-- With automatic cleanup, a task whose supervisor has ended is not in the table. -/
theorem untracked_of_play {moves : List (WorkerMove J μ)} {settings : WorkerSettings}
    (hauto : settings.autoCleanup = true)
    (hplay : play? (step? act?) (start settings) moves = some s)
    (hview : s.worker.supervision? i = some view) (hended : view.stage = .ended) :
    view.tracked = false := by
  obtain ⟨task, htask, hsupervision⟩ := Worker.supervision?_eq_some.mp hview
  refine (play?_preserves (P := fun s : Service J => s.worker.settings = settings ∧
    ∀ i task view, s.worker.task? i = some task → task.supervision = some view →
      view.stage = .ended → view.tracked = false) ?_ ⟨rfl, ?_⟩ hplay).2 i task view htask
      hsupervision hended
  · rintro t t' move ⟨hsettings, h⟩ hstep
    refine ⟨(terms_of_step hstep).1.trans hsettings, ?_⟩
    refine forall_view_of_step
      (P := fun _ _ _ view => view.stage = .ended → view.tracked = false) ?_ ?_ hstep h
    · intro i task task' view entries _ hview hbefore ht
      obtain ⟨view', hview', -⟩ := ht.view_cases hview
      exact ⟨view', hview', ht.untracked_of_ended (hsettings ▸ hauto) hview hbefore hview'⟩
    · intro id job _
      exact nofun
  · intro i task view htask
    rw [task?_start] at htask
    cases htask

end
end Service
end RowBridge.Schedule
