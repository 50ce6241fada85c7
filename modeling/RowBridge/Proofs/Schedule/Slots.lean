/-
# `RowBridge.Proofs.Schedule.Slots` — a bound on running jobs, and no slot lost

A worker with a limit has as many slots.  A supervisor takes one before it looks
at its task again and gives it back when it ends, whichever way it ends:

    stage          holds a slot
    spawned        no
    admitted       yes
    launching      yes
    running        yes
    concluding     yes if it was admitted, no if it gave up waiting
    leaving        the same
    ended          no

What is free and what is held is therefore the limit, at every moment
(`Rationed`), and a task says that it is running only while its supervisor holds
a slot.  A job executes only while its supervisor waits for it (`Launched`):
nothing but the supervisor begins it, and the supervisor does not go on before it
has ended.

The converse is what keeps slots from being lost.  Where no supervisor can make
a step, each supervisor waits for a slot, waits for its job, or has ended; so if
one of them waits for a slot in vain, the others have all of them and run.

**Proved here**, for every job, every number of tasks and every schedule
(`concurrency_cap`).  What it is for a job to execute is a parameter with three
laws (`Execution`); the scan of a stream executes from the time its source is at
work until it has ended (`Invocation.execution`).
-/
import RowBridge.Proofs.Schedule.Completion
import RowBridge.Schedule.Setup

namespace RowBridge.Schedule

variable {J μ : Type}

/-- The supervisor of the task holds a slot. -/
def Task.holdsSlot (task : Task J) : Bool := task.supervision.elim false (·.holdsSlot)

/-- The worker says that the task is running. -/
def Task.isRunning (task : Task J) : Bool :=
  task.supervision.elim false fun view => view.status = .running

namespace Worker

/-- The number of slots that supervisors hold. -/
def held (w : Worker J) : Nat := w.tasks.countP Task.holdsSlot

/-! ## What moves do to the slots -/

theorem held_append {w w' : Worker J} {task : Task J} (htasks : w'.tasks = w.tasks ++ [task]) :
    w'.held = w.held + if task.holdsSlot then 1 else 0 := by
  rw [held, held, htasks, List.countP_append, List.countP_singleton]

/-- Tasks that hold what they held hold as many slots as before. -/
theorem held_eq_of_forall {w w' : Worker J} (hlength : w'.tasks.length = w.tasks.length)
    (hsame : ∀ i task, w.task? i = some task →
      ∃ task', w'.task? i = some task' ∧ task'.holdsSlot = task.holdsSlot) : w'.held = w.held := by
  have hmap : w'.tasks.map Task.holdsSlot = w.tasks.map Task.holdsSlot := by
    refine List.ext_getElem? ?_
    intro i
    rw [List.getElem?_map, List.getElem?_map]
    cases htask : w.task? i with
    | some task =>
        obtain ⟨task', htask', hholds⟩ := hsame i task htask
        rw [show w.tasks[i]? = some task from htask, show w'.tasks[i]? = some task' from htask']
        exact congrArg some hholds
    | none =>
        have hlen : w.tasks.length ≤ i := List.getElem?_eq_none_iff.mp htask
        rw [List.getElem?_eq_none_iff.mpr hlen, List.getElem?_eq_none_iff.mpr (hlength ▸ hlen)]
  have hcount := congrArg (List.countP id) hmap
  rw [List.countP_map, List.countP_map] at hcount
  exact hcount

/-- A step of a supervisor changes the slots held by what it does to its own. -/
theorem held_replaced {w : Worker J} {i : Nat} {task : Task J} (htask : w.task? i = some task)
    {view : Supervision} (hview : task.supervision = some view) (free : Nat)
    (failures : Broadcast TaskFailure) (job : J) (view' : Supervision) :
    (w.replaced i task free failures job view').held + (if view.holdsSlot then 1 else 0) =
      w.held + if view'.holdsSlot then 1 else 0 := by
  obtain ⟨hlt, hget⟩ := List.getElem?_eq_some_iff.mp (show w.tasks[i]? = some task from htask)
  have hbefore : w.tasks[i].holdsSlot = view.holdsSlot := by
    rw [hget, Task.holdsSlot, hview]
    rfl
  have hpos : view.holdsSlot = true → 0 < w.tasks.countP Task.holdsSlot := by
    intro hholds
    exact List.countP_pos_iff.mpr ⟨w.tasks[i], List.getElem_mem hlt, hbefore.trans hholds⟩
  show (w.tasks.set i _).countP Task.holdsSlot + _ = _
  rw [List.countP_set hlt, hbefore, held]
  show _ - _ + (if view'.holdsSlot = true then 1 else 0) + _ = _
  cases hholds : view.holdsSlot with
  | false => simp
  | true =>
      have := hpos hholds
      simp only [if_true]
      omega

end Worker

/-! ## Who holds a slot -/

/-- A supervisor holds a slot when it should. -/
def Supervision.Entitled (view : Supervision) : Prop :=
  match view.stage with
  | .spawned | .ended => view.holdsSlot = false
  | .admitted | .launching | .running => view.holdsSlot = true
  | .concluding _ => view.status = .running → view.holdsSlot = true
  | .leaving => True

namespace Supervision

variable {view : Supervision}

/-- A task that is running holds a slot. -/
theorem Entitled.holdsSlot_of_running (h : view.Entitled) (ha : view.stage.Agrees view.status)
    (hrunning : view.status = .running) : view.holdsSlot = true := by
  unfold Entitled at h
  rw [hrunning] at ha
  cases hstage : view.stage with
  | launching => rw [hstage] at h; exact h
  | running => rw [hstage] at h; exact h
  | concluding final => rw [hstage] at h; exact h hrunning
  | _ => rw [hstage] at ha; cases ha

/-- A supervisor that holds a slot is alive: it has been admitted and has not
ended. -/
theorem Entitled.isAlive (h : view.Entitled) (hholds : view.holdsSlot = true) :
    view.stage ≠ .spawned ∧ view.stage ≠ .ended := by
  refine ⟨?_, ?_⟩
  all_goals
    intro hstage
    rw [Entitled, hstage] at h
    exact absurd (h.symm.trans hholds) Bool.false_ne_true

end Supervision

namespace Worker

section
variable [ScanJob J] {w : Worker J} {task : Task J} {view view' : Supervision} {free limit : Nat}
  {failures : Broadcast TaskFailure} {job : J}

theorem Supervises.entitled (h : w.Supervises task view free failures job view')
    (hlimit : w.settings.limit = some limit) (ha : view.stage.Agrees view.status)
    (he : view.Entitled) : view'.Entitled := by
  have hpending : view.status = .pending → view.status ≠ .running := by
    intro hp hr
    cases hp.symm.trans hr
  cases h with
  | needsNone _ hnone => cases hlimit.symm.trans hnone
  | givesUp hs => rw [hs] at ha; exact fun hr => absurd hr (hpending ha)
  | getsSlot => exact rfl
  | turnsBack hs => rw [hs] at ha; exact fun hr => absurd hr (hpending ha)
  | goesOn hs => rw [Supervision.Entitled, hs] at he; exact he
  | launches hs => rw [Supervision.Entitled, hs] at he; exact he
  | returns hs => rw [Supervision.Entitled, hs] at he; exact fun _ => he
  | fails hs => rw [Supervision.Entitled, hs] at he; exact fun _ => he
  | settles => trivial
  | leaves => exact rfl

/-- A slot that a step takes was free, and one that it gives back is free
afterwards. -/
theorem Supervises.balance (h : w.Supervises task view free failures job view')
    (he : view.Entitled) :
    free + (if view'.holdsSlot then 1 else 0) = w.free + if view.holdsSlot then 1 else 0 := by
  cases h with
  | getsSlot hs _ _ hfree =>
      rw [Supervision.Entitled, hs] at he
      rw [show view.holdsSlot = false from he]
      simp only [if_true, Bool.false_eq_true, if_false]
      omega
  | leaves =>
      cases view.holdsSlot with
      | true => rfl
      | false => rfl
  | _ => rfl

end
end Worker

/-! ## Jobs that execute -/

/-- What it is for a job to execute: it does so only because it was begun, and no
longer when it has ended. -/
structure Execution [ScanJob J] (act? : J → μ → Option J) (executes : J → Bool) : Prop where
  closing : ∀ job reason, executes (ScanJob.close job reason) = executes job
  acting : ∀ {job job' : J} {m : μ}, act? job m = some job' → executes job' = true →
    executes job = true
  ended : ∀ {job : J} {ending : Ending}, ScanJob.ending? job = some ending → executes job = false

namespace Service

/-- No job executes when it is handed over. -/
def BringsIdle (executes : J → Bool) (_ : Service J) : WorkerMove J μ → Prop
  | .submit _ job | .enter _ job => executes job = false
  | _ => True

/-! ## Every schedule -/

/-- The slots of a worker with a limit are accounted for. -/
structure Rationed (limit : Nat) (s : Service J) : Prop where
  kept : s.Kept
  limited : s.worker.settings.limit = some limit
  balance : s.worker.free + s.worker.held = limit
  entitled : ∀ i view, s.worker.supervision? i = some view → view.Entitled

/-- The job of a task executes only while its supervisor waits for it. -/
def Launched (executes : J → Bool) (s : Service J) : Prop :=
  ∀ i task, s.worker.task? i = some task → executes task.job = true →
    ∃ view, task.supervision = some view ∧ view.stage = .running

section
variable {s : Service J} {limit : Nat}

theorem rationed_start {settings : WorkerSettings} {limit : Nat}
    (hlimit : settings.limit = some limit) :
    (start settings : Service J).Rationed limit where
  kept := kept_start settings
  limited := hlimit
  balance := by
    show settings.limit.getD 0 + 0 = limit
    rw [hlimit]
    rfl
  entitled i view hview := by
    rw [supervision?_start] at hview
    cases hview

theorem launched_start (executes : J → Bool) (settings : WorkerSettings) :
    (start settings : Service J).Launched executes := by
  intro i task htask
  rw [task?_start] at htask
  cases htask

theorem Rationed.held_le (h : s.Rationed limit) : s.worker.held ≤ limit :=
  h.balance ▸ Nat.le_add_left _ _

/-- What the worker keeps about one of its tasks, with the invariants about it. -/
theorem Rationed.of_mem (h : s.Rationed limit) {task : Task J} (hmem : task ∈ s.worker.tasks)
    {view : Supervision} (hview : task.supervision = some view) :
    view.stage.Agrees view.status ∧ (view.tracked = true ∨ view.status.isFinished = true) ∧
      view.Entitled := by
  obtain ⟨i, htask⟩ := List.mem_iff_getElem?.mp hmem
  have hsupervision : s.worker.supervision? i = some view :=
    (Worker.supervision?_of_task? htask).trans hview
  have hfits := h.kept.fits i view hsupervision
  exact ⟨hfits.agrees, hfits.tracked, h.entitled i view hsupervision⟩

/-- A task that is running is in the table. -/
theorem Rationed.runningCount_eq (h : s.Rationed limit) :
    s.worker.runningCount = s.worker.tasks.countP Task.isRunning := by
  rw [Worker.runningCount, ← List.countP_eq_length_filter, Worker.entries, List.countP_filterMap]
  refine List.countP_congr ?_
  intro task hmem
  cases hview : task.supervision with
  | none => simp [Task.entry?, Task.isRunning, hview]
  | some view =>
      have htracked : view.status = .running → view.tracked = true := by
        intro hrunning
        refine (h.of_mem hmem hview).2.1.resolve_right ?_
        rw [hrunning]
        exact Bool.false_ne_true
      cases ht : view.tracked with
      | true => simp [Task.entry?, Task.isRunning, hview, ht]
      | false =>
          have hrunning : view.status ≠ .running := by
            intro hr
            exact Bool.false_ne_true (ht.symm.trans (htracked hr))
          simp [Task.entry?, Task.isRunning, hview, ht, hrunning]

theorem Rationed.runningCount_le (h : s.Rationed limit) : s.worker.runningCount ≤ limit := by
  rw [h.runningCount_eq]
  refine Nat.le_trans (List.countP_mono_left ?_) h.held_le
  intro task hmem hrunning
  cases hview : task.supervision with
  | none =>
      rw [Task.isRunning, hview] at hrunning
      cases hrunning
  | some view =>
      rw [Task.isRunning, hview] at hrunning
      obtain ⟨ha, -, he⟩ := h.of_mem hmem hview
      rw [Task.holdsSlot, hview]
      exact he.holdsSlot_of_running ha (by simpa using hrunning)

theorem Rationed.countP_executes_le (h : s.Rationed limit) {executes : J → Bool}
    (hl : s.Launched executes) : (s.worker.tasks.countP fun task => executes task.job) ≤ limit := by
  refine Nat.le_trans (List.countP_mono_left ?_) h.held_le
  intro task hmem hexecutes
  obtain ⟨i, htask⟩ := List.mem_iff_getElem?.mp hmem
  obtain ⟨view, hview, hstage⟩ := hl i task htask hexecutes
  obtain ⟨-, -, he⟩ := h.of_mem hmem hview
  rw [Supervision.Entitled, hstage] at he
  rw [Task.holdsSlot, hview]
  exact he

end

section
variable [ScanJob J] {act? : J → μ → Option J} {s s' : Service J} {move : WorkerMove J μ}

/-- What a move does to a task, it does to the slot its supervisor holds; only a
step of the supervisor takes one or gives one back. -/
theorem Rationed.touches {limit : Nat} (h : s.Rationed limit) {i : Nat} {task task' : Task J}
    {view : Supervision} {entries : List Entry} (htask : s.worker.task? i = some task)
    (hview : task.supervision = some view) (ht : Touches act? s i task move entries task') :
    ∃ view', task'.supervision = some view' ∧ view'.Entitled ∧
      (view'.holdsSlot = view.holdsSlot ∨ ∃ i, move = .supervise i) := by
  have hsupervision := (Worker.supervision?_of_task? htask).trans hview
  have he := h.entitled i view hsupervision
  have hsame : ∀ {other : Supervision}, task.supervision = some other → other = view := by
    intro other hother
    exact Option.some.inj (hother.symm.trans hview)
  cases ht with
  | leaves => exact ⟨view, hview, he, Or.inl rfl⟩
  | acts => exact ⟨view, hview, he, Or.inl rfl⟩
  | closes => exact ⟨view, hview, he, Or.inl rfl⟩
  | cancels => exact ⟨view, hview, he, Or.inl rfl⟩
  | supervised hother hsup =>
      cases hsame hother
      have ha := (h.kept.fits i view hsupervision).agrees
      exact ⟨_, rfl, hsup.entitled h.limited ha he, Or.inr ⟨i, rfl⟩⟩
  | lays hother => cases hsame hother; exact ⟨_, rfl, he, Or.inl rfl⟩
  | prunes hother => cases hsame hother; exact ⟨_, rfl, he, Or.inl rfl⟩
  | takes hother => cases hsame hother; exact ⟨_, rfl, he, Or.inl rfl⟩
  | sees hother => cases hsame hother; exact ⟨_, rfl, he, Or.inl rfl⟩
  | letsGo hother => cases hsame hother; exact ⟨_, rfl, he, Or.inl rfl⟩

theorem Newcomer.entitled {task : Task J} (h : Newcomer move task) :
    task.holdsSlot = false ∧ ∀ view, task.supervision = some view → view.Entitled := by
  rcases h with ⟨id, job, -, rfl⟩ | ⟨id, job, -, rfl⟩
  · refine ⟨rfl, ?_⟩
    intro view hview
    cases hview
  · refine ⟨rfl, ?_⟩
    rintro view ⟨⟩
    rfl

/-- Every move keeps account of the slots. -/
theorem Rationed.step {limit : Nat} (h : s.Rationed limit) (hstep : s.step? act? move = some s') :
    s'.Rationed limit := by
  obtain ⟨hsettings, hfree, -⟩ := terms_of_step hstep
  refine ⟨h.kept.step hstep, hsettings ▸ h.limited, ?_, ?_⟩
  · by_cases hmove : ∃ i, move = .supervise i
    · obtain ⟨i, rfl⟩ := hmove
      obtain ⟨worker, hworker, rfl⟩ := Option.map_eq_some_iff.mp hstep
      obtain ⟨task, view, free, failures, job, view', htask, hview, hsup, rfl⟩ :=
        Worker.supervises_of_supervise? hworker
      have hheld := Worker.held_replaced htask hview free failures job view'
      have hslots := hsup.balance
        (h.entitled i view ((Worker.supervision?_of_task? htask).trans hview))
      have hbalance := h.balance
      show free + (s.worker.replaced i task free failures job view').held = limit
      omega
    · rw [hfree.resolve_right hmove]
      refine Eq.trans (congrArg _ ?_) h.balance
      rcases tasks_of_step hstep with ⟨task, htasks, -, hnew⟩ | ⟨hlength, -⟩
      · rw [Worker.held_append htasks, hnew.entitled.1]
        rfl
      · refine Worker.held_eq_of_forall hlength ?_
        intro i task htask
        obtain ⟨entries, task', -, htask', htouches⟩ := touches_of_step hstep htask
        refine ⟨task', htask', ?_⟩
        cases hview : task.supervision with
        | none => rw [Task.holdsSlot, Task.holdsSlot, htouches.unsupervised hview, hview]
        | some view =>
            obtain ⟨view', hview', -, hholds⟩ := h.touches htask hview htouches
            rw [Task.holdsSlot, Task.holdsSlot, hview', hview]
            exact hholds.resolve_right hmove
  · intro i view' hview'
    obtain ⟨task', htask', hsupervision'⟩ := Worker.supervision?_eq_some.mp hview'
    cases htask : s.worker.task? i with
    | none =>
        obtain ⟨-, -, hnew⟩ := newcomer_of_step hstep htask htask'
        exact hnew.entitled.2 view' hsupervision'
    | some task =>
        obtain ⟨entries, after, -, hafter, htouches⟩ := touches_of_step hstep htask
        cases htask'.symm.trans hafter
        cases hview : task.supervision with
        | none => exact nomatch (htouches.unsupervised hview).symm.trans hsupervision'
        | some view =>
            obtain ⟨other, hother, hentitled, -⟩ := h.touches htask hview htouches
            cases hsupervision'.symm.trans hother
            exact hentitled

/-! ## Jobs and their supervisors -/

section
variable {executes : J → Bool}

/-- A step of a supervisor leaves no job executing but one it waits for. -/
theorem executes_supervised (hexec : Execution act? executes) {task : Task J}
    {view view' : Supervision} {free : Nat} {failures : Broadcast TaskFailure} {job : J}
    (hsup : s.worker.Supervises task view free failures job view')
    (hrunning : executes task.job = true → view.stage = .running) (hjob : executes job = true) :
    view'.stage = .running := by
  -- a job that is not begun by this step executed before it
  have hbefore : ∀ {stage : SupervisorStage}, view.stage = stage → executes task.job = true →
      stage = .running := by
    rintro _ rfl
    exact hrunning
  have hover : ∀ {ending : Ending}, ScanJob.ending? task.job = some ending →
      executes task.job = true → view'.stage = .running := by
    intro ending hending htrue
    exact absurd ((hexec.ended hending).symm.trans htrue) Bool.false_ne_true
  cases hsup with
  | needsNone hs => cases hbefore hs hjob
  | givesUp hs => cases hbefore hs hjob
  | getsSlot hs => cases hbefore hs hjob
  | turnsBack hs => cases hbefore hs hjob
  | goesOn hs => cases hbefore hs hjob
  | launches => rfl
  | returns _ hending => exact hover hending hjob
  | @fails ending failure _ hending =>
      refine hover hending ?_
      cases ending with
      | raised text => exact (hexec.closing task.job .sourceFailure).symm.trans hjob
      | _ => exact hjob
  | settles hs => cases hbefore hs hjob
  | leaves hs => cases hbefore hs hjob

/-- Every move keeps jobs from executing on their own. -/
theorem Launched.step (h : s.Launched executes) (hexec : Execution act? executes)
    (hmove : BringsIdle executes s move) (hstep : s.step? act? move = some s') :
    s'.Launched executes := by
  intro i task' htask' hjob
  cases htask : s.worker.task? i with
  | none =>
      obtain ⟨-, -, hnew⟩ := newcomer_of_step hstep htask htask'
      have hidle : executes task'.job = false := by
        rcases hnew with ⟨id, job, rfl, rfl⟩ | ⟨id, job, rfl | rfl, rfl⟩
        · exact (hexec.closing job .cancelled).trans hmove
        · exact hmove
        · exact hmove
      exact absurd (hidle.symm.trans hjob) Bool.false_ne_true
  | some task =>
      obtain ⟨entries, after, -, hafter, htouches⟩ := touches_of_step hstep htask
      cases htask'.symm.trans hafter
      -- what is waited for is waited for, whatever else is kept about the task
      have hsame : ∀ {view view' : Supervision}, executes task.job = true →
          task.supervision = some view → view'.stage = view.stage →
          ∃ other, some view' = some other ∧ other.stage = .running := by
        intro view view' hexecutes hview hstage
        obtain ⟨other, hother, hrunning⟩ := h i task htask hexecutes
        cases hview.symm.trans hother
        exact ⟨view', rfl, hstage.trans hrunning⟩
      cases htouches with
      | leaves => exact h i _ htask hjob
      | acts hact => exact h i task htask (hexec.acting hact hjob)
      | closes => exact h i task htask ((hexec.closing task.job _).symm.trans hjob)
      | cancels => exact h i task htask ((hexec.closing task.job _).symm.trans hjob)
      | @supervised view view' free failures job hview hsup =>
          refine ⟨view', rfl, executes_supervised hexec hsup ?_ hjob⟩
          intro hexecutes
          obtain ⟨other, hother, hrunning⟩ := h i task htask hexecutes
          cases hview.symm.trans hother
          exact hrunning
      | lays hview => exact hsame hjob hview rfl
      | prunes hview => exact hsame hjob hview rfl
      | takes hview => exact hsame hjob hview rfl
      | sees hview => exact hsame hjob hview rfl
      | letsGo hview => exact hsame hjob hview rfl

end

/-! ## What the slots bound -/

section
variable {limit : Nat}

/-- Where no supervisor can make a step and one of them waits for a slot, the
others have all of them, and their tasks are running. -/
theorem Rationed.full (h : s.Rationed limit) (hstuck : ∀ i, s.worker.supervise? i = none) {i : Nat}
    {task : Task J} {view : Supervision} (htask : s.worker.task? i = some task)
    (hview : task.supervision = some view) (hpending : view.status = .pending) :
    s.worker.runningCount = limit := by
  have hagrees := (h.of_mem (List.mem_of_getElem? htask) hview).1
  have hfree : s.worker.free = 0 := by
    rcases Worker.stuck_cases (hstuck i) htask hview with ⟨-, -, hfree⟩ | hstage | hstage
    · exact hfree
    all_goals
      rw [hpending, hstage] at hagrees
      cases hagrees
  have hheld : s.worker.held = limit := by
    have hbalance := h.balance
    omega
  refine Nat.le_antisymm h.runningCount_le ?_
  rw [h.runningCount_eq, ← hheld]
  refine List.countP_mono_left ?_
  intro other hmem hholds
  obtain ⟨j, hother⟩ := List.mem_iff_getElem?.mp hmem
  cases hview' : other.supervision with
  | none =>
      rw [Task.holdsSlot, hview'] at hholds
      cases hholds
  | some view' =>
      rw [Task.holdsSlot, hview'] at hholds
      obtain ⟨ha, -, he⟩ := h.of_mem hmem hview'
      obtain ⟨hspawned, hended⟩ := he.isAlive hholds
      rcases Worker.stuck_cases (hstuck j) hother hview' with ⟨hstage, -⟩ | hstage | hstage
      · exact absurd hstage hspawned
      · rw [hstage] at ha
        rw [Task.isRunning, hview']
        exact decide_eq_true ha
      · exact absurd hstage hended

end
end
end Service

/-! ## Setting the limit -/

namespace WorkerSetup

section
variable {setup setup' : WorkerSetup}

/-- A worker that nobody shares takes its limit on. -/
theorem limit_of_apply {n : Nat} (hshared : setup.shared = false)
    (h : setup.apply (.maxConcurrency n) = .ok setup') : setup'.settings.limit = some (max n 1) := by
  simp only [apply, hshared, Bool.false_eq_true, if_false, change, limitOf] at h
  split at h
  · cases h
  · cases h
    rfl

/-- No other change of the settings concerns the limit. -/
theorem limit_apply {step : SetupStep} (hother : ∀ k, step ≠ .maxConcurrency k)
    (h : setup.apply step = .ok setup') : setup'.settings.limit = setup.settings.limit := by
  cases step with
  | maxConcurrency k => exact absurd rfl (hother k)
  | share => cases h; rfl
  | unshare => cases h; rfl
  | shutdownTimeout span =>
      simp only [apply] at h
      split at h
      · cases h; rfl
      · cases h; rfl
  | autoCleanup =>
      simp only [apply] at h
      split at h
      · cases h; rfl
      · cases h; rfl

theorem limit_applyAll {steps : List SetupStep} (hother : ∀ k, .maxConcurrency k ∉ steps) :
    ∀ {setup : WorkerSetup}, setup.applyAll steps = .ok setup' →
      setup'.settings.limit = setup.settings.limit := by
  induction steps with
  | nil =>
      intro setup h
      cases h
      rfl
  | cons step rest ih =>
      intro setup h
      rw [applyAll, List.foldlM_cons] at h
      cases happly : setup.apply step with
      | error abort =>
          rw [happly] at h
          cases h
      | ok next =>
          rw [happly] at h
          have hrest : ∀ k, .maxConcurrency k ∉ rest := by
            intro k hmem
            exact hother k (List.mem_cons_of_mem step hmem)
          have hstep : ∀ k, step ≠ .maxConcurrency k := by
            rintro k rfl
            exact hother k List.mem_cons_self
          exact (ih hrest h).trans (limit_apply hstep happly)

end
end WorkerSetup

/-! ## The bound -/

namespace Service

section
variable [ScanJob J] {act? : J → μ → Option J} {s : Service J} {n : Nat}
  {settings : WorkerSettings} {moves : List (WorkerMove J μ)}

theorem rationed_of_play {limit : Nat} (hlimit : settings.limit = some limit)
    (hplay : play? (step? act?) (start settings) moves = some s) : s.Rationed limit :=
  play?_preserves (P := fun s => s.Rationed limit) (fun h hstep => h.step hstep)
    (rationed_start hlimit) hplay

theorem launched_of_play {executes : J → Bool} (hexec : Execution act? executes)
    (hidle : Along (step? act?) (BringsIdle executes) (start settings) moves)
    (hplay : play? (step? act?) (start settings) moves = some s) : s.Launched executes :=
  hidle.preserves (P := Launched executes)
    (fun h hmove hstep => h.step hexec hmove hstep) (launched_start executes settings) hplay

/-- A worker that was told, before anybody shared it, to run at most `n` jobs at
once has `max n 1` slots.  Whatever becomes of its tasks:

* each slot is free or held by a supervisor that is alive;
* no more tasks than there are slots are running, and no more jobs execute;
* where no supervisor can make a step, and the task of one that was not closed
  is still pending, as many tasks as there are slots are running. -/
theorem concurrency_cap {setup₀ setup₁ setup : WorkerSetup} {later : List SetupStep}
    (hshared : setup₀.shared = false) (hcap : setup₀.apply (.maxConcurrency n) = .ok setup₁)
    (hother : ∀ k, .maxConcurrency k ∉ later) (hsetup : setup₁.applyAll later = .ok setup)
    (hplay : play? (step? act?) (start setup.settings) moves = some s) :
    s.worker.free + s.worker.held = max n 1 ∧
      (∀ i view, s.worker.supervision? i = some view → view.holdsSlot = true →
        view.stage ≠ .spawned ∧ view.stage ≠ .ended) ∧
      s.worker.runningCount ≤ max n 1 ∧
      (∀ executes, Execution act? executes →
        Along (step? act?) (BringsIdle executes) (start setup.settings) moves →
        (s.worker.tasks.countP fun task => executes task.job) ≤ max n 1) ∧
      ((∀ i, s.worker.supervise? i = none) → ∀ i task view, s.worker.task? i = some task →
        task.supervision = some view → view.status = .pending →
        (ScanJob.closer task.job).isClosed = false → s.worker.runningCount = max n 1) := by
  have hlimit : setup.settings.limit = some (max n 1) :=
    (WorkerSetup.limit_applyAll hother hsetup).trans (WorkerSetup.limit_of_apply hshared hcap)
  have h := rationed_of_play hlimit hplay
  refine ⟨h.balance, ?_, h.runningCount_le, ?_, ?_⟩
  · intro i view hview hholds
    exact (h.entitled i view hview).isAlive hholds
  · intro executes hexec hidle
    exact h.countP_executes_le (launched_of_play hexec hidle hplay)
  · intro hstuck i task view htask hview hpending _
    exact h.full hstuck htask hview hpending

end
end Service
end RowBridge.Schedule

/-! ## Streams under a limit -/

namespace RowBridge

open Schedule

variable {Row R : Type}

namespace Invocation

/-- The source of the scan is at work, or the scan has something in hand. -/
def isExecuting (v : Invocation Row R) : Bool := v.stream.scan.isIdle || v.phase.isBusy

/-- A scan that has not been begun, or has been dropped, does not execute. -/
theorem isExecuting_of_phase {v v' : Invocation Row R}
    (hphase : v'.phase = v.phase ∨ v'.phase = .discarded ∨ v'.phase = .queued)
    (h : v'.isExecuting = true) : v.isExecuting = true := by
  rw [isExecuting, phase, Scan.isIdle] at h
  rcases hphase with hp | hp | hp
  · rw [show v'.stream.scan.phase = v.stream.scan.phase from hp] at h
    exact h
  · rw [show v'.stream.scan.phase = .discarded from hp] at h
    cases h
  · rw [show v'.stream.scan.phase = .queued from hp] at h
    cases h

/-- The scan of a stream executes because its scheduler began it, and not after
it has ended. -/
theorem execution : Execution (@act? Row R) isExecuting where
  closing _ _ := rfl
  acting := by
    intro v v' move hact hv'
    obtain ⟨hstep, hbegin, hlose⟩ := step?_of_act? hact
    cases move with
    | scan m =>
        obtain ⟨scan, hscan, rfl⟩ := Option.map_eq_some_iff.mp hstep
        have hbusy : v.phase.isBusy = true → v.isExecuting = true := by
          intro hb
          rw [isExecuting, hb, Bool.or_true]
        have hidle : v.stream.scan.isIdle = true → v.isExecuting = true := by
          intro hi
          rw [isExecuting, hi, Bool.true_or]
        cases m with
        | begin => exact absurd rfl hbegin
        | lose => exact absurd rfl hlose
        | offer row index => exact hidle (Option.ite_none_right_eq_some.mp hscan).1
        | conclude ending => exact hidle (Option.ite_none_right_eq_some.mp hscan).1
        | advance expired => exact hbusy (Option.ite_none_right_eq_some.mp hscan).1
        | recheck =>
            refine hbusy ?_
            rw [phase]
            cases Scan.does_recheck hscan with
            | looksAgain hp => rw [hp]; rfl
            | endsAgain hp => rw [hp]; rfl
    | _ =>
        refine isExecuting_of_phase (phase_of_step hstep ?_) hv'
        intro m hm
        cases hm
  ended := by
    intro v ending hending
    have hp : v.stream.scan.phase = .ended ending := Service.phase_of_ending? hending
    rw [isExecuting, phase, Scan.isIdle, hp]
    rfl

end Invocation

namespace Schedule.Service

/-- Two streams and one slot: the first scan is at work, the second waits. -/
def twoStreams : List (WorkerMove (Invocation Nat Nat) (Move Nat)) :=
  [.submit "first" firstPoll, .submit "second" firstPoll, .supervise 0, .supervise 0, .supervise 0]

/-- The settings of a worker that was told to run no job at all. -/
def oneSlot : WorkerSetup := ⟨{ WorkerSettings.default with limit := some 1 }, false⟩

/-- A limit of none is a limit of one, and the one slot is used. -/
theorem concurrency_cap_used_up :
    ∃ s : Service (Invocation Nat Nat),
      WorkerSetup.fresh.apply (.maxConcurrency 0) = .ok oneSlot ∧
      play? (step? Invocation.act?) (start oneSlot.settings) twoStreams = some s ∧
      s.worker.free + s.worker.held = 1 ∧ s.worker.runningCount = 1 ∧
      (s.worker.tasks.countP fun task => task.job.isExecuting) ≤ 1 := by
  refine ⟨_, rfl, rfl, ?_⟩
  have hidle : Along (step? Invocation.act?) (BringsIdle (μ := Move Nat) Invocation.isExecuting)
      (start oneSlot.settings) twoStreams := ⟨rfl, rfl, trivial, trivial, trivial, trivial⟩
  obtain ⟨hbalance, -, -, hexecutes, hfull⟩ := @concurrency_cap _ _ _ Invocation.act? _ 0 twoStreams
    .fresh oneSlot oneSlot [] rfl rfl nofun rfl rfl
  refine ⟨hbalance, hfull ?_ 1 _ _ rfl rfl rfl rfl, hexecutes _ Invocation.execution hidle⟩
  intro i
  match i with
  | 0 => rfl
  | 1 => rfl
  | n + 2 => rfl

end Schedule.Service
end RowBridge
