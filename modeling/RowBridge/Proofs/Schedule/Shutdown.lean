/-
# `RowBridge.Proofs.Schedule.Shutdown` — what a shutdown leaves behind

A worker that is shut down is told to stop, looks up the tasks in its table, and
closes their sessions as cancelled.  Supervisors, scans and consumers go on
meanwhile and afterwards.

    a task that                                 afterwards
    waits, or has not been looked at again      ends cancelled, its scan not begun
    was begun, or has ended, and is in the      its session is closed
      table
    has ended and left the table                its session is as it was
    is handed over after the stop               turned away, its session closed
    was found welcome before the stop, and      none of these
      entered after the look-up

The supervisor of a task whose session is closed and whose job it has not begun
has only one way to go, of three steps at most (`Withdrawn.step`); it never
lacks the next one, since a closed session is what it would wait for
(`Withdrawn.exists_step`).  A task that was turned away has no supervisor that
could begin it.

**Proved here**, for every plan, every source, every consumer and every schedule
of any number of tasks (`shutdown_is_final`): the table, but for its last row, and
what a stream is given whose first poll comes after the stop.  The fourth row is a
restriction: a task that was accepted may be left with an open session
(`accepted_task_left_open`).
-/
import RowBridge.Proofs.Schedule.Finished
import RowBridge.Proofs.Schedule.Reasons
import RowBridge.Proofs.Stream.Rejected

namespace RowBridge

variable {Row R : Type}

/-- A stream in use has not run a scan that nobody began. -/
theorem Invocation.InUse.unrun {v : Invocation Row R} (h : v.InUse) : v.Unrun := by
  refine (h.induct (P := fun v : Invocation Row R => v.Coherent ∧ v.Unrun) ?_ ?_).2
  · intro plan capacity stream hopen
    refine ⟨coherent_start hopen, ?_⟩
    cases RowStream.eq_fresh_of_open? hopen
    exact fun _ => rfl
  · rintro u u' move ⟨hu, hunrun⟩ hstep
    exact ⟨hu.step hstep, hunrun.step hu hstep⟩

theorem Invocation.Hired.scans_of_queued {v : Invocation Row R} (h : v.Hired)
    (hp : v.phase = .queued) : v.stream.scan.scans = 0 :=
  h.inUse.unrun (by rw [hp]; rfl)

namespace Schedule

namespace Service

/-- A step of the supervisor of a task. -/
def isStepOf (i : Nat) : WorkerMove (Invocation Row R) (Move Row) → Bool
  | .supervise j => i == j
  | _ => false

/-! ## Tasks that wait -/

/-- A job and its supervisor are where they believe each other to be, and the
supervisor of a pending task has not begun the job, nor judged it by anything but
its closing. -/
structure Tended (log : List Entry) (i : Nat) (v : Invocation Row R) (view : Supervision) : Prop
    extends Serves log i v view where
  agrees : view.stage.Agrees view.status
  waits : view.status = .pending →
    v.phase = .queued ∧ ∀ final, view.stage = .concluding final → final = .cancelled

/-- A task of a worker, supervised or turned away. -/
structure Employed (log : List Entry) (i : Nat) (task : Task (Invocation Row R)) : Prop where
  hired : task.job.Hired
  tended : ∀ view, task.supervision = some view → Tended log i task.job view
  dismissed : task.supervision = none → task.job.phase = .queued

section
variable {s s' : Service (Invocation Row R)} {move : WorkerMove (Invocation Row R) (Move Row)}
  {i : Nat} {task task' : Task (Invocation Row R)} {view view' : Supervision}
  {log entries : List Entry}

/-- The supervisor of a pending task waits, is about to look at the closer, or has
found the session closed. -/
theorem Tended.recedes {v : Invocation Row R} (h : Tended log i v view)
    (hpending : view.status = .pending) : view.stage.Recedes view.status := by
  have hagrees := h.agrees
  rw [hpending] at hagrees ⊢
  cases hstage : view.stage with
  | spawned => rfl
  | admitted => rfl
  | concluding final => exact ⟨rfl, (h.waits hpending).2 final hstage⟩
  | _ => rw [hstage] at hagrees; cases hagrees

/-- A scan that waits for its thread goes on waiting unless its supervisor is the
one who puts it there. -/
theorem Touches.phase_queued (ht : Touches Invocation.act? s i task move entries task')
    (hmarked : task.job.Marked) (hp : task.job.phase = .queued)
    (hstage : ∀ view, task.supervision = some view → view.stage ≠ .launching) :
    task'.job.phase = .queued := by
  cases ht with
  | acts hact => exact ((hmarked.act hact).2.1 (Or.inl hp)).trans hp
  | closes => exact hp
  | cancels => exact hp
  | supervised hview hsup =>
      cases hsup with
      | launches hs => exact absurd hs (hstage _ hview)
      | @fails ending =>
          cases ending with
          | raised text => exact hp
          | _ => exact hp
      | _ => exact hp
  | _ => exact hp

/-- A step of the supervisor. -/
theorem Tended.supervise (h : Tended s.log i task.job view)
    (htask : s.worker.task? i = some task) (hview : task.supervision = some view) {free : Nat}
    {failures : Broadcast TaskFailure} {job : Invocation Row R}
    (hsup : s.worker.Supervises task view free failures job view') :
    Tended (s.log ++ s.worker.judgement i) i job view' := by
  refine ⟨h.toServes.supervise htask hview hsup, hsup.agrees h.agrees, ?_⟩
  have hagrees := h.agrees
  -- a supervisor that has begun its job has said so
  have hbusy : ∀ {p : Prop}, view.status = .running → view.status = .pending → p := by
    intro p hrunning hpending
    cases hrunning.symm.trans hpending
  have hfinished : ∀ {p : Prop} {status : TaskStatus}, status.isFinished = true →
      status = .pending → p := by
    rintro p _ hf rfl
    cases hf
  intro hpending
  cases hsup with
  | needsNone => exact ⟨(h.waits hpending).1, nofun⟩
  | givesUp => exact ⟨(h.waits hpending).1, by rintro final ⟨⟩; rfl⟩
  | getsSlot => exact ⟨(h.waits hpending).1, nofun⟩
  | turnsBack => exact ⟨(h.waits hpending).1, by rintro final ⟨⟩; rfl⟩
  | goesOn => cases hpending
  | launches hs => rw [hs] at hagrees; exact hbusy hagrees hpending
  | returns hs => rw [hs] at hagrees; exact hbusy hagrees hpending
  | fails hs => rw [hs] at hagrees; exact hbusy hagrees hpending
  | settles hs => rw [hs] at hagrees; exact hfinished hagrees.2 hpending
  | leaves hs => rw [hs] at hagrees; exact hfinished hagrees hpending

/-- Whatever is done to a task keeps it so. -/
theorem Employed.touches (h : Employed s.log i task) (htask : s.worker.task? i = some task)
    (ht : Touches Invocation.act? s i task move entries task') :
    Employed (s.log ++ entries) i task' := by
  have hmarked := h.hired.toMarked
  have hnever : ∀ view, task.supervision = some view → view.status = .pending →
      view.stage ≠ .launching := by
    intro view hview hpending hstage
    have hagrees := (h.tended view hview).agrees
    rw [hstage] at hagrees
    cases hpending.symm.trans hagrees
  refine ⟨?_, ?_, ?_⟩
  · rcases ht.job_cases fun view hview => (h.tended view hview).toServes with hsame | ⟨m, hm⟩
    · exact hsame ▸ h.hired
    · exact h.hired.step hm
  · intro view' hview'
    cases hview : task.supervision with
    | none => exact nomatch (ht.unsupervised hview).symm.trans hview'
    | some view =>
        have htended := h.tended view hview
        obtain ⟨other, hother, hserves⟩ := htended.toServes.touches htask hview ht
        cases hview'.symm.trans hother
        obtain ⟨last, hlast, ⟨-, free, failures, hsup⟩ | ⟨hstage, hstatus⟩⟩ := ht.view_cases hview
        · cases hview'.symm.trans hlast
          have hsupervised := htended.supervise htask hview hsup
          exact ⟨hserves, hsupervised.agrees, hsupervised.waits⟩
        · cases hview'.symm.trans hlast
          refine ⟨hserves, ?_, ?_⟩
          · rw [hstage, hstatus]
            exact htended.agrees
          · intro hpending
            rw [hstatus] at hpending
            rw [hstage]
            obtain ⟨hp, hfinal⟩ := htended.waits hpending
            refine ⟨ht.phase_queued hmarked hp ?_, hfinal⟩
            intro other hother
            cases hview.symm.trans hother
            exact hnever view hview hpending
  · intro hnone'
    have hnone : task.supervision = none := by
      cases hview : task.supervision with
      | none => rfl
      | some view =>
          obtain ⟨view', hview', -⟩ := ht.view_cases hview
          exact nomatch hnone'.symm.trans hview'
    refine ht.phase_queued hmarked (h.dismissed hnone) ?_
    intro view hview
    exact nomatch hnone.symm.trans hview

/-- A task that is turned away. -/
theorem employed_of_rejected {job : Invocation Row R} (h : job.HandedOver) (log : List Entry)
    (i : Nat) (id : String) : Employed log i ⟨id, ScanJob.close job .cancelled, none⟩ := by
  have hclose : job.step? (.close .cancelled) = some (ScanJob.close job .cancelled) := rfl
  refine ⟨h.hired.step hclose, ?_, fun _ => h.marked.2⟩
  intro view hview
  cases hview

/-- Every task of a worker is one of these. -/
theorem employed_of_play {settings : WorkerSettings}
    {moves : List (WorkerMove (Invocation Row R) (Move Row))}
    (hplay : play? (step? Invocation.act?) (start settings) moves = some s)
    (halong : Along (step? Invocation.act?) HandsOver (start settings) moves)
    (htask : s.worker.task? i = some task) : Employed s.log i task := by
  refine halong.preserves (P := fun s => ∀ i task, s.worker.task? i = some task →
    Employed s.log i task) ?_ ?_ hplay i task htask
  · intro t t' move h hmove hstep
    refine forall_task_of_step (P := Employed) (fun htask h ht => h.touches htask ht) ?_ hstep h
    rintro task (⟨id, job, rfl, rfl⟩ | ⟨id, job, hnew, rfl⟩)
    · exact employed_of_rejected hmove _ _ id
    · have hjob : job.HandedOver := by
        rcases hnew with rfl | rfl
        · exact hmove
        · exact hmove
      obtain ⟨hmarked, hp⟩ := hjob.marked
      refine ⟨hjob.hired, ?_, nofun⟩
      rintro view ⟨⟩
      exact ⟨⟨hmarked, hp⟩, rfl, fun _ => ⟨hp, nofun⟩⟩
  · intro i task htask
    rw [task?_start] at htask
    cases htask

/-! ## Closed sessions -/

/-- No move changes the reason of a closing. -/
theorem Touches.reason (ht : Touches Invocation.act? s i task move entries task')
    (h : Employed s.log i task) {reason : ClosureReason}
    (hr : task.job.session.reason = some reason) : task'.job.session.reason = some reason := by
  rcases ht.job_cases fun view hview => (h.tended view hview).toServes with hsame | ⟨m, hm⟩
  · rw [hsame]
    exact hr
  · exact Invocation.reason_of_step h.hired.coherent hr hm

/-! ## Tasks that are withdrawn -/

/-- The session of the task was closed before its supervisor had begun the job. -/
structure Withdrawn (v : Invocation Row R) (view : Supervision) : Prop where
  hired : v.Hired
  closed : v.session.isClosed = true
  unbegun : v.phase = .queued
  recedes : view.stage.Recedes view.status

/-- A step of the supervisor of this task is one of the rules. -/
theorem supervises_of_step (htask : s.worker.task? i = some task)
    (hview : task.supervision = some view)
    (hstep : s.step? Invocation.act? (.supervise i) = some s') :
    ∃ free failures job view', s.worker.Supervises task view free failures job view' ∧
      s'.worker.task? i = some { task with job := job, supervision := some view' } := by
  obtain ⟨worker, hworker, rfl⟩ := Option.map_eq_some_iff.mp hstep
  obtain ⟨known, other, free, failures, job, view', hknown, hother, hsup, rfl⟩ :=
    Worker.supervises_of_supervise? hworker
  cases htask.symm.trans hknown
  cases hview.symm.trans hother
  exact ⟨free, failures, job, view', hsup,
    (Worker.task?_replaced htask task free failures job view').trans (congrArg _ (if_pos rfl))⟩

theorem Withdrawn.not_launching (h : Withdrawn task.job view) : view.stage ≠ .launching := by
  intro hs
  have hrecedes := h.recedes
  rw [hs] at hrecedes
  exact hrecedes

/-- A task that is withdrawn stays so, and each step of its supervisor brings it
nearer to its end. -/
theorem Withdrawn.step (h : Withdrawn task.job view) (hemployed : Employed s.log i task)
    (htask : s.worker.task? i = some task) (hview : task.supervision = some view)
    (hstep : s.step? Invocation.act? move = some s') :
    ∃ task' view', s'.worker.task? i = some task' ∧ task'.supervision = some view' ∧
      Withdrawn task'.job view' ∧
      view'.stage.left ≤ view.stage.left - (if isStepOf i move then 1 else 0) := by
  obtain ⟨entries, task', -, htask', ht⟩ := touches_of_step hstep htask
  have hhired := (hemployed.touches htask ht).hired
  have hclosed : task'.job.session.isClosed = true := by
    obtain ⟨reason, hr⟩ := Option.isSome_iff_exists.mp h.closed
    exact Session.isClosed_of_reason (ht.reason hemployed hr)
  have hunbegun : task'.job.phase = .queued := by
    refine ht.phase_queued hemployed.hired.toMarked h.unbegun ?_
    intro other hother
    cases hview.symm.trans hother
    exact h.not_launching
  by_cases hmove : move = .supervise i
  · subst hmove
    obtain ⟨free, failures, job, view', hsup, hafter⟩ := supervises_of_step htask hview hstep
    cases htask'.symm.trans hafter
    obtain ⟨-, hrecedes, hleft⟩ := hsup.recedes h.closed h.recedes
    refine ⟨_, view', htask', rfl, ⟨hhired, hclosed, hunbegun, hrecedes⟩, ?_⟩
    rw [if_pos (show isStepOf i (.supervise i : WorkerMove (Invocation Row R) (Move Row)) = true
      from beq_self_eq_true i)]
    exact hleft
  · obtain ⟨view', hview', ⟨hsup, -⟩ | ⟨hstage, hstatus⟩⟩ := ht.view_cases hview
    · exact absurd hsup hmove
    · refine ⟨task', view', htask', hview', ⟨hhired, hclosed, hunbegun, ?_⟩, ?_⟩
      · rw [hstage, hstatus]
        exact h.recedes
      · have hother : isStepOf i move = false := by
          cases move with
          | supervise j => exact beq_false_of_ne fun hij => hmove (hij ▸ rfl)
          | _ => rfl
        rw [hstage, hother]
        exact Nat.le_refl _

theorem Withdrawn.of_play {later : List (WorkerMove (Invocation Row R) (Move Row))}
    {w : Service (Invocation Row R)} :
    ∀ {s : Service (Invocation Row R)} {task : Task (Invocation Row R)} {view : Supervision},
      Withdrawn task.job view → Employed s.log i task → s.worker.task? i = some task →
      task.supervision = some view → play? (step? Invocation.act?) s later = some w →
      ∃ task' view', w.worker.task? i = some task' ∧ task'.supervision = some view' ∧
        Withdrawn task'.job view' ∧
        view'.stage.left ≤ view.stage.left - later.countP (isStepOf i) := by
  induction later with
  | nil =>
      intro s task view h _ htask hview hplay
      cases hplay
      exact ⟨task, view, htask, hview, h, Nat.le_refl _⟩
  | cons move later ih =>
      intro s task view h hemployed htask hview hplay
      obtain ⟨s', hstep, hrest⟩ := play?_cons hplay
      obtain ⟨entries, task', hlog, htask', ht⟩ := touches_of_step hstep htask
      obtain ⟨other, view', hother, hview', hwithdrawn, hleft⟩ :=
        h.step hemployed htask hview hstep
      cases htask'.symm.trans hother
      have hemployed' : Employed s'.log i task' := hlog ▸ hemployed.touches htask ht
      obtain ⟨last, view'', hlast, hview'', hwithdrawn', hleft'⟩ :=
        ih hwithdrawn hemployed' htask' hview' hrest
      refine ⟨last, view'', hlast, hview'', hwithdrawn', ?_⟩
      rw [List.countP_cons]
      omega

/-- The supervisor of a task that is withdrawn makes its next step whenever its
turn comes. -/
theorem Withdrawn.exists_step (h : Withdrawn task.job view) (htask : s.worker.task? i = some task)
    (hview : task.supervision = some view) (hpending : view.status = .pending) :
    s.worker.supervise? i ≠ none :=
  Worker.supervise?_ne_none_of_recedes htask hview h.closed h.recedes hpending

/-! ## Every schedule -/

variable {t w : Service (Invocation Row R)} {settings : WorkerSettings}
  {moves rest later : List (WorkerMove (Invocation Row R) (Move Row))}

theorem Employed.of_play (h : Employed s.log i task) (htask : s.worker.task? i = some task)
    (hplay : play? (step? Invocation.act?) s later = some t) :
    ∃ task', t.worker.task? i = some task' ∧ Employed t.log i task' :=
  task_of_play (P := fun log task => Employed log i task) (fun htask h ht => h.touches htask ht)
    htask h hplay

/-- Nor does any schedule. -/
theorem Employed.reason_of_play (h : Employed s.log i task) (htask : s.worker.task? i = some task)
    {reason : ClosureReason} (hr : task.job.session.reason = some reason)
    (hplay : play? (step? Invocation.act?) s later = some t) :
    ∃ task', t.worker.task? i = some task' ∧ task'.job.session.reason = some reason := by
  obtain ⟨task', htask', -, hr'⟩ := task_of_play
    (P := fun log task => Employed log i task ∧ task.job.session.reason = some reason)
    (fun htask h ht => ⟨h.1.touches htask ht, ht.reason h.1 h.2⟩) htask ⟨h, hr⟩ hplay
  exact ⟨task', htask', hr'⟩

/-- What is recorded once the session of a task has been closed stays so. -/
theorem Employed.closed_of_play (h : Employed s.log i task) (htask : s.worker.task? i = some task)
    {reason : ClosureReason} (hin : .close i reason ∈ rest)
    (hrest : play? (step? Invocation.act?) s rest = some t) :
    ∃ early late x known, rest = early ++ .close i reason :: late ∧
      play? (step? Invocation.act?) s early = some x ∧ x.worker.task? i = some known ∧
      ∀ later w, play? (step? Invocation.act?) t later = some w →
        ∃ task', w.worker.task? i = some task' ∧
          task'.job.session.reason = some (known.job.session.reason.getD reason) := by
  obtain ⟨early, late, rfl⟩ := List.append_of_mem hin
  rw [play?_append] at hrest
  obtain ⟨x, hearly, hrest⟩ := Option.bind_eq_some_iff.mp hrest
  obtain ⟨x', hclose, hlate⟩ := play?_cons hrest
  obtain ⟨known, hknown, hemployed⟩ := h.of_play htask hearly
  obtain ⟨entries, closed, hlog, hclosed, ht⟩ := touches_of_step hclose hknown
  have hemployed' : Employed x'.log i closed := hlog ▸ hemployed.touches hknown ht
  have hr : closed.job.session.reason = some (known.job.session.reason.getD reason) := by
    cases hclose
    cases hclosed.symm.trans (Worker.task?_onJob_self hknown _)
    exact Session.close_reason known.job.session reason
  refine ⟨early, late, x, known, rfl, hearly, hknown, ?_⟩
  intro later w hlater
  have hafter : play? (step? Invocation.act?) x' (late ++ later) = some w := by
    rw [play?_append, hlate]
    exact hlater
  exact hemployed'.reason_of_play hclosed hr hafter

/-- A task that is pending when its session is closed is never begun, and is
cancelled by the third step of its supervisor at the latest. -/
theorem Employed.withdrawn_of_play (h : Employed s.log i task)
    (htask : s.worker.task? i = some task) (hview : task.supervision = some view)
    (hpending : view.status = .pending) (hclosed : task.job.session.isClosed = true)
    (hplay : play? (step? Invocation.act?) s later = some w) :
    ∃ task' view', w.worker.task? i = some task' ∧ task'.supervision = some view' ∧
      task'.job.phase = .queued ∧ task'.job.stream.scan.scans = 0 ∧
      (view'.status = .cancelled ∨ (view'.status = .pending ∧
        later.countP (isStepOf i) < 3 ∧ w.worker.supervise? i ≠ none)) := by
  have htended := h.tended view hview
  have hwithdrawn : Withdrawn task.job view :=
    ⟨h.hired, hclosed, (htended.waits hpending).1, htended.recedes hpending⟩
  obtain ⟨task', view', htask', hview', hlast, hleft⟩ := hwithdrawn.of_play h htask hview hplay
  have hscans := hlast.hired.scans_of_queued hlast.unbegun
  refine ⟨task', view', htask', hview', hlast.unbegun, hscans, ?_⟩
  have hrecedes := hlast.recedes
  have hbound := view.stage.left_le
  -- a supervisor that has a step left has not written the status
  have hwaits : view'.status = .pending → 0 < view'.stage.left → view'.status = .pending ∧
      later.countP (isStepOf i) < 3 ∧ w.worker.supervise? i ≠ none := by
    intro hpending' hpos
    exact ⟨hpending', by omega, hlast.exists_step htask' hview' hpending'⟩
  cases hstage : view'.stage with
  | spawned =>
      rw [hstage] at hrecedes hwaits
      exact Or.inr (hwaits hrecedes (Nat.succ_pos 2))
  | admitted =>
      rw [hstage] at hrecedes hwaits
      exact Or.inr (hwaits hrecedes (Nat.succ_pos 1))
  | concluding final =>
      rw [hstage] at hrecedes hwaits
      exact Or.inr (hwaits hrecedes.1 Nat.one_pos)
  | launching => rw [hstage] at hrecedes; exact hrecedes.elim
  | running => rw [hstage] at hrecedes; exact hrecedes.elim
  | leaving => rw [hstage] at hrecedes; exact Or.inl hrecedes
  | ended => rw [hstage] at hrecedes; exact Or.inl hrecedes

/-- A task that was turned away is left alone, and its session stays closed. -/
theorem Employed.dismissed_of_play (h : Employed s.log i task)
    (htask : s.worker.task? i = some task) (hnone : task.supervision = none)
    {reason : ClosureReason} (hr : task.job.session.reason = some reason)
    (hplay : play? (step? Invocation.act?) s later = some w) :
    ∃ task', w.worker.task? i = some task' ∧ task'.supervision = none ∧
      task'.job.phase = .queued ∧ task'.job.stream.scan.scans = 0 ∧
      task'.job.session.reason = some reason := by
  obtain ⟨task', htask', hlast, hnone', hr'⟩ := task_of_play
    (P := fun log task => Employed log i task ∧ task.supervision = none ∧
      task.job.session.reason = some reason)
    (fun htask h ht => ⟨h.1.touches htask ht, ht.unsupervised h.2.1, ht.reason h.1 h.2.2⟩)
    htask ⟨h, hnone, hr⟩ hplay
  have hp := hlast.dismissed hnone'
  exact ⟨task', htask', hnone', hp, hlast.hired.scans_of_queued hp, hr'⟩

/-- A worker that was told to stop has not been told otherwise since. -/
theorem stopping_of_play (h : s.worker.stopping = true)
    (hplay : play? (step? Invocation.act?) s later = some t) : t.worker.stopping = true :=
  play?_preserves (P := fun s : Service (Invocation Row R) => s.worker.stopping = true)
    (fun h hstep => (terms_of_step hstep).2.2 h) h hplay

theorem stopping_of_mem (hin : .stop ∈ moves)
    (hplay : play? (step? Invocation.act?) s moves = some t) : t.worker.stopping = true := by
  obtain ⟨early, late, rfl⟩ := List.append_of_mem hin
  rw [play?_append] at hplay
  obtain ⟨x, -, hrest⟩ := Option.bind_eq_some_iff.mp hplay
  obtain ⟨x', hstop, hlate⟩ := play?_cons hrest
  cases hstop
  exact stopping_of_play rfl hlate

/-- A worker is told to stop; then the tasks in its table are looked up, in the
state `s`, and by the state `t` the sessions of those that are still there have
been closed.  Others may act at any time and in any order:

* the session of every task that was known at the look-up and has not ended, or is
  still in the table, has been closed, and has for good the reason that it had
  before, or is cancelled;
* a task that is pending when its session is closed is never begun and stays
  pending, with a step of its supervisor to come, until it is cancelled, which the
  third step does at the latest;
* a task that is handed over is never supervised nor in the table, its scan is not
  begun, and its session has the reason that it had before, or is cancelled;
* a stream that is polled for the first time, inside a runtime, is given the
  closing, which is a cancellation unless somebody had closed the session, and
  then the end, and its scan is not run. -/
theorem shutdown_is_final
    (hplay : play? (step? Invocation.act?) (start settings) moves = some s)
    (halong : Along (step? Invocation.act?) HandsOver (start settings) moves)
    (hstop : .stop ∈ moves) (hrest : play? (step? Invocation.act?) s rest = some t)
    (hcloses : ∀ i ∈ s.worker.trackedPositions, i ∈ t.worker.trackedPositions →
      .close i .cancelled ∈ rest) :
    (∀ i view, i < s.worker.tasks.length → t.worker.supervision? i = some view →
      view.tracked = true ∨ view.status.isFinished = false →
      ∃ early late x task, rest = early ++ .close i .cancelled :: late ∧
        play? (step? Invocation.act?) s early = some x ∧ x.worker.task? i = some task ∧
        ∀ later w, play? (step? Invocation.act?) t later = some w →
          ∃ task', w.worker.task? i = some task' ∧
            task'.job.session.reason = some (task.job.session.reason.getD .cancelled)) ∧
    (∀ i early x task view, i < s.worker.tasks.length →
      play? (step? Invocation.act?) s early = some x → x.worker.task? i = some task →
      task.supervision = some view → view.status = .pending →
      task.job.session.isClosed = true →
      ∀ later w, play? (step? Invocation.act?) x later = some w →
        ∃ task' view', w.worker.task? i = some task' ∧ task'.supervision = some view' ∧
          task'.job.phase = .queued ∧ task'.job.stream.scan.scans = 0 ∧
          (view'.status = .cancelled ∨ (view'.status = .pending ∧
            later.countP (isStepOf i) < 3 ∧ w.worker.supervise? i ≠ none))) ∧
    (∀ early id job x y, job.HandedOver → play? (step? Invocation.act?) s early = some x →
      x.step? Invocation.act? (.submit id job) = some y →
      ∀ later w, play? (step? Invocation.act?) y later = some w →
        ∃ task, w.worker.task? x.worker.tasks.length = some task ∧ task.supervision = none ∧
          w.worker.isTracked x.worker.tasks.length = false ∧
          task.job.phase = .queued ∧ task.job.stream.scan.scans = 0 ∧
          task.job.session.reason = some (job.session.reason.getD .cancelled)) ∧
    (∀ early x, play? (step? Invocation.act?) s early = some x →
      x.worker.reception = .rejected ∧
      ∀ (plan : ScanPlan Row R) (capacity : Nat) (stream : RowStream Row R)
        (steps polled : List (Move Row)) (v u w : Invocation Row R),
        RowStream.open? plan capacity = .ok stream →
        play? Invocation.step? (Invocation.start stream) steps = some v →
        v.stream.started = false → v.stream.done = false → v.step? .beginPoll = some u →
        Along Invocation.step? (Invocation.ReceivedAs x.worker.reception) u polled →
        play? Invocation.step? u polled = some w → v.TurnedAway polled w) := by
  have hstopping := stopping_of_mem hstop hplay
  have hboth : play? (step? Invocation.act?) (start settings) (moves ++ rest) = some t := by
    rw [play?_append, hplay]
    exact hrest
  have hknown : ∀ {i : Nat}, i < s.worker.tasks.length →
      ∃ task, s.worker.task? i = some task ∧ Employed s.log i task := by
    intro i hi
    have htask : s.worker.task? i = some s.worker.tasks[i] := List.getElem?_eq_getElem hi
    exact ⟨_, htask, employed_of_play hplay halong htask⟩
  refine ⟨?_, ?_, ?_, ?_⟩
  · intro i view hi hview hthere
    obtain ⟨task, htask, hemployed⟩ := hknown hi
    have htracked : i ∈ t.worker.trackedPositions := by
      refine mem_trackedPositions.mpr ⟨view, hview, hthere.elim id ?_⟩
      intro hunfinished
      rcases ((kept_of_play hboth).fits i view hview).tracked with htracked | hfinished
      · exact htracked
      · exact absurd (hunfinished.symm.trans hfinished) Bool.false_ne_true
    have hin := hcloses i (tracked_of_play htask hrest htracked) htracked
    exact hemployed.closed_of_play htask hin hrest
  · intro i early x task view hi hearly htask hview hpending hclosed later w hlater
    obtain ⟨task₀, htask₀, hemployed₀⟩ := hknown hi
    obtain ⟨other, hother, hemployed⟩ := hemployed₀.of_play htask₀ hearly
    cases htask.symm.trans hother
    exact hemployed.withdrawn_of_play htask hview hpending hclosed hlater
  · intro early id job x y hjob hearly hsubmit later w hlater
    have hx := stopping_of_play hstopping hearly
    cases hsubmit
    have htask : (x.worker.submit id job).task? x.worker.tasks.length =
        some ⟨id, ScanJob.close job .cancelled, none⟩ := by
      rw [Worker.submit, if_pos hx]
      exact List.getElem?_concat_length
    have hemployed := employed_of_rejected hjob x.log x.worker.tasks.length id
    have hr : (ScanJob.close job .cancelled).session.reason =
        some (job.session.reason.getD .cancelled) := Session.close_reason job.session .cancelled
    obtain ⟨task', htask', hnone, hp, hscans, hreason⟩ :=
      Employed.dismissed_of_play (s := { x with worker := x.worker.submit id job }) hemployed
        htask rfl hr hlater
    refine ⟨task', htask', hnone, ?_, hp, hscans, hreason⟩
    rw [Worker.isTracked, Worker.supervision?_of_task? htask', hnone]
    rfl
  · intro early x hearly
    have hrejected : x.worker.reception = .rejected :=
      if_pos (stopping_of_play hstopping hearly)
    refine ⟨hrejected, ?_⟩
    rw [hrejected]
    intro plan capacity stream steps polled v u w hopen hsteps hs hd hbegin hpolled hw
    exact Invocation.first_poll_rejected hopen hsteps hs hd hbegin hpolled hw

end

/-- One of two streams runs and the other waits for the slot. -/
def toldToStop : List (WorkerMove (Invocation Nat Nat) (Move Nat)) := twoStreams ++ [.stop]

/-- Their sessions are closed then, and the one that waits is cancelled by the third
step of its supervisor at the latest. -/
theorem waiting_task_never_run :
    ∃ (s t : Service (Invocation Nat Nat)) (task : Task (Invocation Nat Nat))
      (view : Supervision),
      play? (step? Invocation.act?) (start oneSlot.settings) toldToStop = some s ∧
      play? (step? Invocation.act?) s
        [.close 0 .cancelled, .close 1 .cancelled, .shutdown [0, 1]] = some t ∧
      t.worker.task? 1 = some task ∧ task.supervision = some view ∧ view.status = .pending ∧
      ∀ later w, play? (step? Invocation.act?) t later = some w →
        3 ≤ later.countP (isStepOf 1) →
        ∃ task' view', w.worker.task? 1 = some task' ∧ task'.supervision = some view' ∧
          view'.status = .cancelled ∧ task'.job.stream.scan.scans = 0 := by
  obtain ⟨s, t, task, view, hplay, hrest, htracked, hlength, htask, hview, hpending, hclosed⟩ :
      ∃ (s t : Service (Invocation Nat Nat)) (task : Task (Invocation Nat Nat))
        (view : Supervision),
        play? (step? Invocation.act?) (start oneSlot.settings) toldToStop = some s ∧
        play? (step? Invocation.act?) s
          [.close 0 .cancelled, .close 1 .cancelled, .shutdown [0, 1]] = some t ∧
        s.worker.trackedPositions = [0, 1] ∧ s.worker.tasks.length = 2 ∧
        t.worker.task? 1 = some task ∧ task.supervision = some view ∧ view.status = .pending ∧
        task.job.session.isClosed = true :=
    ⟨_, _, _, _, rfl, rfl, rfl, rfl, rfl, rfl, rfl, rfl⟩
  refine ⟨s, t, task, view, hplay, hrest, htask, hview, hpending, ?_⟩
  have halong : Along (step? Invocation.act?) HandsOver (start oneSlot.settings) toldToStop := by
    have hrest : ∀ move ∈ toldToStop.drop 2, bringsJob move = false := by decide
    refine ⟨firstPoll_handedOver, firstPoll_handedOver, Along.of_forall ?_ _⟩
    exact fun move hmove => handsOver_of_not_bringsJob (hrest move hmove)
  have hcloses : ∀ i ∈ s.worker.trackedPositions, i ∈ t.worker.trackedPositions →
      .close i .cancelled ∈
        ([.close 0 .cancelled, .close 1 .cancelled, .shutdown [0, 1]] :
          List (WorkerMove (Invocation Nat Nat) (Move Nat))) := by
    intro i hi _
    rw [htracked] at hi
    rcases List.mem_cons.mp hi with rfl | hi
    · exact List.mem_cons_self
    · cases List.mem_singleton.mp hi
      exact List.mem_cons_of_mem _ List.mem_cons_self
  have hstop : .stop ∈ toldToStop := List.mem_append_right _ (List.mem_singleton_self _)
  have hfinal := @shutdown_is_final _ _ s t oneSlot.settings toldToStop _ hplay halong hstop hrest
    hcloses
  intro later w hlater hsteps
  obtain ⟨task', view', htask', hview', -, hscans, hcancelled | ⟨-, hfew, -⟩⟩ :=
    hfinal.2.1 1 _ t task view (hlength ▸ Nat.lt_succ_self 1) hrest htask hview hpending hclosed
      later w hlater
  · exact ⟨task', view', htask', hview', hcancelled, hscans⟩
  · exact absurd hsteps (Nat.not_le_of_lt hfew)

/-- A task was accepted, has ended and was cleaned up before the worker is shut
down; its session is left open. -/
theorem accepted_task_left_open :
    ∃ (s t : Service (Invocation Nat Nat)) (task : Task (Invocation Nat Nat))
      (view : Supervision),
      play? (step? Invocation.act?) (start ⟨none, .ofMillis 10, false⟩)
        (leftUnread ++ [WorkerMove.prune 0]) = some s ∧
      Along (step? Invocation.act?) HandsOver (start ⟨none, .ofMillis 10, false⟩)
        (leftUnread ++ [WorkerMove.prune 0]) ∧
      s.worker.supervision? 0 = some view ∧ s.worker.trackedPositions = [] ∧
      play? (step? Invocation.act?) s [.stop, .shutdown []] = some t ∧
      t.worker = s.worker.startShutdown ∧ t.worker.task? 0 = some task ∧
      task.job.session.reason = none :=
  ⟨_, _, _, _, rfl, leftUnread_handsOver.append rfl ⟨trivial, trivial⟩, rfl, rfl, rfl, rfl, rfl,
    rfl⟩

end Service
end Schedule
end RowBridge
