/-
# `RowBridge.Proofs.Schedule.Jobs` — a worker's jobs are streams in use

The jobs of a worker are the scans of streams, each handed over in the first poll
of its stream.  Whatever a service does to a task is, for the job, one move of the
stream or none at all (`Touches.job_cases`): the supervisor begins the scan and
closes the session after a scan that gave up, callers close it, and everything
else leaves the job alone.  So every job has come about in the use of a stream
that could be opened (`hired_of_play`), whether it is supervised or was turned
away, and what holds of all streams in use holds of all jobs.

From the moment at which the status of a task is final there are no moves by the
supervisor left.  What a schedule does to the job from then on is what it does by
its own moves, by closings of the session and by cancellations, in this order
(`play?_dealings`); joins, clean-ups, calls that wait and everything that happens
to other tasks do not come into it.
-/
import RowBridge.Proofs.Schedule.Verdict
import RowBridge.Proofs.Stream.Terminal

namespace RowBridge

variable {Row R : Type}

namespace Invocation

/-- The invocation has come about in the use of a stream that could be opened. -/
def InUse (v : Invocation Row R) : Prop :=
  ∃ (plan : ScanPlan Row R) (capacity : Nat) (stream : RowStream Row R) (moves : List (Move Row)),
    RowStream.open? plan capacity = .ok stream ∧ play? step? (start stream) moves = some v

section
variable {v v' : Invocation Row R} {move : Move Row}

theorem InUse.step (h : v.InUse) (hstep : v.step? move = some v') : v'.InUse := by
  obtain ⟨plan, capacity, stream, moves, hopen, hplay⟩ := h
  refine ⟨plan, capacity, stream, moves ++ [move], hopen, ?_⟩
  rw [play?_append, hplay]
  exact congrArg (Option.bind · some) hstep

/-- What holds of every stream that was opened and is kept by every move holds of
every stream in use. -/
theorem InUse.induct {P : Invocation Row R → Prop} (h : v.InUse)
    (hstart : ∀ {plan : ScanPlan Row R} {capacity : Nat} {stream : RowStream Row R},
      RowStream.open? plan capacity = .ok stream → P (start stream))
    (hstep : ∀ {u u' : Invocation Row R} {move : Move Row}, P u → u.step? move = some u' → P u') :
    P v := by
  obtain ⟨plan, capacity, stream, moves, hopen, hplay⟩ := h
  exact play?_preserves hstep (hstart hopen) hplay

theorem InUse.orderly (h : v.InUse) : Orderly v.stream.done v.diary := by
  obtain ⟨plan, capacity, stream, moves, hopen, hplay⟩ := h
  exact (orderly_of_play hopen hplay).2

theorem InUse.delivers (h : v.InUse) : ∃ read, Delivers read v := by
  obtain ⟨plan, capacity, stream, moves, hopen, hplay⟩ := h
  have hinvariant : Invariant plan v :=
    play?_preserves (fun hu hs => hu.step hs) (invariant_start hopen) hplay
  exact hinvariant.delivers

theorem HandedOver.inUse (h : v.HandedOver) : v.InUse := by
  obtain ⟨plan, capacity, stream, moves, before, hopen, hplay, -, hstep⟩ := h
  exact InUse.step ⟨plan, capacity, stream, moves, hopen, hplay⟩ hstep

/-- What holds of the job of a task: its scan was handed over by a stream in
use. -/
structure Hired (v : Invocation Row R) : Prop extends Candid v where
  inUse : v.InUse

theorem Hired.step (h : v.Hired) (hstep : v.step? move = some v') : v'.Hired :=
  ⟨h.toCandid.step hstep, h.inUse.step hstep⟩

theorem HandedOver.hired (h : v.HandedOver) : v.Hired :=
  ⟨h.marked.1.candid h.marked.2, h.inUse⟩

end
end Invocation

namespace Schedule.Service

/-! ## What is done to a job -/

section
variable {s s' : Service (Invocation Row R)} {move : WorkerMove (Invocation Row R) (Move Row)}
  {i : Nat} {task task' : Task (Invocation Row R)} {entries : List Entry}

/-- What is done to a task is one move of its job, or leaves the job alone. -/
theorem Touches.job_cases (ht : Touches Invocation.act? s i task move entries task')
    (hserves : ∀ view, task.supervision = some view → Serves s.log i task.job view) :
    task'.job = task.job ∨ ∃ m, task.job.step? m = some task'.job := by
  cases ht with
  | acts hact => exact Or.inr ⟨_, (Invocation.step?_of_act? hact).1⟩
  | @closes reason => exact Or.inr ⟨.close reason, rfl⟩
  | cancels => exact Or.inr ⟨.close .cancelled, rfl⟩
  | supervised hview hsup =>
      have h := hserves _ hview
      have hpace := h.pace
      cases hsup with
      | launches hs =>
          rw [hs] at hpace
          exact Or.inr ⟨.scan .begin, (h.marked.begin hpace).1⟩
      | @fails ending failure =>
          cases ending with
          | raised text => exact Or.inr ⟨.close .sourceFailure, rfl⟩
          | _ => exact Or.inl rfl
      | _ => exact Or.inl rfl
  | _ => exact Or.inl rfl

/-- The jobs of all tasks are streams in use, and the supervised ones in good
order. -/
structure Staffed (s : Service (Invocation Row R)) : Prop where
  serviceable : s.Serviceable
  hired : ∀ i task, s.worker.task? i = some task → task.job.Hired

theorem Staffed.step (h : s.Staffed) (hmove : HandsOver s move)
    (hstep : s.step? Invocation.act? move = some s') : s'.Staffed := by
  refine ⟨h.serviceable.step hmove hstep, ?_⟩
  refine forall_task_of_step (P := fun _ _ task => task.job.Hired) ?_ ?_ hstep h.hired
  · intro i task task' entries htask hhired ht
    rcases ht.job_cases (h.serviceable i task · htask) with hsame | ⟨m, hm⟩
    · exact hsame ▸ hhired
    · exact hhired.step hm
  · rintro task (⟨id, job, rfl, rfl⟩ | ⟨id, job, rfl | rfl, rfl⟩)
    · exact (Invocation.HandedOver.hired hmove).step
        (show job.step? (.close .cancelled) = some (ScanJob.close job .cancelled) from rfl)
    · exact Invocation.HandedOver.hired hmove
    · exact Invocation.HandedOver.hired hmove

theorem staffed_start (settings : WorkerSettings) :
    (start settings : Service (Invocation Row R)).Staffed := by
  refine ⟨serviceable_start settings, ?_⟩
  intro i task htask
  rw [task?_start] at htask
  cases htask

/-- The job of every task is a stream in use. -/
theorem staffed_of_play {settings : WorkerSettings}
    {moves : List (WorkerMove (Invocation Row R) (Move Row))}
    (hplay : play? (step? Invocation.act?) (start settings) moves = some s)
    (halong : Along (step? Invocation.act?) HandsOver (start settings) moves) : s.Staffed :=
  halong.preserves (fun h hmove hstep => h.step hmove hstep) (staffed_start settings) hplay

end

/-! ## After the final status -/

/-- What a move of the service is for the job of a task, steps of its supervisor
apart. -/
def dealing? (i : Nat) : WorkerMove (Invocation Row R) (Move Row) → Option (Move Row)
  | .act j move => if j = i then some move else none
  | .close j reason => if j = i then some (.close reason) else none
  | .cancel j => if j = i then some (.close .cancelled) else none
  | _ => none

/-- What a schedule does to the job of a task, in this order. -/
def dealings (i : Nat) (moves : List (WorkerMove (Invocation Row R) (Move Row))) :
    List (Move Row) :=
  moves.filterMap (dealing? i)

theorem dealings_cons (i : Nat) (move : WorkerMove (Invocation Row R) (Move Row))
    (moves : List (WorkerMove (Invocation Row R) (Move Row))) :
    dealings i (move :: moves) = (dealing? i move).toList ++ dealings i moves := by
  rw [dealings, List.filterMap_cons]
  cases dealing? i move <;> rfl

section
variable {s s' t : Service (Invocation Row R)}
  {move : WorkerMove (Invocation Row R) (Move Row)} {i : Nat}
  {task task' : Task (Invocation Row R)} {view : Supervision} {entries : List Entry}

/-- The supervisor of a task whose status is final leaves its job alone. -/
theorem supervised_job_eq {view' : Supervision} {free : Nat} {failures : Broadcast TaskFailure}
    {job : Invocation Row R} (hsup : s.worker.Supervises task view free failures job view')
    (hagrees : view.stage.Agrees view.status) (hfinished : view.status.isFinished = true) :
    job = task.job := by
  have hbusy : view.status = .running → job = task.job := by
    intro hrunning
    rw [hrunning] at hfinished
    cases hfinished
  cases hsup with
  | launches hs => rw [hs] at hagrees; exact hbusy hagrees
  | fails hs => rw [hs] at hagrees; exact hbusy hagrees
  | _ => rfl

theorem dealing?_cases {m : Move Row} (h : dealing? i move = some m) :
    move = .act i m ∨ (∃ reason, move = .close i reason ∧ m = .close reason) ∨
      (move = .cancel i ∧ m = .close .cancelled) := by
  cases move with
  | act j m' =>
      obtain ⟨rfl, ⟨⟩⟩ := Option.ite_none_right_eq_some.mp h
      exact Or.inl rfl
  | close j reason =>
      obtain ⟨rfl, ⟨⟩⟩ := Option.ite_none_right_eq_some.mp h
      exact Or.inr (Or.inl ⟨reason, rfl, rfl⟩)
  | cancel j =>
      obtain ⟨rfl, ⟨⟩⟩ := Option.ite_none_right_eq_some.mp h
      exact Or.inr (Or.inr ⟨rfl, rfl⟩)
  | _ => cases h

/-- The job after a dealing. -/
theorem job_of_dealing (hstep : s.step? Invocation.act? move = some s')
    (htask : s.worker.task? i = some task) {m : Move Row} (hm : dealing? i move = some m) :
    ∃ job, task.job.step? m = some job ∧
      s'.worker.task? i = some { task with job := job } := by
  rcases dealing?_cases hm with rfl | ⟨reason, rfl, rfl⟩ | ⟨rfl, rfl⟩
  · obtain ⟨job, hjob, rfl⟩ := Option.map_eq_some_iff.mp hstep
    rw [htask] at hjob
    exact ⟨job, (Invocation.step?_of_act? hjob).1, Worker.task?_onJob_self htask _⟩
  · cases hstep
    exact ⟨_, rfl, Worker.task?_onJob_self htask _⟩
  · obtain ⟨-, ⟨⟩⟩ := Option.ite_none_right_eq_some.mp hstep
    exact ⟨_, rfl, Worker.task?_onJob_self htask _⟩

/-- A move that is no dealing leaves the job of a task alone whose status is
final. -/
theorem job_of_no_dealing (ht : Touches Invocation.act? s i task move entries task')
    (hview : task.supervision = some view) (hagrees : view.stage.Agrees view.status)
    (hfinished : view.status.isFinished = true) (hm : dealing? i move = none) :
    task'.job = task.job := by
  cases ht with
  | acts => simp [dealing?] at hm
  | closes => simp [dealing?] at hm
  | cancels => simp [dealing?] at hm
  | supervised hother hsup =>
      cases hview.symm.trans hother
      exact supervised_job_eq hsup hagrees hfinished
  | _ => rfl

/-- From the moment at which the status of a task is final, a schedule does to its
job what it deals to it, and the status stays. -/
theorem play?_dealings {later : List (WorkerMove (Invocation Row R) (Move Row))} :
    ∀ {s : Service (Invocation Row R)} {task : Task (Invocation Row R)} {view : Supervision},
      s.Kept → s.worker.task? i = some task → task.supervision = some view →
      view.status.isFinished = true → play? (step? Invocation.act?) s later = some t →
      ∃ task' view', t.worker.task? i = some task' ∧ task'.supervision = some view' ∧
        view'.status = view.status ∧
        play? Invocation.step? task.job (dealings i later) = some task'.job := by
  induction later with
  | nil =>
      intro s task view _ htask hview _ hlater
      cases hlater
      exact ⟨task, view, htask, hview, rfl, rfl⟩
  | cons move later ih =>
      intro s task view hkept htask hview hfinished hlater
      obtain ⟨s', hstep, hrest⟩ := play?_cons hlater
      have hsupervision := (Worker.supervision?_of_task? htask).trans hview
      have hagrees := (hkept.fits i view hsupervision).agrees
      obtain ⟨entries, task', -, htask', ht⟩ := touches_of_step hstep htask
      obtain ⟨view', hview', -, hstatus⟩ := hkept.view_of_step hstep hsupervision
      rw [Worker.supervision?_of_task? htask'] at hview'
      have hstatus := hstatus hfinished
      obtain ⟨task'', view'', htask'', hview'', hlast, hjob⟩ :=
        ih (hkept.step hstep) htask' hview' (hstatus ▸ hfinished) hrest
      refine ⟨task'', view'', htask'', hview'', hlast.trans hstatus, ?_⟩
      rw [dealings_cons]
      cases hm : dealing? i move with
      | none =>
          rw [← job_of_no_dealing ht hview hagrees hfinished hm]
          exact hjob
      | some m =>
          obtain ⟨job, hdealt, hafter⟩ := job_of_dealing hstep htask hm
          cases htask'.symm.trans hafter
          show (task.job.step? m).bind _ = _
          rw [hdealt]
          exact hjob

end
end Schedule.Service
end RowBridge
