/-
# `RowBridge.Proofs.Schedule.Finished` — what is left of a completed task

When a task is completed, its scan has ended and everything it found is in the
queue of its session.  The worker may still keep the task in its table, and with
it the closer of the session, while the consumer has rows to read.

    done to the worker                      to the session of the completed task
    join, clean-up, a call that waits       nothing
    anything about other tasks              nothing
    shutdown that does not find the task    nothing
    cancellation of the task                closed as cancelled, if it was open
    shutdown that finds the task            closed as cancelled, if it was open

A stream whose session has been closed gives the closing before anything that is
queued; so the last two rows of the table cost the consumer the rows that it has
not read (`completed_task_cancelled`).

**Proved here**, for every plan, every queue, every history of the worker and
every schedule after it (`completed_task_keeps_rows`): nothing but closings of the
session changes what the consumer is given, and without one it is given all the
rows that were left and then the end; and what a closing does to it.
-/
import RowBridge.Proofs.Schedule.Jobs
import RowBridge.Proofs.Stream.Draining

namespace RowBridge.Schedule.Service

variable {Row R : Type}

/-! ## How a task comes to be completed -/

/-- A task that is completed, or is about to be, has a scan that ran to its end
marker. -/
def Earned (v : Invocation Row R) (view : Supervision) : Prop :=
  view.status = .completed ∨ view.stage = .concluding .completed →
    v.phase = .ended .ok ∧ .finish ∈ v.ledger.enqueued

section
variable {s s' : Service (Invocation Row R)}
  {move : WorkerMove (Invocation Row R) (Move Row)} {i : Nat}
  {task task' : Task (Invocation Row R)} {view view' : Supervision} {entries : List Entry}

/-- A scan that has ended stays as it is. -/
theorem Earned.after {v v' : Invocation Row R} (h : Earned v view) (hv : v.Hired)
    (hjob : v' = v ∨ ∃ m, v.step? m = some v') : Earned v' view := by
  rcases hjob with rfl | ⟨m, hstep⟩
  · exact h
  · intro hcompleted
    obtain ⟨hp, hmarked⟩ := h hcompleted
    have hover : v.phase.isOver = true := by rw [hp]; rfl
    exact ⟨(hv.phase_of_over hover hstep).trans hp, (hv.enqueued_isPrefix hstep).subset hmarked⟩

/-- A step of the supervisor. -/
theorem Earned.supervise (h : Earned task.job view) (hhired : task.job.Hired) {free : Nat}
    {failures : Broadcast TaskFailure} {job : Invocation Row R}
    (hjob : job = task.job ∨ ∃ m, task.job.step? m = some job)
    (hsup : s.worker.Supervises task view free failures job view') : Earned job view' := by
  have hstill : Earned job view := h.after hhired hjob
  have hsame : view'.status = view.status → view'.stage ≠ .concluding .completed →
      Earned job view' := by
    rintro hstatus hne (hcompleted | hcompleted)
    · exact hstill (Or.inl (hstatus.symm.trans hcompleted))
    · exact absurd hcompleted hne
  cases hsup with
  | goesOn => rintro (hcompleted | hcompleted) <;> cases hcompleted
  | @returns ending _ hending hfailure =>
      rintro (hcompleted | hcompleted)
      · exact hstill (Or.inl hcompleted)
      · have hp := phase_of_ending? hending
        cases ending with
        | ok =>
            refine ⟨hp, hhired.complete hp ?_⟩
            have hstatus : Worker.statusOfReturn task.job.session.reason = .completed :=
              SupervisorStage.concluding.inj hcompleted
            cases hr : task.job.session.reason with
            | none => rfl
            | some reason => rw [hr] at hstatus; cases reason <;> cases hstatus
        | _ => cases hfailure
  | settles hs =>
      rintro (hcompleted | hcompleted)
      · exact hstill (Or.inr (hs.trans (congrArg _ hcompleted)))
      · cases hcompleted
  | _ => exact hsame rfl nofun

/-- What is done to a task keeps what it says about its scan. -/
theorem Earned.touches (h : Earned task.job view) (hhired : task.job.Hired)
    (hserves : ∀ view, task.supervision = some view → Serves s.log i task.job view)
    (hview : task.supervision = some view)
    (ht : Touches Invocation.act? s i task move entries task') :
    ∃ view', task'.supervision = some view' ∧ Earned task'.job view' := by
  have hjob := ht.job_cases hserves
  obtain ⟨view', hview', ⟨-, free, failures, hsup⟩ | ⟨hstage, hstatus⟩⟩ := ht.view_cases hview
  · exact ⟨view', hview', h.supervise hhired hjob hsup⟩
  · refine ⟨view', hview', ?_⟩
    rw [Earned, hstage, hstatus]
    exact h.after hhired hjob

/-- A completed task has a scan that ran to its end marker. -/
theorem earned_of_play {settings : WorkerSettings}
    {moves : List (WorkerMove (Invocation Row R) (Move Row))}
    (hplay : play? (step? Invocation.act?) (start settings) moves = some s)
    (halong : Along (step? Invocation.act?) HandsOver (start settings) moves)
    (htask : s.worker.task? i = some task) (hview : task.supervision = some view) :
    Earned task.job view := by
  have hkeep := halong.preserves (P := fun s => s.Staffed ∧
    ∀ i task view, s.worker.task? i = some task → task.supervision = some view →
      Earned task.job view) ?_ ?_ hplay
  · exact hkeep.2 i task view htask hview
  · rintro t t' move ⟨hstaffed, hearned⟩ hmove hstep
    refine ⟨hstaffed.step hmove hstep, ?_⟩
    refine forall_view_of_step (P := fun _ _ task view => Earned task.job view) ?_ ?_ hstep hearned
    · intro i task task' view entries htask hview h ht
      exact h.touches (hstaffed.hired i task htask) (hstaffed.serviceable i task · htask) hview ht
    · intro id job _
      rintro (hcompleted | hcompleted) <;> cases hcompleted
  · refine ⟨staffed_start settings, ?_⟩
    intro i task view htask
    rw [task?_start] at htask
    cases htask

end

/-! ## What a shutdown and a clean-up deal out -/

section
variable {s : Service (Invocation Row R)} {i : Nat}

theorem dealings_prune (i : Nat) (tasks : List Nat) :
    dealings i (tasks.map .prune : List (WorkerMove (Invocation Row R) (Move Row))) = [] := by
  induction tasks with
  | nil => rfl
  | cons j tasks ih => exact ih

theorem dealings_close (reason : ClosureReason) (i : Nat) {tasks : List Nat} (h : tasks.Nodup) :
    dealings i (tasks.map (.close · reason) :
        List (WorkerMove (Invocation Row R) (Move Row))) =
      if i ∈ tasks then [.close reason] else [] := by
  induction tasks with
  | nil => rfl
  | cons j tasks ih =>
      obtain ⟨hj, htasks⟩ := List.nodup_cons.mp h
      rw [List.map_cons, dealings_cons, ih htasks]
      by_cases hji : j = i
      · subst hji
        simp [dealing?, hj]
      · simp [dealing?, hji, Ne.symm hji]

/-- A shutdown closes the session of a task that it finds in the table. -/
theorem dealings_startShutdown (w : Worker (Invocation Row R)) (i : Nat) :
    dealings i (.stop :: w.trackedPositions.map (.close · .cancelled) ++
        [.shutdown w.trackedPositions] : List (WorkerMove (Invocation Row R) (Move Row))) =
      if i ∈ w.trackedPositions then [.close .cancelled] else [] := by
  rw [← dealings_close (R := R) .cancelled i (nodup_trackedPositions w)]
  exact List.filterMap_append.trans (List.append_nil _)

end

/-! ## Completed tasks -/

section
variable {s : Service (Invocation Row R)} {settings : WorkerSettings}
  {moves : List (WorkerMove (Invocation Row R) (Move Row))} {i : Nat}
  {task : Task (Invocation Row R)} {view : Supervision}

/-- What has been done to a worker by the time at which a task is completed, and
what is done afterwards, in whatever order:

* the task stays completed, and of what is done only its dealings, which are
  cancellations of it, closings of its session and moves of its own, change
  anything about its job; in particular a clean-up changes nothing about it, nor
  does a shutdown, but for closing the session of a task that is in the table;
* while the session is open, and the consumer there and not told the end, the
  rows that were not given are queued, every row there was is given or queued,
  and as long as nobody closes the session, the consumer is given what is queued,
  row by row, and then the end;
* once the session has been closed, it has the reason of the first closing, which
  is a cancellation if everybody only cancels; and a consumer that was not told
  the end is given this reason by its next poll, whatever is queued, and then the
  end. -/
theorem completed_task_keeps_rows
    (hplay : play? (step? Invocation.act?) (start settings) moves = some s)
    (halong : Along (step? Invocation.act?) HandsOver (start settings) moves)
    (htask : s.worker.task? i = some task) (hview : task.supervision = some view)
    (hcompleted : view.status = .completed) :
    (∀ later t, play? (step? Invocation.act?) s later = some t →
      ∃ task' view', t.worker.task? i = some task' ∧ task'.supervision = some view' ∧
        view'.status = .completed ∧
        play? Invocation.step? task.job (dealings i later) = some task'.job) ∧
    ((s.worker.cleanup.task? i).map (·.job) = some task.job ∧
      (s.worker.startShutdown.task? i).map (·.job) =
        some (if i ∈ s.worker.trackedPositions then ScanJob.close task.job .cancelled
          else task.job)) ∧
    (task.job.session.reason = none → task.job.session.consumerGone = false →
      task.job.stream.done = false →
      ∃ rows, task.job.session.queue = rows.map .value ++ [.finish] ∧
        (task.job.rows ++ rows).map .ok =
          task.job.ledger.handed.map task.job.stream.scan.plan.result ∧
        ∀ later t task', play? (step? Invocation.act?) s later = some t →
          (∀ move ∈ dealings i later, move.closes = false) → t.worker.task? i = some task' →
          ∃ (given rest : List R) (n : Nat), rows = given ++ rest ∧ (0 < n → rest = []) ∧
            task'.job.answers =
              task.job.answers ++ given.map .row ++ List.replicate n .finished ∧
            ∀ runtime reception, (task'.job.stream.poll runtime reception).2 = .ahead rest) ∧
    (∀ later t task' reason, play? (step? Invocation.act?) s later = some t →
      .close reason ∈ dealings i later → t.worker.task? i = some task' →
      ∃ recorded, task'.job.session.reason = some recorded ∧
        (∀ r, task.job.session.reason = some r → recorded = r) ∧
        (task.job.session.reason = none → (∀ move ∈ dealings i later, move.OnlyCancels) →
          recorded = .cancelled) ∧
        (task'.job.stream.done = false → ∀ runtime reception,
          (task'.job.stream.poll runtime reception).2 = .failed (.closed recorded) ∧
          ∀ runtime' reception',
            ((task'.job.stream.poll runtime reception).1.poll runtime' reception').2 =
              .finished)) := by
  have hkept := kept_of_play hplay
  have hhired := (staffed_of_play hplay halong).hired i task htask
  obtain ⟨hp, hmarked⟩ := earned_of_play hplay halong htask hview (Or.inl hcompleted)
  have hover : task.job.phase.isOver = true := by rw [hp]; rfl
  have hgoesOn : ∀ later t, play? (step? Invocation.act?) s later = some t →
      ∃ task' view', t.worker.task? i = some task' ∧ task'.supervision = some view' ∧
        view'.status = .completed ∧
        play? Invocation.step? task.job (dealings i later) = some task'.job := by
    intro later t hlater
    obtain ⟨task', view', htask', hview', hstatus, hjob⟩ :=
      play?_dealings hkept htask hview (by rw [hcompleted]; rfl) hlater
    exact ⟨task', view', htask', hview', hstatus.trans hcompleted, hjob⟩
  have hjob : ∀ {later t task'}, play? (step? Invocation.act?) s later = some t →
      t.worker.task? i = some task' →
      play? Invocation.step? task.job (dealings i later) = some task'.job := by
    intro later t task' hlater htask'
    obtain ⟨other, view', hother, -, -, hplayed⟩ := hgoesOn later t hlater
    cases htask'.symm.trans hother
    exact hplayed
  refine ⟨hgoesOn, ⟨?_, ?_⟩, ?_, ?_⟩
  · obtain ⟨task', view', htask', -, -, hplayed⟩ :=
      hgoesOn _ _ (play?_cleanup Invocation.act? s)
    rw [dealings_prune] at hplayed
    rw [htask']
    exact hplayed.symm
  · obtain ⟨t, hshutdown, hworker⟩ := exists_play?_startShutdown Invocation.act? s
    obtain ⟨task', view', htask', -, -, hplayed⟩ := hgoesOn _ t hshutdown
    rw [dealings_startShutdown] at hplayed
    rw [← hworker, htask']
    by_cases hin : i ∈ s.worker.trackedPositions
    · rw [if_pos hin] at hplayed ⊢
      exact hplayed.symm
    · rw [if_neg hin] at hplayed ⊢
      exact hplayed.symm
  · intro hr hg hd
    obtain ⟨read, hread⟩ := hhired.inUse.delivers
    obtain ⟨rows, hstocked, hrows⟩ := hhired.exists_stocked hread hover hmarked hr hg hd
    refine ⟨rows, hstocked.stream.queue, hrows, ?_⟩
    intro later t task' hlater hspared htask'
    exact (hstocked.draining_of_play hspared (hjob hlater htask')).given
  · intro later t task' reason hlater hin htask'
    have hplayed := hjob hlater htask'
    obtain ⟨recorded, hr⟩ := Invocation.isSome_reason_of_close_mem hhired.coherent hin hplayed
    refine ⟨recorded, hr, ?_, ?_, ?_⟩
    · intro r hbefore
      exact Option.some.inj
        (hr.symm.trans (Invocation.reason_of_play hhired.coherent hbefore hplayed))
    · intro ho hcancels
      exact hhired.cancelled_of_play hmarked ho hcancels hplayed hr
    · intro hd runtime reception
      obtain ⟨hanswer, hended⟩ := RowStream.poll_of_reason hd hr runtime reception
      exact ⟨hanswer, RowStream.poll_of_done hended⟩

end

/-- A stream with room for two items in its first poll. -/
def roomyFirstPoll : Invocation Nat Nat :=
  { Invocation.start (.fresh Invocation.doubling (.fresh 2)) with poll := some .starting }.advance
    true .accepted .starting

theorem roomyFirstPoll_handedOver : roomyFirstPoll.HandedOver :=
  ⟨Invocation.doubling, 2, _, [.beginPoll, .poll true .accepted], _, rfl, rfl, rfl, rfl⟩

/-- The first poll gives nothing; then the scan finds the row 7, enqueues it and
its end marker, and returns, and the supervisor writes the status. -/
def leftUnread : List (WorkerMove (Invocation Nat Nat) (Move Nat)) :=
  [.submit "scan" roomyFirstPoll, .deposit 0, .supervise 0, .supervise 0, .supervise 0,
    .act 0 (.poll true .accepted), .act 0 (.poll true .accepted), .act 0 (.poll true .accepted),
    .act 0 (.scan (.offer 7 0)), .act 0 (.scan (.advance false)), .act 0 (.scan (.advance false)),
    .act 0 (.scan (.advance false)), .act 0 (.scan (.advance false)),
    .act 0 (.scan (.advance false)), .act 0 (.scan (.conclude .ok)),
    .act 0 (.scan (.advance false)), .act 0 (.scan (.advance false)),
    .act 0 (.scan (.advance false)), .act 0 (.scan (.advance false)), .supervise 0, .supervise 0]

theorem leftUnread_handsOver :
    Along (step? Invocation.act?) HandsOver (start ⟨none, .ofMillis 10, false⟩) leftUnread := by
  have hrest : ∀ move ∈ leftUnread.tail, bringsJob move = false := by decide
  refine ⟨roomyFirstPoll_handedOver, Along.of_forall ?_ _⟩
  exact fun move hmove => handsOver_of_not_bringsJob (hrest move hmove)

/-- The task is joined and cleaned up, and the worker shut down, before the
consumer has read its row. -/
theorem completed_task_keeps_unread_row :
    ∃ (s t : Service (Invocation Nat Nat)) (task task' : Task (Invocation Nat Nat))
      (view : Supervision),
      play? (step? Invocation.act?) (start ⟨none, .ofMillis 10, false⟩) leftUnread = some s ∧
      s.worker.task? 0 = some task ∧ task.supervision = some view ∧ view.status = .completed ∧
      task.job.session.queue = [.value 14, .finish] ∧
      play? (step? Invocation.act?) s [.join 0, .prune 0, .stop, .shutdown []] = some t ∧
      t.worker.task? 0 = some task' ∧
      ∀ runtime reception, (task'.job.stream.poll runtime reception).2 = .row 14 := by
  obtain ⟨s, t, task, task', view, hplay, htask, hview, hcompleted, hr, hg, hd, hq, hlater, htask',
      hanswers, hanswers'⟩ :
      ∃ (s t : Service (Invocation Nat Nat)) (task task' : Task (Invocation Nat Nat))
        (view : Supervision),
        play? (step? Invocation.act?) (start ⟨none, .ofMillis 10, false⟩) leftUnread = some s ∧
        s.worker.task? 0 = some task ∧ task.supervision = some view ∧ view.status = .completed ∧
        task.job.session.reason = none ∧ task.job.session.consumerGone = false ∧
        task.job.stream.done = false ∧ task.job.session.queue = [.value 14, .finish] ∧
        play? (step? Invocation.act?) s [.join 0, .prune 0, .stop, .shutdown []] = some t ∧
        t.worker.task? 0 = some task' ∧ task.job.answers = [] ∧ task'.job.answers = [] :=
    ⟨_, _, _, _, _, rfl, rfl, rfl, rfl, rfl, rfl, rfl, rfl, rfl, rfl, rfl, rfl⟩
  refine ⟨s, t, task, task', view, hplay, htask, hview, hcompleted, hq, hlater, htask', ?_⟩
  obtain ⟨rows, hrows, -, hgiven⟩ := (@completed_task_keeps_rows _ _ s ⟨none, .ofMillis 10, false⟩
    leftUnread 0 task view hplay leftUnread_handsOver htask hview hcompleted).2.2.1 hr hg hd
  obtain ⟨given, rest, n, hsplit, -, hsince, hpoll⟩ :=
    hgiven _ t task' hlater (List.forall_mem_nil _) htask'
  -- nothing has been given since, so the row is still what is next
  rw [hanswers, hanswers', List.nil_append] at hsince
  obtain ⟨hnone, -⟩ := List.append_eq_nil_iff.mp hsince.symm
  cases List.map_eq_nil_iff.mp hnone
  cases hsplit
  have hleft : rest.map Item.value ++ [.finish] = [.value 14] ++ [.finish] := hrows.symm.trans hq
  obtain ⟨value, rfl, ⟨⟩⟩ := List.map_eq_singleton_iff.mp (List.append_cancel_right hleft)
  exact hpoll

/-- A task is completed while a row waits for its consumer; then the task is
cancelled, or the worker shut down, and the consumer is given the closing in place
of the row. -/
theorem completed_task_cancelled :
    ∃ (s t : Service (Invocation Nat Nat)) (task task' : Task (Invocation Nat Nat))
      (view : Supervision),
      play? (step? Invocation.act?) (start ⟨none, .ofMillis 10, false⟩) leftUnread = some s ∧
      Along (step? Invocation.act?) HandsOver (start ⟨none, .ofMillis 10, false⟩) leftUnread ∧
      s.worker.task? 0 = some task ∧ task.supervision = some view ∧ view.status = .completed ∧
      task.job.session.reason = none ∧ task.job.session.queue = [.value 14, .finish] ∧
      s.step? Invocation.act? (.cancel 0) = some t ∧ t.worker.task? 0 = some task' ∧
      task'.job.session.reason = some .cancelled ∧
      (task'.job.stream.poll true .accepted).2 = .failed (.closed .cancelled) ∧
      (s.worker.startShutdown.task? 0).map
        (fun task => (task.job.stream.poll true .accepted).2) =
          some (.failed (.closed .cancelled)) :=
  ⟨_, _, _, _, _, rfl, leftUnread_handsOver, rfl, rfl, rfl, rfl, rfl, rfl, rfl, rfl, rfl, rfl⟩

end RowBridge.Schedule.Service
