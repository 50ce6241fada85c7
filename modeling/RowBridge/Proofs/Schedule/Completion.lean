/-
# `RowBridge.Proofs.Schedule.Completion` — how a scan that ran to its end is judged

A stream that is polled for the first time hands its scan to a worker.  From then
on three parties act: the scan itself, the consumer of the stream, and the
supervisor of the task.  The job of the task is the whole invocation, and
`Invocation.act?` is what becomes of it besides what its supervisor does.

A scan that has enqueued its end marker returns well.  The supervisor takes this
up in a step of its own, and the status follows the reason for which the session
is closed *then*.  The scan has not closed it (`Invocation.Unbroken`), so the
task is completed if nobody else does.  But the consumer may: dropping or
cancelling a stream closes its session, even if the stream has ended, and if that
comes before the supervisor's look, a scan that ran to the end of its rows is
reported as cancelled.

**Proved here**, for every plan, every consumer and every schedule of any number
of tasks: a task whose scan has enqueued its end marker gets the status of the
reason that its supervisor found, never that of a failure, and is completed
unless somebody else closed the session (`end_marker_settles_status`).  The
exception is real: `finished_stream_cancelled`.
-/
import RowBridge.Proofs.Schedule.Waiting
import RowBridge.Proofs.Stream.Delivery
import RowBridge.Proofs.Stream.Marker

namespace RowBridge

open Schedule

variable {Row R : Type}

namespace Invocation

/-- An invocation is to a worker what its stream is. -/
instance : ScanJob (Invocation Row R) where
  statement v := ScanJob.statement v.stream
  closer v := ScanJob.closer v.stream
  close v reason := { v with stream := ScanJob.close v.stream reason }
  begin v := v.onScan .begin v.stream.scan.begin
  ending? v := ScanJob.ending? v.stream

/-- A move of an invocation that is not its scheduler's. -/
def act? (v : Invocation Row R) : Move Row → Option (Invocation Row R)
  | .scan .begin | .scan .lose => none
  | move => v.step? move

/-- The scan of the invocation has just been handed over, in the first poll of a
stream. -/
def HandedOver (v : Invocation Row R) : Prop :=
  ∃ (plan : ScanPlan Row R) (capacity : Nat) (stream : RowStream Row R) (moves : List (Move Row))
    (before : Invocation Row R), RowStream.open? plan capacity = .ok stream ∧
    play? step? (start stream) moves = some before ∧ before.poll = some .starting ∧
    before.step? (.poll true .accepted) = some v

section
variable {v v' : Invocation Row R} {move : Move Row}

theorem step?_of_act? (h : v.act? move = some v') :
    v.step? move = some v' ∧ move ≠ .scan .begin ∧ move ≠ .scan .lose := by
  unfold act? at h
  split at h
  · cases h
  · cases h
  next hbegin hlose => exact ⟨h, hbegin, hlose⟩

theorem HandedOver.marked (h : v.HandedOver) : v.Marked ∧ v.phase = .queued := by
  obtain ⟨plan, capacity, stream, moves, before, hopen, hplay, hp, hstep⟩ := h
  have hbefore : before.Coherent :=
    play?_preserves (P := Coherent) (fun hu hs => hu.step hs) (coherent_start hopen) hplay
  have hv := hbefore.step hstep
  have hmoved := Option.map_eq_some_iff.mp hstep
  obtain ⟨stage, hstage, rfl⟩ := hmoved
  cases hp.symm.trans hstage
  exact ⟨⟨hv, rfl, nofun⟩, rfl⟩

/-- A scan that waits for its thread does nothing of itself. -/
theorem not_queued_of_step? {scan scan' : Scan Row R} {m : ScanMove Row}
    (h : scan.step? m = some scan') (hbegin : m ≠ .begin) (hlose : m ≠ .lose) :
    scan.phase ≠ .queued := by
  intro hp
  cases m with
  | begin => exact hbegin rfl
  | lose => exact hlose rfl
  | offer row index =>
      have hi := (Option.ite_none_right_eq_some.mp h).1
      exact nomatch hp.symm.trans (Scan.phase_of_isIdle hi)
  | conclude ending =>
      have hi := (Option.ite_none_right_eq_some.mp h).1
      exact nomatch hp.symm.trans (Scan.phase_of_isIdle hi)
  | advance expired =>
      have hb := (Option.ite_none_right_eq_some.mp h).1
      rw [hp] at hb
      cases hb
  | recheck =>
      rw [show scan.step? .recheck = scan.recheck? from rfl, Scan.recheck?, hp] at h
      cases h

/-- Neither a scan that waits for its thread nor one that is over changes its
phase, and no reason changes. -/
theorem Marked.act (h : v.Marked) (hact : v.act? move = some v') :
    v'.Marked ∧ (v.phase = .queued ∨ (∃ ending, v.phase = .ended ending) → v'.phase = v.phase) ∧
      (∀ reason, v.session.reason = some reason → v'.session.reason = some reason) := by
  obtain ⟨hstep, hbegin, hlose⟩ := step?_of_act? hact
  refine ⟨h.step hstep, ?_, fun reason hr => reason_of_step h.coherent hr hstep⟩
  rintro (hp | ⟨ending, hp⟩)
  · cases move with
    | scan m =>
        obtain ⟨scan, hs, rfl⟩ := Option.map_eq_some_iff.mp hstep
        exact absurd hp (not_queued_of_step? hs (mt (congrArg _) hbegin) (mt (congrArg _) hlose))
    | _ => exact (phase_of_aside h.coherent h.started hstep nofun).1
  · exact h.phase_of_over (by rw [hp]; rfl) hstep

theorem Marked.begin (h : v.Marked) (hp : v.phase = .queued) :
    v.step? (.scan .begin) = some (ScanJob.begin v) ∧ (ScanJob.begin v).Marked := by
  have hq : v.stream.scan.isQueued = true := by
    rw [Scan.isQueued, show v.stream.scan.phase = .queued from hp]
  have hstep : v.step? (.scan .begin) = some (ScanJob.begin v) := by
    show (v.stream.scan.step? .begin).map (v.onScan .begin) = _
    rw [Scan.step?, if_pos hq]
    rfl
  exact ⟨hstep, h.step hstep⟩

theorem Marked.close (h : v.Marked) (reason : ClosureReason) : (ScanJob.close v reason).Marked :=
  h.step (show v.step? (.close reason) = some _ from rfl)

end
end Invocation

/-! ## Tasks -/

namespace Schedule.Service

/-- How a supervisor that knows the final status came to know it: it never began
the job, or it looked at how the job had ended. -/
def Judged (log : List Entry) (i : Nat) (v : Invocation Row R) (final : TaskStatus) : Prop :=
  v.phase = .queued ∨ ∃ ending, v.phase = .ended ending ∧ (ending = .ok →
    ∃ reason, .judged i reason ∈ log ∧ final = Worker.statusOfReturn reason ∧
      ∀ r, reason = some r → v.session.reason = some r)

/-- Where a job is when its supervisor has come this far. -/
def KeepsPace (log : List Entry) (i : Nat) (v : Invocation Row R) (status : TaskStatus) :
    SupervisorStage → Prop
  | .spawned | .admitted | .launching => v.phase = .queued
  | .running => True
  | .concluding final => Judged log i v final
  | .leaving | .ended => Judged log i v status

/-- The job of a task and its supervisor are where they believe each other to be. -/
structure Serves (log : List Entry) (i : Nat) (v : Invocation Row R) (view : Supervision) :
    Prop where
  marked : v.Marked
  pace : KeepsPace log i v view.status view.stage

section
variable {log : List Entry} {i : Nat} {v v' : Invocation Row R} {status : TaskStatus}

theorem Judged.mono {final : TaskStatus} (h : Judged log i v final) {entries : List Entry}
    (hphase : v.phase = .queued ∨ (∃ ending, v.phase = .ended ending) → v'.phase = v.phase)
    (hreason : ∀ reason, v.session.reason = some reason → v'.session.reason = some reason) :
    Judged (log ++ entries) i v' final := by
  rcases h with hp | ⟨ending, hp, hok⟩
  · exact Or.inl ((hphase (Or.inl hp)).trans hp)
  · refine Or.inr ⟨ending, (hphase (Or.inr ⟨ending, hp⟩)).trans hp, ?_⟩
    intro he
    obtain ⟨reason, hjudged, hstatus, hrecorded⟩ := hok he
    exact ⟨reason, List.mem_append_left _ hjudged, hstatus, fun r hr => hreason r (hrecorded r hr)⟩

/-- Moves of the job, closings, and entries in the log leave everything in
place. -/
theorem KeepsPace.mono {stage : SupervisorStage} (h : KeepsPace log i v status stage)
    (entries : List Entry)
    (hphase : v.phase = .queued ∨ (∃ ending, v.phase = .ended ending) → v'.phase = v.phase)
    (hreason : ∀ reason, v.session.reason = some reason → v'.session.reason = some reason) :
    KeepsPace (log ++ entries) i v' status stage := by
  cases stage with
  | running => trivial
  | concluding final => exact Judged.mono h hphase hreason
  | leaving => exact Judged.mono h hphase hreason
  | ended => exact Judged.mono h hphase hreason
  | _ => exact (hphase (Or.inl h)).trans h

variable {s : Service (Invocation Row R)} {move : WorkerMove (Invocation Row R) (Move Row)}
  {task task' : Task (Invocation Row R)} {view view' : Supervision} {entries : List Entry}

/-- What is noted about the step of a supervisor whose job has ended. -/
theorem judged_mem_judgement (htask : s.worker.task? i = some task)
    (hview : task.supervision = some view) (hstage : view.stage = .running) :
    .judged i task.job.session.reason ∈ s.worker.judgement i := by
  have hnoted : s.worker.judgement i = [.judged i task.job.session.reason] := by
    rw [Worker.judgement, htask]
    obtain ⟨id, job, supervision⟩ := task
    cases hview
    exact if_pos hstage
  rw [hnoted]
  exact List.mem_singleton_self _

theorem phase_of_ending? {ending : Ending} (h : ScanJob.ending? v = some ending) :
    v.phase = .ended ending := by
  have hend : v.stream.scan.ending? = some ending := h
  unfold Scan.ending? at hend
  split at hend
  next other hp =>
    cases hend
    exact hp
  · cases hend

theorem ending?_of_phase {ending : Ending} (h : v.phase = .ended ending) :
    ScanJob.ending? v = some ending := by
  show v.stream.scan.ending? = some ending
  rw [Scan.ending?, show v.stream.scan.phase = .ended ending from h]

/-- A step of the supervisor. -/
theorem Serves.supervise (h : Serves s.log i task.job view) (htask : s.worker.task? i = some task)
    (hview : task.supervision = some view) {free : Nat} {failures : Broadcast TaskFailure}
    {job : Invocation Row R} (hsup : s.worker.Supervises task view free failures job view') :
    Serves (s.log ++ s.worker.judgement i) i job view' := by
  have hpace := h.pace
  cases hsup with
  | needsNone hs => rw [hs] at hpace; exact ⟨h.marked, hpace⟩
  | givesUp hs => rw [hs] at hpace; exact ⟨h.marked, Or.inl hpace⟩
  | getsSlot hs => rw [hs] at hpace; exact ⟨h.marked, hpace⟩
  | turnsBack hs => rw [hs] at hpace; exact ⟨h.marked, Or.inl hpace⟩
  | goesOn hs => rw [hs] at hpace; exact ⟨h.marked, hpace⟩
  | launches hs =>
      rw [hs] at hpace
      exact ⟨(h.marked.begin hpace).2, trivial⟩
  | returns hs hending =>
      refine ⟨h.marked, Or.inr ⟨_, phase_of_ending? hending, ?_⟩⟩
      intro _
      have hjudged := judged_mem_judgement htask hview hs
      exact ⟨_, List.mem_append_right _ hjudged, rfl, fun r hr => hr⟩
  | @fails ending failure hs hending hfailure =>
      have hne : ending ≠ .ok := by
        rintro rfl
        cases hfailure
      cases ending with
      | ok => exact absurd rfl hne
      | failed error =>
          exact ⟨h.marked, Or.inr ⟨_, phase_of_ending? hending, fun he => absurd he hne⟩⟩
      | raised text =>
          exact ⟨h.marked.close _, Or.inr ⟨_, phase_of_ending? hending, fun he => absurd he hne⟩⟩
  | @settles final hs =>
      rw [hs] at hpace
      have hjudged : KeepsPace s.log i task.job final .leaving := hpace
      exact ⟨h.marked, hjudged.mono _ (fun _ => rfl) fun _ => id⟩
  | leaves hs =>
      rw [hs] at hpace
      have hjudged : KeepsPace s.log i task.job view.status .ended := hpace
      exact ⟨h.marked, hjudged.mono _ (fun _ => rfl) fun _ => id⟩

/-- What a move does to a task, it does to job and supervisor together. -/
theorem Serves.touches (h : Serves s.log i task.job view) (htask : s.worker.task? i = some task)
    (hview : task.supervision = some view)
    (ht : Touches Invocation.act? s i task move entries task') :
    ∃ view', task'.supervision = some view' ∧ Serves (s.log ++ entries) i task'.job view' := by
  have hsame : ∀ {other : Supervision}, task.supervision = some other → other = view := by
    intro other hother
    exact Option.some.inj (hother.symm.trans hview)
  have hstill : Serves (s.log ++ entries) i task.job view :=
    ⟨h.marked, h.pace.mono _ (fun _ => rfl) fun _ => id⟩
  have hclosed : ∀ reason, Serves (s.log ++ entries) i (ScanJob.close task.job reason) view := by
    intro reason
    refine ⟨h.marked.close reason, h.pace.mono _ (fun _ => rfl) ?_⟩
    intro r hr
    exact (task.job.session.keeps_close reason).reason hr
  cases ht with
  | leaves => exact ⟨view, hview, hstill⟩
  | acts hact =>
      obtain ⟨hmarked, hphase, hreason⟩ := h.marked.act hact
      exact ⟨view, hview, hmarked, h.pace.mono _ hphase hreason⟩
  | closes => exact ⟨view, hview, hclosed _⟩
  | cancels => exact ⟨view, hview, hclosed _⟩
  | supervised hother hsup =>
      cases hsame hother
      exact ⟨_, rfl, h.supervise htask hview hsup⟩
  | lays hother => cases hsame hother; exact ⟨_, rfl, hstill.marked, hstill.pace⟩
  | prunes hother => cases hsame hother; exact ⟨_, rfl, hstill.marked, hstill.pace⟩
  | takes hother => cases hsame hother; exact ⟨_, rfl, hstill.marked, hstill.pace⟩
  | sees hother => cases hsame hother; exact ⟨_, rfl, hstill.marked, hstill.pace⟩
  | letsGo hother => cases hsame hother; exact ⟨_, rfl, hstill.marked, hstill.pace⟩

end

/-! ## Every schedule -/

/-- Jobs are handed over by streams that are polled for the first time. -/
def HandsOver (_ : Service (Invocation Row R)) : WorkerMove (Invocation Row R) (Move Row) → Prop
  | .submit _ job | .enter _ job => job.HandedOver
  | _ => True

/-- Whether a job is handed over. -/
def bringsJob : WorkerMove (Invocation Row R) (Move Row) → Bool
  | .submit _ _ | .enter _ _ => true
  | _ => false

theorem handsOver_of_not_bringsJob {move : WorkerMove (Invocation Row R) (Move Row)}
    (h : bringsJob move = false) (s : Service (Invocation Row R)) : HandsOver s move := by
  cases move with
  | submit => cases h
  | enter => cases h
  | _ => trivial

/-- Nobody but its scan and its supervisor closes the session of a task. -/
def Spares (i : Nat) (s : Service (Invocation Row R)) :
    WorkerMove (Invocation Row R) (Move Row) → Prop
  | .submit _ job | .enter _ job => s.worker.tasks.length = i → job.session.reason = none
  | .act j move => j = i → move.closes = false
  | .close j _ | .cancel j => j ≠ i
  | _ => True

instance (i : Nat) (s : Service (Invocation Row R))
    (move : WorkerMove (Invocation Row R) (Move Row)) : Decidable (Spares i s move) :=
  match move with
  | .submit _ job | .enter _ job =>
      inferInstanceAs (Decidable (s.worker.tasks.length = i → job.session.reason = none))
  | .act j move => inferInstanceAs (Decidable (j = i → move.closes = false))
  | .close j _ | .cancel j => inferInstanceAs (Decidable (j ≠ i))
  | .deposit _ | .supervise _ | .prune _ | .stop | .join _ | .shutdown _ | .wait _ _ | .abandon _
  | .answer _ _ => inferInstanceAs (Decidable True)

section
variable {s s' : Service (Invocation Row R)} {move : WorkerMove (Invocation Row R) (Move Row)}
  {i : Nat} {task task' : Task (Invocation Row R)} {view view' : Supervision}
  {entries : List Entry}

/-- The supervised tasks are in good order. -/
def Serviceable (s : Service (Invocation Row R)) : Prop :=
  ∀ i task view, s.worker.task? i = some task → task.supervision = some view →
    Serves s.log i task.job view

theorem Serviceable.step (h : s.Serviceable) (hmove : HandsOver s move)
    (hstep : s.step? Invocation.act? move = some s') : s'.Serviceable := by
  refine forall_view_of_step (P := fun log i task view => Serves log i task.job view)
    (fun htask hview hserves ht => hserves.touches htask hview ht) ?_ hstep h
  rintro id job (rfl | rfl)
  · obtain ⟨hmarked, hp⟩ := Invocation.HandedOver.marked hmove
    exact ⟨hmarked, hp⟩
  · obtain ⟨hmarked, hp⟩ := Invocation.HandedOver.marked hmove
    exact ⟨hmarked, hp⟩

/-- Where nobody else closes the session, only the scan can have closed it. -/
theorem unbroken_touches (h : task.job.Unbroken) (hserves : Serves s.log i task.job view)
    (hview : task.supervision = some view) (hspares : Spares i s move)
    (ht : Touches Invocation.act? s i task move entries task') : task'.job.Unbroken := by
  have hmarked := hserves.marked
  have hpace := hserves.pace
  cases ht with
  | acts hact =>
      exact h.step hmarked (Invocation.step?_of_act? hact).1 (hspares rfl)
  | closes => exact absurd rfl hspares
  | cancels => exact absurd rfl hspares
  | supervised hother hsup =>
      cases hview.symm.trans hother
      cases hsup with
      | launches hs =>
          rw [hs] at hpace
          exact h.step hmarked (hmarked.begin hpace).1 rfl
      | @fails ending failure hs hending hfailure =>
          cases ending with
          | ok => exact h
          | failed error => exact h
          | raised text =>
              -- the scan gave up, so it is over, and without an end marker
              have hp := phase_of_ending? hending
              refine Or.inr ⟨?_, ?_⟩
              · intro hfinish
                cases hmarked.ended _ hp hfinish
              · show task.job.phase.isSettled = true
                rw [hp]
                rfl
      | _ => exact h
  | _ => exact h

theorem serviceable_start (settings : WorkerSettings) :
    (start settings : Service (Invocation Row R)).Serviceable := by
  intro i task view htask
  rw [task?_start] at htask
  cases htask

/-- The session of a task that everybody spares is closed by its scan or not at
all. -/
theorem unbroken_of_play {settings : WorkerSettings}
    {moves : List (WorkerMove (Invocation Row R) (Move Row))}
    (hplay : play? (step? Invocation.act?) (start settings) moves = some s)
    (halong : Along (step? Invocation.act?) HandsOver (start settings) moves)
    (hspares : Along (step? Invocation.act?) (Spares i) (start settings) moves)
    (htask : s.worker.task? i = some task) (hview : task.supervision = some view) :
    task.job.Unbroken := by
  have hkeep := (halong.and hspares).preserves (P := fun s => s.Serviceable ∧
    ∀ j task view, s.worker.task? j = some task → task.supervision = some view → j = i →
      task.job.Unbroken) ?_ ?_ hplay
  · exact hkeep.2 i task view htask hview rfl
  · rintro t t' move ⟨hserves, hunbroken⟩ ⟨hmove, hspare⟩ hstep
    refine ⟨hserves.step hmove hstep, ?_⟩
    refine forall_view_of_step (P := fun _ j task _ => j = i → task.job.Unbroken) ?_ ?_ hstep
      hunbroken
    · intro j task task' view entries htask hview hbefore ht
      obtain ⟨view', hview', -⟩ := ht.view_cases hview
      refine ⟨view', hview', ?_⟩
      intro hj
      rw [← hj] at hspare
      exact unbroken_touches (hbefore hj) (hserves j task view htask hview) hview hspare ht
    · rintro id job (rfl | rfl) hlast
      · exact Or.inl (hspare hlast)
      · exact Or.inl (hspare hlast)
  · refine ⟨serviceable_start settings, ?_⟩
    intro j task view htask
    rw [task?_start] at htask
    cases htask

/-- A task whose scan has enqueued its end marker gets the status of the reason
for which its supervisor found the session closed, and is completed if it was
open; it is completed for certain if nobody but the scan and the supervisor
closes the session. -/
theorem end_marker_settles_status {settings : WorkerSettings}
    {moves : List (WorkerMove (Invocation Row R) (Move Row))}
    (hplay : play? (step? Invocation.act?) (start settings) moves = some s)
    (halong : Along (step? Invocation.act?) HandsOver (start settings) moves)
    (htask : s.worker.task? i = some task) (hview : task.supervision = some view)
    (hmarked : .finish ∈ task.job.ledger.enqueued) (hfinished : view.status.isFinished = true) :
    (∃ reason, .judged i reason ∈ s.log ∧ view.status = Worker.statusOfReturn reason ∧
      ∀ r, reason = some r → task.job.session.reason = some r) ∧
    (Along (step? Invocation.act?) (Spares i) (start settings) moves →
      view.status = .completed) := by
  have hserves : Serves s.log i task.job view :=
    halong.preserves (P := Serviceable) (fun h hmove hstep => h.step hmove hstep)
      (serviceable_start settings) hplay i task view htask hview
  have hagrees := ((kept_of_play hplay).fits i view
    ((Worker.supervision?_of_task? htask).trans hview)).agrees
  have hjudged : Judged s.log i task.job view.status := by
    have hpace := hserves.pace
    cases hstage : view.stage with
    | leaving => rw [hstage] at hpace; exact hpace
    | ended => rw [hstage] at hpace; exact hpace
    | concluding final =>
        rw [hstage] at hagrees
        exact absurd (hagrees.1.symm.trans hfinished) Bool.false_ne_true
    | _ =>
        rw [hstage] at hagrees
        rw [show view.status = _ from hagrees] at hfinished
        cases hfinished
  have hsettled : ∃ reason, .judged i reason ∈ s.log ∧
      view.status = Worker.statusOfReturn reason ∧
      ∀ r, reason = some r → task.job.session.reason = some r := by
    rcases hjudged with hp | ⟨ending, hp, hok⟩
    · have hst := hserves.marked.coherent.kept.accounts.stands
      rw [show task.job.stream.scan.phase = .queued from hp] at hst
      rw [show task.job.ledger = .empty from hst] at hmarked
      cases hmarked
    · exact hok (hserves.marked.ended ending hp hmarked)
  refine ⟨hsettled, ?_⟩
  intro hspares
  obtain ⟨reason, -, hstatus, hrecorded⟩ := hsettled
  have hopen : task.job.session.reason = none :=
    (unbroken_of_play hplay halong hspares htask hview).reason_eq_none hmarked
  cases reason with
  | none => exact hstatus
  | some r => exact nomatch hopen.symm.trans (hrecorded r rfl)

end

/-- A stream of numbers in its first poll; the scan has just been handed over. -/
def firstPoll : Invocation Nat Nat :=
  { Invocation.start (.fresh Invocation.doubling (.fresh 1)) with poll := some .starting }.advance
    true .accepted .starting

theorem firstPoll_handedOver : firstPoll.HandedOver :=
  ⟨Invocation.doubling, 1, _, [.beginPoll, .poll true .accepted], _, rfl, rfl, rfl, rfl⟩

/-- The scan finds no rows and enqueues its end marker, and the poll that started
it reads the marker. -/
def readToEnd : List (WorkerMove (Invocation Nat Nat) (Move Nat)) :=
  [.submit "scan" firstPoll, .deposit 0, .supervise 0, .supervise 0, .supervise 0,
    .act 0 (.scan (.conclude .ok)), .act 0 (.scan (.advance false)),
    .act 0 (.scan (.advance false)), .act 0 (.scan (.advance false)),
    .act 0 (.poll true .accepted), .act 0 (.poll true .accepted)]

/-- The scan returns, and the supervisor looks at it and writes the status. -/
def judgedThen : List (WorkerMove (Invocation Nat Nat) (Move Nat)) :=
  [.act 0 (.scan (.advance false)), .supervise 0, .supervise 0]

theorem end_marker_completes_undisturbed_task :
    ∃ (s : Service (Invocation Nat Nat)) (task : Task (Invocation Nat Nat)) (view : Supervision),
      play? (step? Invocation.act?) (start ⟨none, .ofMillis 10, false⟩)
        (readToEnd ++ judgedThen) = some s ∧
      s.worker.task? 0 = some task ∧ task.supervision = some view ∧
      .finish ∈ task.job.ledger.enqueued ∧ view.status.isFinished = true ∧
      view.status = .completed := by
  refine ⟨_, _, _, rfl, rfl, rfl, by decide, rfl, ?_⟩
  have hrest : ∀ move ∈ (readToEnd ++ judgedThen).tail, bringsJob move = false := by decide
  have halong : Along (step? Invocation.act?) HandsOver (start ⟨none, .ofMillis 10, false⟩)
      (readToEnd ++ judgedThen) := by
    refine ⟨firstPoll_handedOver, Along.of_forall ?_ _⟩
    exact fun move hmove => handsOver_of_not_bringsJob (hrest move hmove)
  have hspares : Along (step? Invocation.act?) (Spares 0) (start ⟨none, .ofMillis 10, false⟩)
      (readToEnd ++ judgedThen) := by
    decide
  exact (@end_marker_settles_status _ _ _ 0 _ _ ⟨none, .ofMillis 10, false⟩
    (readToEnd ++ judgedThen) rfl halong rfl rfl (by decide) rfl).2 hspares

/-- A consumer that was told the end drops its stream before the supervisor
looks. -/
theorem finished_stream_cancelled :
    ∃ (s : Service (Invocation Nat Nat)) (task : Task (Invocation Nat Nat)) (view : Supervision),
      play? (step? Invocation.act?) (start ⟨none, .ofMillis 10, false⟩)
        (readToEnd ++ .act 0 .drop :: judgedThen) = some s ∧
      Along (step? Invocation.act?) HandsOver (start ⟨none, .ofMillis 10, false⟩)
        (readToEnd ++ .act 0 .drop :: judgedThen) ∧
      s.worker.task? 0 = some task ∧ task.supervision = some view ∧
      task.job.answers = [.finished] ∧ .finish ∈ task.job.ledger.enqueued ∧
      view.status = .cancelled := by
  have hrest : ∀ move ∈ (readToEnd ++ .act 0 .drop :: judgedThen).tail,
      bringsJob move = false := by decide
  refine ⟨_, _, _, rfl, ?_, rfl, rfl, rfl, by decide, rfl⟩
  refine ⟨firstPoll_handedOver, Along.of_forall ?_ _⟩
  exact fun move hmove => handsOver_of_not_bringsJob (hrest move hmove)

end Schedule.Service
end RowBridge
