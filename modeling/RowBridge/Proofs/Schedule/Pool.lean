/-
# `RowBridge.Proofs.Schedule.Pool` — when a scheduler runs a source, and when it does not

An elastic scheduler in use is acted on by those who hand jobs over, by its own
threads and watchers, and by the jobs and whoever holds their closers.
`Elastic.serve?` is one move of one of them.

    move     party                     what it is
    submit   stream                    a job is handed over
    host     scheduler                 a job is put on a thread, or its end is reported
    act      job, consumer, closer     one move of the job

Little can happen to a job there (`Elastic.Handles`), and for a stream it is one of
the stream's own moves or none at all, as it is with a worker
(`Service.Touches.job_cases`).  So what holds of every stream in use holds of the
jobs of both schedulers.

**Proved here** (`cold_start`), for every template, every query, every scheduler and
every schedule: a stream asks its scheduler once at most, in its first poll, from
within a runtime and having found the session open, and never after it was cancelled
or dropped, nor when its session was closed before that poll; and its source is run
once at most, and never if the session was closed before the scan was begun,
whichever of the two schedulers has it and whatever else it has to do.
-/
import RowBridge.Proofs.Config.Accepted
import RowBridge.Proofs.Schedule.Shutdown
import RowBridge.Proofs.Stream.ColdStart
import RowBridge.Schedule.Elastic

namespace RowBridge

variable {Row R : Type}

/-- The stream is one of this template, opened with its own values or with those of
a call. -/
def StreamTemplate.Opens (t : StreamTemplate) (query : Query Row R) (stream : RowStream Row R) :
    Prop :=
  t.stream query = .ok stream ∨ ∃ o : StreamOptions, t.streamWith query o = .ok (.ok stream)

theorem StreamTemplate.Opens.exists_open? {t : StreamTemplate} {query : Query Row R}
    {stream : RowStream Row R} (h : t.Opens query stream) :
    ∃ plan capacity, RowStream.open? plan capacity = .ok stream := by
  rcases h with h | ⟨o, h⟩
  · exact ⟨_, _, h⟩
  · unfold streamWith at h
    split at h
    · cases h
    next t' _ =>
      cases hopen : t'.stream query with
      | error abort => rw [hopen] at h; cases h
      | ok opened =>
          rw [hopen] at h
          cases h
          exact ⟨_, _, hopen⟩

/-- A stream in use was handed over once at most, and so its source was run. -/
theorem Invocation.Hired.scans_le {v : Invocation Row R} (h : v.Hired) :
    v.stream.handovers ≤ 1 ∧ v.stream.scan.scans ≤ 1 := by
  obtain ⟨plan, capacity, stream, moves, hopen, hplay⟩ := h.inUse
  have hnumbered := (Invocation.numbered_of_play hopen hplay).2
  exact ⟨hnumbered.once, Nat.le_trans hnumbered.runs hnumbered.once⟩

/-- A stream whose session was closed before its scan was begun. -/
theorem Invocation.Hired.skipped {v : Invocation Row R} (h : v.Hired)
    (hunbegun : v.phase.isUnbegun = true) (hclosed : v.session.isClosed = true) : v.Skipped :=
  ⟨hclosed, h.inUse.unrun hunbegun⟩

namespace Schedule

variable {J μ : Type}

/-- A move of one of the parties to an elastic scheduler. -/
inductive PoolMove (J μ : Type)
  | submit (id : String) (job : J)
  | host (i : Nat)
  | act (i : Nat) (move : μ)

namespace Elastic

/-! ## One move -/

section
variable [ScanJob J]

/-- One move; a party that is not at that point makes none. -/
def serve? (act? : J → μ → Option J) (e : Elastic J) : PoolMove J μ → Option (Elastic J)
  | .submit id job => some (e.schedule id job)
  | .host i => e.move? i
  | .act i move =>
      (e.tasks[i]?.bind fun task => act? task.job move).map fun job => e.onJob i fun _ => job

/-- What one move can do to a task. -/
inductive Handles (act? : J → μ → Option J) (i : Nat) (task : ElasticTask J) :
    PoolMove J μ → ElasticTask J → Prop
  | leaves {move : PoolMove J μ} : Handles act? i task move task
  | acts {m : μ} {job : J} : act? task.job m = some job →
      Handles act? i task (.act i m) { task with job := job }
  | begins : task.stage = .submitted →
      Handles act? i task (.host i) { task with job := ScanJob.begin task.job, stage := .running }
  | reports {ending : Ending} : task.stage = .running → ScanJob.ending? task.job = some ending →
      Handles act? i task (.host i)
        { task with job := closeAfter task.job ending, stage := .reported }

@[simp] theorem tasks_reportFailure (e : Elastic J) (id : String) (job : J) (failure : ScanError) :
    (e.reportFailure id job failure).tasks = e.tasks := by
  unfold reportFailure
  dsimp only
  split <;> rfl

theorem tasks_conclude (e : Elastic J) (i : Nat) (task : ElasticTask J) (ending : Ending) :
    (e.conclude i task ending).tasks =
      e.tasks.set i { task with job := closeAfter task.job ending, stage := .reported } := by
  unfold conclude
  dsimp only
  split
  · rfl
  · rw [tasks_reportFailure]
    rfl

variable {act? : J → μ → Option J} {e e' : Elastic J} {move : PoolMove J μ} {i : Nat}
  {task task' : ElasticTask J}

/-- A job that is handed over comes last; any other move replaces one task. -/
theorem tasks_of_serve? (hstep : e.serve? act? move = some e') :
    (∃ id job, move = .submit id job ∧ e'.tasks = e.tasks ++ [⟨id, job, .submitted⟩]) ∨
      ∃ j task task', e.tasks[j]? = some task ∧ Handles act? j task move task' ∧
        e'.tasks = e.tasks.set j task' := by
  cases move with
  | submit id job =>
      cases hstep
      exact Or.inl ⟨id, job, rfl, rfl⟩
  | act j m =>
      obtain ⟨job, hbind, rfl⟩ := Option.map_eq_some_iff.mp hstep
      obtain ⟨task, htask, hjob⟩ := Option.bind_eq_some_iff.mp hbind
      refine Or.inr ⟨j, task, _, htask, .acts hjob, ?_⟩
      rw [onJob, htask]
      rfl
  | host j =>
      replace hstep : e.move? j = some e' := hstep
      unfold move? at hstep
      split at hstep
      · cases hstep
      next task htask =>
        split at hstep
        next hs =>
          cases hstep
          exact Or.inr ⟨j, task, _, htask, .begins hs, rfl⟩
        next hs =>
          obtain ⟨ending, hending, rfl⟩ := Option.map_eq_some_iff.mp hstep
          exact Or.inr ⟨j, task, _, htask, .reports hs hending, e.tasks_conclude j task ending⟩
        · cases hstep

/-- Every move does one of these things to a task. -/
theorem handles_of_serve? (hstep : e.serve? act? move = some e') (htask : e.tasks[i]? = some task) :
    ∃ task', e'.tasks[i]? = some task' ∧ Handles act? i task move task' := by
  rcases tasks_of_serve? hstep with ⟨id, job, -, htasks⟩ | ⟨j, known, after, hknown, hh, htasks⟩
  · have hlt : i < e.tasks.length := (List.getElem?_eq_some_iff.mp htask).1
    refine ⟨task, ?_, .leaves⟩
    rw [htasks, List.getElem?_append_left hlt]
    exact htask
  · have hlt : j < e.tasks.length := (List.getElem?_eq_some_iff.mp hknown).1
    by_cases hji : j = i
    · subst hji
      cases htask.symm.trans hknown
      exact ⟨after, by rw [htasks, List.getElem?_set_self hlt], hh⟩
    · exact ⟨task, by rw [htasks, List.getElem?_set_ne hji]; exact htask, .leaves⟩

/-- A task that was not known before has just been handed over. -/
theorem newcomer_of_serve? (hstep : e.serve? act? move = some e') (hnew : e.tasks[i]? = none)
    (htask : e'.tasks[i]? = some task) :
    ∃ id job, move = .submit id job ∧ task = ⟨id, job, .submitted⟩ := by
  have hge : e.tasks.length ≤ i := List.getElem?_eq_none_iff.mp hnew
  rcases tasks_of_serve? hstep with ⟨id, job, hmove, htasks⟩ | ⟨j, known, after, -, -, htasks⟩
  · rw [htasks, List.getElem?_append_right hge] at htask
    refine ⟨id, job, hmove, ?_⟩
    have hmem := List.mem_of_getElem? htask
    exact List.mem_singleton.mp hmem
  · rw [htasks] at htask
    have hlt := (List.getElem?_eq_some_iff.mp htask).1
    rw [List.length_set] at hlt
    omega

end

/-! ## The jobs of an elastic scheduler -/

/-- Jobs are handed over by streams that are polled for the first time. -/
def TakesHandovers (_ : Elastic (Invocation Row R)) :
    PoolMove (Invocation Row R) (Move Row) → Prop
  | .submit _ job => job.HandedOver
  | _ => True

/-- The job of a task is a stream in use, and waits as long as the scheduler has not
begun it. -/
structure Engaged (task : ElasticTask (Invocation Row R)) : Prop where
  hired : task.job.Hired
  waits : task.stage = .submitted → task.job.phase = .queued

section
variable {e e' : Elastic (Invocation Row R)} {move : PoolMove (Invocation Row R) (Move Row)}
  {i : Nat} {task task' : ElasticTask (Invocation Row R)}

/-- What is done to a task is one move of its job, or leaves the job alone. -/
theorem Engaged.handles (h : Engaged task) (hh : Handles Invocation.act? i task move task') :
    Engaged task' ∧ (task'.job = task.job ∨ ∃ m, task.job.step? m = some task'.job) := by
  cases hh with
  | leaves => exact ⟨h, Or.inl rfl⟩
  | acts hact =>
      obtain ⟨-, hphase, -⟩ := h.hired.toMarked.act hact
      have hstep := (Invocation.step?_of_act? hact).1
      exact ⟨⟨h.hired.step hstep, fun hs => (hphase (Or.inl (h.waits hs))).trans (h.waits hs)⟩,
        Or.inr ⟨_, hstep⟩⟩
  | begins hs =>
      have hstep := (h.hired.toMarked.begin (h.waits hs)).1
      exact ⟨⟨h.hired.step hstep, nofun⟩, Or.inr ⟨_, hstep⟩⟩
  | @reports ending =>
      cases ending with
      | raised text =>
          have hstep : task.job.step? (.close .sourceFailure) =
              some (closeAfter task.job (.raised text)) := rfl
          exact ⟨⟨h.hired.step hstep, nofun⟩, Or.inr ⟨_, hstep⟩⟩
      | _ => exact ⟨⟨h.hired, nofun⟩, Or.inl rfl⟩

/-- Every task of an elastic scheduler is such a task. -/
theorem engaged_of_play {hooked : Bool} {moves : List (PoolMove (Invocation Row R) (Move Row))}
    (hplay : play? (serve? Invocation.act?) (fresh hooked) moves = some e)
    (halong : Along (serve? Invocation.act?) TakesHandovers (fresh hooked) moves)
    (htask : e.tasks[i]? = some task) : Engaged task := by
  refine halong.preserves (P := fun e => ∀ i task, e.tasks[i]? = some task → Engaged task)
    ?_ ?_ hplay i task htask
  · intro u u' move h hmove hstep i task' htask'
    cases htask : u.tasks[i]? with
    | some task =>
        obtain ⟨after, hafter, hh⟩ := handles_of_serve? hstep htask
        cases htask'.symm.trans hafter
        exact ((h i task htask).handles hh).1
    | none =>
        obtain ⟨id, job, rfl, rfl⟩ := newcomer_of_serve? hstep htask htask'
        exact ⟨Invocation.HandedOver.hired hmove, fun _ => (Invocation.HandedOver.marked hmove).2⟩
  · intro i task htask
    cases htask

/-- A job whose session was closed before its source was run never runs it. -/
theorem Engaged.skipped_of_play (h : Engaged task) (htask : e.tasks[i]? = some task)
    (hskipped : task.job.Skipped) {later : List (PoolMove (Invocation Row R) (Move Row))}
    (hplay : play? (serve? Invocation.act?) e later = some e') :
    ∃ task', e'.tasks[i]? = some task' ∧ task'.job.stream.scan.scans = 0 := by
  obtain ⟨task', htask', -, hlast⟩ := play?_preserves
    (P := fun e : Elastic (Invocation Row R) =>
      ∃ task, e.tasks[i]? = some task ∧ Engaged task ∧ task.job.Skipped)
    (by
      rintro u u' move ⟨task, htask, h, hskipped⟩ hstep
      obtain ⟨task', htask', hh⟩ := handles_of_serve? hstep htask
      obtain ⟨h', hsame | ⟨m, hm⟩⟩ := h.handles hh
      · exact ⟨task', htask', h', hsame ▸ hskipped⟩
      · exact ⟨task', htask', h', hskipped.step h.hired.coherent hm⟩)
    ⟨task, htask, h, hskipped⟩ hplay
  exact ⟨task', htask', hlast.unrun⟩

end
end Elastic

/-! ## The jobs of a worker -/

/-- A task of a worker whose session was closed before its source was run never runs
it. -/
theorem Service.Employed.skipped_of_play {s s' : Service (Invocation Row R)} {i : Nat}
    {task : Task (Invocation Row R)} (h : Employed s.log i task)
    (htask : s.worker.task? i = some task) (hskipped : task.job.Skipped)
    {later : List (WorkerMove (Invocation Row R) (Move Row))}
    (hplay : play? (step? Invocation.act?) s later = some s') :
    ∃ task', s'.worker.task? i = some task' ∧ task'.job.stream.scan.scans = 0 := by
  obtain ⟨task', htask', -, hlast⟩ := task_of_play
    (P := fun log task => Employed log i task ∧ task.job.Skipped)
    (fun htask h ht => by
      refine ⟨h.1.touches htask ht, ?_⟩
      rcases ht.job_cases fun view hview => (h.1.tended view hview).toServes with hsame | ⟨m, hm⟩
      · exact hsame ▸ h.2
      · exact h.2.step h.1.hired.coherent hm)
    htask ⟨h, hskipped⟩ hplay
  exact ⟨task', htask', hlast.unrun⟩

/-! ## Every schedule -/

open Invocation (start FoundOpen)

/-- **A cold stream.**  Of its own moves, only one hands the scan over, once: a moment
of its first poll that finds a runtime, after that poll has found the session open, in
a stream that was neither cancelled nor dropped.  No closing before the first poll, no
cancelling and no dropping is followed by a handover, and no closing before the scan
is begun is followed by a run of its source; and there is one run at most.  So it is
for each of the jobs of an elastic scheduler and of a worker. -/
theorem cold_start {t : StreamTemplate} {query : StreamTemplate.Query Row R}
    {stream : RowStream Row R} (hopens : t.Opens query stream) :
    (∀ (moves : List (Move Row)) (v : Invocation Row R),
      play? Invocation.step? (start stream) moves = some v →
      (v.stream.handovers ≤ 1 ∧ v.stream.scan.scans ≤ v.stream.handovers) ∧
      (∀ (early late : List (Move Row)) (move : Move Row) (u u' : Invocation Row R),
        moves = early ++ move :: late → play? Invocation.step? (start stream) early = some u →
        u.step? move = some u' → u'.stream.handovers ≠ u.stream.handovers →
        (∃ reception, move = .poll true reception) ∧ u.poll = some .starting ∧
          FoundOpen (start stream) early ∧ ∀ other ∈ early, other ≠ .cancel ∧ other ≠ .drop) ∧
      ∀ (later : List (Move Row)) (w : Invocation Row R),
        play? Invocation.step? v later = some w →
        (.cancel ∈ moves ∨ .drop ∈ moves → w.stream.handovers = v.stream.handovers) ∧
        ((∀ move ∈ moves, move ≠ .beginPoll) → v.session.isClosed = true →
          w.stream.handovers = 0 ∧ w.stream.scan.scans = 0) ∧
        (v.phase.isUnbegun = true → v.session.isClosed = true → w.stream.scan.scans = 0)) ∧
    (∀ (hooked : Bool) (moves : List (PoolMove (Invocation Row R) (Move Row)))
      (e : Elastic (Invocation Row R)),
      play? (Elastic.serve? Invocation.act?) (.fresh hooked) moves = some e →
      Along (Elastic.serve? Invocation.act?) Elastic.TakesHandovers (.fresh hooked) moves →
      ∀ (i : Nat) (task : ElasticTask (Invocation Row R)), e.tasks[i]? = some task →
        (task.job.stream.handovers ≤ 1 ∧ task.job.stream.scan.scans ≤ 1) ∧
        (task.stage = .submitted → task.job.phase.isUnbegun = true) ∧
        (task.job.phase.isUnbegun = true → task.job.session.isClosed = true →
          ∀ later e', play? (Elastic.serve? Invocation.act?) e later = some e' →
            ∃ task', e'.tasks[i]? = some task' ∧ task'.job.stream.scan.scans = 0)) ∧
    ∀ (settings : WorkerSettings) (moves : List (WorkerMove (Invocation Row R) (Move Row)))
      (s : Service (Invocation Row R)),
      play? (Service.step? Invocation.act?) (Service.start settings) moves = some s →
      Along (Service.step? Invocation.act?) Service.HandsOver (Service.start settings) moves →
      ∀ (i : Nat) (task : Task (Invocation Row R)), s.worker.task? i = some task →
        (task.job.stream.handovers ≤ 1 ∧ task.job.stream.scan.scans ≤ 1) ∧
        ((∀ view, task.supervision = some view → view.status = .pending) →
          task.job.phase.isUnbegun = true) ∧
        (task.job.phase.isUnbegun = true → task.job.session.isClosed = true →
          ∀ later s', play? (Service.step? Invocation.act?) s later = some s' →
            ∃ task', s'.worker.task? i = some task' ∧ task'.job.stream.scan.scans = 0) := by
  refine ⟨?_, ?_, ?_⟩
  · obtain ⟨plan, capacity, hopen⟩ := hopens.exists_open?
    intro moves v hplay
    obtain ⟨hv, hnumbered⟩ := Invocation.numbered_of_play hopen hplay
    refine ⟨⟨hnumbered.once, hnumbered.runs⟩, ?_, ?_⟩
    · intro early late move u u' _ hearly hstep hne
      have hu := (Invocation.numbered_of_play hopen hearly).1
      obtain ⟨reception, hmove, hp, -⟩ := Invocation.handover_of_step hu hstep hne
      exact ⟨⟨reception, hmove⟩, hp, Invocation.foundOpen_of_handover hopen hearly hp⟩
    · intro later w hlater
      refine ⟨?_, ?_, ?_⟩
      · intro hended
        exact Invocation.handovers_of_play hopen hplay hended hlater
      · intro hnone hclosed
        exact Invocation.shut_of_play hopen hplay hnone hclosed hlater
      · intro hunbegun hclosed
        exact Invocation.skipped_of_play hv ⟨hclosed, hnumbered.unrun hunbegun⟩ hlater
  · intro hooked moves e hplay halong i task htask
    have hengaged := Elastic.engaged_of_play hplay halong htask
    refine ⟨hengaged.hired.scans_le, ?_, ?_⟩
    · intro hs
      rw [hengaged.waits hs]
      rfl
    · intro hunbegun hclosed later e' hlater
      exact hengaged.skipped_of_play htask (hengaged.hired.skipped hunbegun hclosed) hlater
  · intro settings moves s hplay halong i task htask
    have hemployed := Service.employed_of_play hplay halong htask
    refine ⟨hemployed.hired.scans_le, ?_, ?_⟩
    · intro hpending
      have hp : task.job.phase = .queued := by
        cases hview : task.supervision with
        | none => exact hemployed.dismissed hview
        | some view => exact ((hemployed.tended view hview).waits (hpending view hview)).1
      rw [hp]
      rfl
    · intro hunbegun hclosed later s' hlater
      exact hemployed.skipped_of_play htask (hemployed.hired.skipped hunbegun hclosed) hlater

/-- A stream of the default template hands its scan over in its first poll, and is
closed as cancelled before the scan is begun: it is begun, and reads nothing.  So it
is in an elastic scheduler and in a worker. -/
theorem cold_start_closed_before_scan :
    ∃ (stream : RowStream Nat Nat) (v w : Invocation Nat Nat)
      (e' : Elastic (Invocation Nat Nat)) (s' : Service (Invocation Nat Nat)),
      StreamTemplate.default.stream countingQuery = .ok stream ∧
      play? Invocation.step? (start stream) [.beginPoll, .poll true .accepted,
        .poll true .accepted, .close .cancelled] = some v ∧ v.stream.handovers = 1 ∧
      FoundOpen (start stream) [.beginPoll, .poll true .accepted] ∧
      play? Invocation.step? v [.scan .begin] = some w ∧ w.stream.scan.scans = 0 ∧
      play? (Elastic.serve? Invocation.act?) (.fresh false)
        [.submit "scan" Service.firstPoll, .act 0 (.close .cancelled), .host 0] = some e' ∧
      (∃ task, e'.tasks[0]? = some task ∧ task.job.stream.scan.scans = 0) ∧
      play? (Service.step? Invocation.act?) (Service.start ⟨none, .ofMillis 10, false⟩)
        [.submit "scan" Service.firstPoll, .supervise 0, .supervise 0, .act 0 (.close .cancelled),
          .supervise 0] = some s' ∧
      ∃ task, s'.worker.task? 0 = some task ∧ task.job.stream.scan.scans = 0 := by
  have hopens : StreamTemplate.default.Opens countingQuery
      (.fresh (StreamTemplate.default.plan countingQuery) (.fresh 100)) := Or.inl rfl
  obtain ⟨hstream, helastic, hworker⟩ := cold_start hopens
  obtain ⟨-, hturns, hlater⟩ := hstream [.beginPoll, .poll true .accepted,
    .poll true .accepted, .close .cancelled] _ rfl
  have hfound := (hturns [.beginPoll, .poll true .accepted] [.close .cancelled] _ _ _ rfl rfl rfl
    (by decide)).2.2.1
  have hscans := (hlater [.scan .begin] _ rfl).2.2 rfl rfl
  have hpool := (helastic false [.submit "scan" Service.firstPoll, .act 0 (.close .cancelled)] _ rfl
    ⟨Service.firstPoll_handedOver, trivial, trivial⟩ 0 _ rfl).2.2 rfl rfl [.host 0] _ rfl
  have hservice := (hworker ⟨none, .ofMillis 10, false⟩ [.submit "scan" Service.firstPoll,
    .supervise 0, .supervise 0, .act 0 (.close .cancelled)] _ rfl
    ⟨Service.firstPoll_handedOver, trivial, trivial, trivial, trivial⟩ 0 _ rfl).2.2 rfl rfl
    [.supervise 0] _ rfl
  exact ⟨_, _, _, _, _, rfl, rfl, rfl, hfound, rfl, hscans, rfl, hpool, rfl, hservice⟩

end Schedule
end RowBridge
