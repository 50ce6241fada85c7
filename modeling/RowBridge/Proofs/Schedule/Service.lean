/-
# `RowBridge.Proofs.Schedule.Service` — a worker in use, whoever acts next

A `Service` is a worker in use with a log of what happened to it.  Schedulers,
supervisors, jobs, those who hold a closer and any number of callers act on it
independently, and each of them takes several moves; `Service.step?` is one
move.

    move              party       what it is
    submit            scheduler   a job is handed over
    enter             scheduler   a job is taken on that was found welcome earlier
    deposit           scheduler   the handle of a task is laid ready
    supervise         supervisor  one step
    act               job         one move of the job
    close             anybody     the session of a task is closed
    prune             anybody     a task that has ended leaves the table
    stop              caller      the worker is told to shut down
    join, cancel,     caller      a call is made
    shutdown
    wait              caller      one step of a call
    abandon           caller      a call is given up
    answer            caller      a call that joined is told the status

A scheduler that hands a job over looks whether the worker is shutting down,
enters the task, and lays its handle ready, in three moments; the handle is lost
if somebody looks for it in the last of them, and then no `deposit` is made.  A
shutdown tells the worker to stop, looks the tasks up, closes their sessions,
and waits; the tasks come in no particular order.

What the jobs do is a parameter.  Nothing reads the log but `deposit`, which
comes once, and `answer`, which belongs to a call that joined.

Every step of a call is one of the rules of `Worker.Waits`.  What a worker does
in one go for its user, scheduling a job, cleaning up and starting a shutdown, is
a schedule of these moves (`exists_play?_schedule`, `play?_cleanup`,
`exists_play?_startShutdown`).
-/
import RowBridge.Proofs.Run
import RowBridge.Proofs.Schedule.Calling
import RowBridge.Proofs.Schedule.Supervising
import RowBridge.Schedule.Call

namespace RowBridge.Schedule

variable {J μ : Type}

/-- The task whose handle was laid ready, taken, or held to the end, or whose job
was judged. -/
def Entry.task? : Entry → Option Nat
  | laid i | judged i _ | took _ i | sawEnd _ i => some i
  | called _ _ _ | missed _ _ | gaveUp _ _ | dropped _ | answered _ _ _ => none

/-- A worker in use, and what has happened to it. -/
structure Service (J : Type) where
  worker : Worker J
  log : List Entry

/-- A move of one of the parties to a worker. -/
inductive WorkerMove (J μ : Type)
  | submit (id : String) (job : J)
  | enter (id : String) (job : J)
  | deposit (i : Nat)
  | supervise (i : Nat)
  | act (i : Nat) (move : μ)
  | close (i : Nat) (reason : ClosureReason)
  | prune (i : Nat)
  | stop
  | join (i : Nat)
  | cancel (i : Nat)
  /-- The tasks in the table, in the order in which they were looked up. -/
  | shutdown (tasks : List Nat)
  | wait (k : Nat) (expired : Bool)
  | abandon (k : Nat)
  | answer (k i : Nat)

namespace Worker

/-- A task that has ended leaves the table. -/
def prune (w : Worker J) (i : Nat) : Worker J :=
  w.onSupervision i fun view => { view with tracked := view.tracked && !view.status.isFinished }

def isAccepted (w : Worker J) (i : Nat) : Bool := (w.supervision? i).isSome

/-- Whether the lock at the handle of an accepted task is free. -/
def isUnlocked (w : Worker J) (i : Nat) : Bool :=
  match w.supervision? i with
  | none => false
  | some view => !view.locked

/-- What is noted about a step of a call that waits for a task. -/
def waitedFor (w : Worker J) (k : Nat) (call : Call) (i : Nat) : Entry :=
  match w.supervision? i with
  | none => .missed k i
  | some view =>
      if call.holding then
        if view.stage = .ended then .sawEnd k i else .gaveUp k i
      else if view.handle then .took k i else .missed k i

def waited (w : Worker J) (k : Nat) : List Entry :=
  match w.calls[k]? with
  | none => []
  | some call =>
      match call.remaining with
      | [] => []
      | i :: _ => [w.waitedFor k call i]

variable [ScanJob J]

/-- What is noted about a step of a supervisor. -/
def judgement (w : Worker J) (i : Nat) : List Entry :=
  match w.task? i with
  | some ⟨_, job, some view⟩ =>
      if view.stage = .running then [.judged i (ScanJob.closer job).reason] else []
  | _ => []

end Worker

namespace Service

/-- A worker that nobody has used. -/
def start (settings : WorkerSettings) : Service J := ⟨.fresh settings, []⟩

theorem task?_start (settings : WorkerSettings) (i : Nat) :
    (start settings : Service J).worker.task? i = none := rfl

theorem supervision?_start (settings : WorkerSettings) (i : Nat) :
    (start settings : Service J).worker.supervision? i = none := rfl

/-- The entries about a call. -/
def record (log : List Entry) (k : Nat) : List Entry :=
  log.filter fun entry => entry.call? = some k

/-- A call is made. -/
def making (s : Service J) (purpose : Purpose) (tasks : List Nat) (worker : Worker J) : Service J :=
  ⟨worker, s.log ++ [.called s.worker.calls.length purpose tasks]⟩

/-- Whether a call that joined a task, and was not given up, is over. -/
def mayAnswer (s : Service J) (k i : Nat) : Bool :=
  s.log.contains (.called k .join [i]) && !s.log.contains (.dropped k) && s.worker.isOver k

variable [ScanJob J] (act? : J → μ → Option J)

/-- One move; a party that is not at that point makes none. -/
def step? (s : Service J) : WorkerMove J μ → Option (Service J)
  | .submit id job => some { s with worker := s.worker.submit id job }
  | .enter id job => some { s with worker := s.worker.accept id job }
  | .deposit i =>
      if s.worker.isUnlocked i && !s.log.contains (.laid i) then
        some ⟨s.worker.deposit i, s.log ++ [.laid i]⟩
      else none
  | .supervise i =>
      (s.worker.supervise? i).map fun worker => ⟨worker, s.log ++ s.worker.judgement i⟩
  | .act i move =>
      ((s.worker.task? i).bind fun task => act? task.job move).map fun job =>
        { s with worker := s.worker.onJob i fun _ => job }
  | .close i reason => some { s with worker := s.worker.closeTask i reason }
  | .prune i => some { s with worker := s.worker.prune i }
  | .stop => some { s with worker := { s.worker with stopping := true } }
  | .join i =>
      if s.worker.isAccepted i then some (s.making .join [i] (s.worker.startJoin i)) else none
  | .cancel i =>
      if s.worker.isAccepted i then some (s.making .cancel [i] (s.worker.startCancel i)) else none
  | .shutdown tasks =>
      if tasks.Perm s.worker.trackedPositions then
        some (s.making .shutdown tasks (s.worker.enroll .shutdown tasks))
      else none
  | .wait k expired =>
      (s.worker.wait? expired k).map fun worker => ⟨worker, s.log ++ s.worker.waited k⟩
  | .abandon k =>
      if s.worker.isOver k then none else some ⟨s.worker.abandon k, s.log ++ [.dropped k]⟩
  | .answer k i =>
      if s.mayAnswer k i then
        (s.worker.supervision? i).map fun view =>
          { s with log := s.log ++ [.answered k i view.status] }
      else none

end Service

/-! ## A step of a call -/

namespace Worker

variable (w : Worker J)

@[simp] theorem calls_passOn (k : Nat) (call : Call) (rest : List Nat) :
    (w.passOn k call rest).calls =
      w.calls.set k { call with remaining := rest, holding := false } := rfl

@[simp] theorem calls_letGo (k : Nat) (call : Call) (i : Nat) (rest : List Nat) :
    (w.letGo k call i rest).calls =
      w.calls.set k { call with remaining := rest, holding := false } := by
  rw [letGo, calls_passOn, calls_onSupervision]

/-- The worker after a call has taken the handle of a task. -/
def taken (k : Nat) (call : Call) (i : Nat) : Worker J :=
  (w.onSupervision i fun view => { view with handle := false, locked := call.isTimed }).setCall k
    { call with holding := true }

@[simp] theorem calls_taken (k : Nat) (call : Call) (i : Nat) :
    (w.taken k call i).calls = w.calls.set k { call with holding := true } := by
  show ((w.onSupervision i _).calls.set k _) = _
  rw [calls_onSupervision]

/-- What one step of a call that waits for a task can do, and what is noted about
it. -/
inductive Waits (expired : Bool) (w : Worker J) (k : Nat) (call : Call) (i : Nat)
    (rest : List Nat) : Entry → Worker J → Prop
  | unknown : w.supervision? i = none →
      Waits expired w k call i rest (.missed k i) (w.passOn k call rest)
  | misses {view : Supervision} : w.supervision? i = some view → call.holding = false →
      view.handle = false → Waits expired w k call i rest (.missed k i) (w.passOn k call rest)
  | takes {view : Supervision} : w.supervision? i = some view → call.holding = false →
      view.handle = true → Waits expired w k call i rest (.took k i) (w.taken k call i)
  | sees {view : Supervision} : w.supervision? i = some view → call.holding = true →
      view.stage = .ended → Waits expired w k call i rest (.sawEnd k i) (w.letGo k call i rest)
  | givesUp {view : Supervision} : w.supervision? i = some view → call.holding = true →
      expired = true → call.isTimed = true →
      Waits expired w k call i rest (.gaveUp k i) (w.letGo k call i rest)

variable {w}

/-- Every step of a call is one of the rules. -/
theorem waits_of_wait? [ScanJob J] {w' : Worker J} {expired : Bool} {k : Nat}
    (h : w.wait? expired k = some w') :
    ∃ call i rest entry, w.calls[k]? = some call ∧ call.remaining = i :: rest ∧
      w.waited k = [entry] ∧ Waits expired w k call i rest entry w' := by
  unfold wait? at h
  split at h
  · cases h
  next call hcall =>
  split at h
  · cases h
  next i rest hrest =>
  have hwaited : w.waited k = [w.waitedFor k call i] := by
    simp only [waited, hcall, hrest]
  refine ⟨call, i, rest, _, hcall, hrest, hwaited, ?_⟩
  split at h
  next hview =>
    cases h
    simpa [waitedFor, hview] using Waits.unknown hview
  next view hview =>
  split at h
  next hholding =>
    split at h
    next hover =>
      cases h
      by_cases hended : view.stage = .ended
      · simpa [waitedFor, hview, hholding, hended] using Waits.sees hview hholding hended
      · obtain ⟨hexpired, htimed⟩ : expired = true ∧ call.isTimed = true := by
          simpa [hended] using hover
        simpa [waitedFor, hview, hholding, hended] using
          Waits.givesUp hview hholding hexpired htimed
    · cases h
  next hholding =>
    have hholding : call.holding = false := by simpa using hholding
    split at h
    · cases h
    next =>
      cases h
      cases hhandle : view.handle with
      | true =>
          rw [show w.takeHandle k call i view rest = w.taken k call i from if_pos hhandle]
          simpa [waitedFor, hview, hholding, hhandle] using Waits.takes hview hholding hhandle
      | false =>
          rw [show w.takeHandle k call i view rest = w.passOn k call rest from
            if_neg (by simp [hhandle])]
          simpa [waitedFor, hview, hholding, hhandle] using Waits.misses hview hholding hhandle

/-- A call that is not over and is given up. -/
theorem abandon_cases {k : Nat} (h : w.isOver k = false) :
    ∃ call i rest, w.calls[k]? = some call ∧ call.remaining = i :: rest ∧
      w.abandon k = if call.holding then w.letGo k call i [] else w.passOn k call [] := by
  unfold isOver at h
  cases hcall : w.calls[k]? with
  | none =>
      rw [hcall] at h
      cases h
  | some call =>
      rw [hcall] at h
      cases hrest : call.remaining with
      | nil =>
          have hover : call.isOver = true := by simp [Call.isOver, hrest]
          exact absurd (h.symm.trans hover) Bool.false_ne_true
      | cons i rest =>
          refine ⟨call, i, rest, rfl, hrest, ?_⟩
          simp only [abandon, hcall, hrest]

end Worker

/-! ## What is done in one go

Scheduling a job, cleaning up and starting a shutdown are several of these moves,
nobody else acting in between. -/

namespace Worker

theorem onSupervision_eq_modify (w : Worker J) (i : Nat) (f : Supervision → Supervision) :
    w.onSupervision i f = { w with
      tasks := w.tasks.modify i fun task => { task with supervision := task.supervision.map f } } := by
  unfold onSupervision
  cases htask : w.task? i with
  | none =>
      have hlen := List.getElem?_eq_none_iff.mp htask
      rw [List.modify_eq_self hlen]
  | some task =>
      show { w with tasks := _ } = _
      congr 1
      refine List.ext_getElem? ?_
      intro j
      rw [List.getElem?_modify, List.getElem?_set']
      by_cases hij : i = j
      · subst hij
        have hget : w.tasks[i]? = some task := htask
        simp [hget]
      · simp [hij]

/-- A change made to all tasks is made to one after the other. -/
theorem foldl_onSupervision (w : Worker J) (f : Supervision → Supervision) (n : Nat) :
    (List.range n).foldl (fun w i => w.onSupervision i f) w = { w with
      tasks := w.tasks.mapIdx fun i task =>
        if i < n then { task with supervision := task.supervision.map f } else task } := by
  induction n with
  | zero =>
      have hsame : w.tasks.mapIdx (fun _ task => task) = w.tasks := by
        refine List.ext_getElem? ?_
        intro j
        rw [List.getElem?_mapIdx]
        exact Option.map_id'
      simp [hsame]
  | succ n ih =>
      rw [List.range_succ, List.foldl_append, ih]
      show onSupervision _ n f = _
      rw [onSupervision_eq_modify]
      congr 1
      refine List.ext_getElem? ?_
      intro j
      rw [List.getElem?_modify, List.getElem?_mapIdx, List.getElem?_mapIdx]
      cases w.tasks[j]? with
      | none => rfl
      | some task =>
          by_cases hj : n = j
          · subst hj
            simp
          · have hlt : (j < n + 1) = (j < n) := propext (by omega)
            simp [hj, hlt]

theorem foldl_prune_eq_cleanup (w : Worker J) :
    (List.range w.tasks.length).foldl prune w = w.cleanup := by
  refine (foldl_onSupervision w _ _).trans ?_
  rw [cleanup]
  congr 1
  refine List.ext_getElem? ?_
  intro j
  rw [List.getElem?_mapIdx, List.getElem?_map]
  cases htask : w.tasks[j]? with
  | none => rfl
  | some task =>
      have hlt : j < w.tasks.length := (List.getElem?_eq_some_iff.mp htask).1
      simp [hlt]

theorem foldl_closeTask_positions [ScanJob J] (reason : ClosureReason) (tasks : List Nat) :
    ∀ w : Worker J, (tasks.foldl (fun w i => w.closeTask i reason) w).trackedPositions =
      w.trackedPositions := by
  induction tasks with
  | nil => intro w; rfl
  | cons i tasks ih =>
      intro w
      refine (ih _).trans ?_
      simp only [trackedPositions, closeTask, length_onJob, supervision?_onJob]

/-- A task that is not supervised has no handle to lay ready. -/
theorem deposit_of_unsupervised {w : Worker J} {i : Nat} (h : w.supervision? i = none) :
    w.deposit i = w := by
  rw [deposit, onSupervision_eq_modify]
  have hsame : w.tasks.modify i (fun task => { task with
      supervision := task.supervision.map fun view =>
        if view.locked then view else { view with handle := true } }) = w.tasks := by
    refine List.ext_getElem? ?_
    intro j
    rw [List.getElem?_modify]
    split
    next hij =>
      subst hij
      cases htask : w.tasks[i]? with
      | none => rfl
      | some task =>
          have hnone : task.supervision = none := by simpa [supervision?, task?, htask] using h
          obtain ⟨id, job, supervision⟩ := task
          cases hnone
          rfl
    · exact Option.map_id'
  rw [hsame]

theorem supervision?_submit_length [ScanJob J] (w : Worker J) (id : String) (job : J) :
    (w.submit id job).supervision? w.tasks.length = if w.stopping then none else some .fresh := by
  unfold submit
  split
  · show ((w.tasks ++ [_])[w.tasks.length]?).bind _ = _
    rw [List.getElem?_concat_length]
    rfl
  · show ((w.tasks ++ [_])[w.tasks.length]?).bind _ = _
    rw [List.getElem?_concat_length]
    rfl

end Worker

namespace Service

section
variable [ScanJob J] (act? : J → μ → Option J) (s : Service J)

/-- A job that is scheduled is handed over, and its handle is laid ready. -/
theorem exists_play?_schedule {id : String} {job : J}
    (hnew : .laid s.worker.tasks.length ∉ s.log) :
    ∃ (moves : List (WorkerMove J μ)) (t : Service J),
      play? (step? act?) s moves = some t ∧ t.worker = s.worker.schedule id job := by
  have hview := s.worker.supervision?_submit_length id job
  cases hstopping : s.worker.stopping with
  | true =>
      refine ⟨[.submit id job], _, rfl, ?_⟩
      rw [hstopping] at hview
      exact (Worker.deposit_of_unsupervised hview).symm
  | false =>
      rw [hstopping] at hview
      have hunlocked : (s.worker.submit id job).isUnlocked s.worker.tasks.length = true := by
        rw [Worker.isUnlocked, hview]
        rfl
      have hdeposit : step? act? { s with worker := s.worker.submit id job }
          (.deposit s.worker.tasks.length) =
            some ⟨s.worker.schedule id job, s.log ++ [.laid s.worker.tasks.length]⟩ :=
        if_pos (by simp [hunlocked, hnew])
      refine ⟨[.submit id job, .deposit s.worker.tasks.length],
        ⟨s.worker.schedule id job, s.log ++ [.laid s.worker.tasks.length]⟩, ?_, rfl⟩
      exact congrArg (Option.bind · _) hdeposit

/-- A worker that is shut down is told to stop, closes the sessions of its tasks,
and the caller starts to wait. -/
theorem exists_play?_startShutdown :
    ∃ t : Service J, play? (step? act?) s
      (.stop :: s.worker.trackedPositions.map (.close · .cancelled) ++
        [.shutdown s.worker.trackedPositions]) = some t ∧ t.worker = s.worker.startShutdown := by
  have hclosed : ∀ (tasks : List Nat) (u : Service J),
      tasks.foldl (fun u i => { u with worker := u.worker.closeTask i .cancelled }) u =
        { u with worker := tasks.foldl (fun w i => w.closeTask i .cancelled) u.worker } := by
    intro tasks
    induction tasks with
    | nil => intro u; rfl
    | cons i tasks ih => intro u; exact ih _
  let tasks := s.worker.trackedPositions
  let stopped : Service J := { s with worker := { s.worker with stopping := true } }
  let closed : Service J :=
    { s with worker := tasks.foldl (fun w i => w.closeTask i .cancelled) stopped.worker }
  have hclosings : play? (step? act?) stopped (tasks.map (.close · .cancelled)) = some closed := by
    rw [play?_map_of_step
      (g := fun (u : Service J) i => { u with worker := u.worker.closeTask i .cancelled })
      fun _ _ => rfl, hclosed]
  have hshutdown : step? act? closed (.shutdown tasks) =
      some (closed.making .shutdown tasks s.worker.startShutdown) := by
    refine if_pos ?_
    rw [Worker.foldl_closeTask_positions]
    exact List.Perm.refl _
  refine ⟨closed.making .shutdown tasks s.worker.startShutdown, ?_, rfl⟩
  show play? (step? act?) stopped (tasks.map (.close · .cancelled) ++ [.shutdown tasks]) = _
  rw [play?_append, hclosings]
  exact congrArg (Option.bind · _) hshutdown

/-- A clean-up prunes the tasks. -/
theorem play?_cleanup :
    play? (step? act?) s ((List.range s.worker.tasks.length).map .prune) =
      some { s with worker := s.worker.cleanup } := by
  rw [play?_map_of_step (g := fun s i => { s with worker := s.worker.prune i }) fun _ _ => rfl,
    ← Worker.foldl_prune_eq_cleanup]
  generalize List.range s.worker.tasks.length = is
  congr 1
  induction is generalizing s with
  | nil => rfl
  | cons i is ih => exact ih _

end
end Service
end RowBridge.Schedule
