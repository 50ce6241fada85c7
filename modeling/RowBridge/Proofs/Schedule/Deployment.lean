/-
# `RowBridge.Proofs.Schedule.Deployment` — one stream with the scheduler of its scan

A stream stands by until one of its polls hands its scan over; from then on it is
the one job of a scheduler.  A `Deployment` is one or the other, and makes two
kinds of turns: an `Action` of the consumer, of a holder of a cancel handle, of
the row source, of the scan or of its clock, and a step of the scheduler.

    turn   party                            what it is
    act    consumer, source, scan, clock    a move of the invocation
    host   scheduler                        its next step with the job

What a scheduler is to its one job is a `Host`.  There are two: the elastic
scheduler with a failure hook (`elastic`), and a worker that nobody has used
before (`worker`).

Both keep lists of tasks.  With one job in it, a list is that job and how far it
has come (`Solo`), and each host is the mirror image of a host over solos
(`mirrors_elastic`, `mirrors_worker`): the same turns are possible in both, and
the job and the reported failures are the same after them (`Mirrors.played`).
-/
import RowBridge.Proofs.Schedule.Completion
import RowBridge.Schedule.Elastic

namespace RowBridge.Schedule

variable {Row R J σ σ' S : Type}

/-! ## Turns -/

/-- What is done to a stream or by its scan, the scheduler apart. -/
inductive Action (Row : Type)
  | beginPoll
  /-- The poll under way goes on, called from inside or outside a runtime. -/
  | poll (runtime : Bool)
  | cancelByHandle
  | cancel
  | drop
  | offer (row : Row) (index : Nat)
  | conclude (ending : Ending)
  | advance (expired : Bool)
  | recheck

/-- The move of the invocation; every scan that is handed over is taken on. -/
def Action.move : Action Row → Move Row
  | beginPoll => .beginPoll
  | poll runtime => .poll runtime .accepted
  | cancelByHandle => .close .cancelled
  | cancel => .cancel
  | drop => .drop
  | offer row index => .scan (.offer row index)
  | conclude ending => .scan (.conclude ending)
  | advance expired => .scan (.advance expired)
  | recheck => .scan .recheck

/-- No action is a scheduler's. -/
theorem Action.act?_move (action : Action Row) (v : Invocation Row R) :
    v.act? action.move = v.step? action.move := by
  cases action <;> rfl

/-- A turn of one of the parties to a deployment. -/
inductive Turn (Row : Type)
  | act (action : Action Row)
  | host

def Turn.action? : Turn Row → Option (Action Row)
  | act action => some action
  | host => none

/-- What a turn may be for the stream in use; the scheduler may leave it alone. -/
def Turn.Moves : Turn Row → Move Row → Prop
  | act action, move => move = action.move
  | host, move => move = .scan .begin ∨ move = .scan .lose ∨ move = .close .sourceFailure ∨
      move = .pass

/-- A scheduler as its one job knows it. -/
structure Host (J σ : Type) where
  /-- The scheduler that has just been given the job, its first. -/
  take : J → σ
  job? : σ → Option J
  onJob : σ → (J → J) → σ
  /-- The next step of the scheduler, if it has one. -/
  move? : σ → Option σ
  /-- What has been reported so far. -/
  failures : σ → List TaskFailure

/-- A stream before and after its scan is handed over. -/
inductive Deployment (Row R σ : Type)
  | standing (stream : Invocation Row R)
  | hosted (host : σ)

namespace Deployment

variable (H : Host (Invocation Row R) σ)

/-- The stream in use, wherever it is. -/
def job? : Deployment Row R σ → Option (Invocation Row R)
  | standing v => some v
  | hosted host => H.job? host

def failures : Deployment Row R σ → List TaskFailure
  | standing _ => []
  | hosted host => H.failures host

/-- The stream after an action, which may have handed its scan over. -/
def afterAction (v : Invocation Row R) : Deployment Row R σ :=
  if v.stream.scan.isQueued then hosted (H.take v) else standing v

/-- One turn; a party that is not at that point makes none. -/
def step? : Deployment Row R σ → Turn Row → Option (Deployment Row R σ)
  | standing v, .act action => (v.step? action.move).map (afterAction H)
  | standing _, .host => none
  | hosted host, .act action =>
      ((H.job? host).bind fun v => v.step? action.move).map fun v =>
        hosted (H.onJob host fun _ => v)
  | hosted host, .host => (H.move? host).map hosted

/-- The stream in use after some turns, if each was possible when it came. -/
def after? (v : Invocation Row R) (turns : List (Turn Row)) : Option (Invocation Row R) :=
  (play? (step? H) (standing v) turns).bind fun d => d.job? H

/-- The scheduler has no step to make. -/
def AtRest (d : Deployment Row R σ) : Prop := d.step? H .host = none

instance (d : Deployment Row R σ) : Decidable (d.AtRest H) :=
  inferInstanceAs (Decidable (d.step? H .host = none))

end Deployment

/-! ## The two contexts -/

/-- The elastic scheduler with a failure hook. -/
def elastic [ScanJob J] (id : String) : Host J (Elastic J) where
  take job := (Elastic.fresh true).schedule id job
  job? e := e.tasks.head?.map (·.job)
  onJob e f := e.onJob 0 f
  move? e := e.move? 0
  failures e := e.failures

/-- A supervisor that has ended without having begun its job lets go of it. -/
def Worker.forsake? (w : Worker (Invocation Row R)) (i : Nat) :
    Option (Worker (Invocation Row R)) :=
  match w.task? i with
  | some ⟨_, job, some view⟩ =>
      if view.stage = .ended then (job.step? (.scan .lose)).map fun job => w.onJob i fun _ => job
      else none
  | _ => none

/-- A worker that nobody has used before, and that nobody else uses. -/
def worker (id : String) (settings : WorkerSettings) :
    Host (Invocation Row R) (Worker (Invocation Row R)) where
  take job := (Worker.fresh settings).schedule id job
  job? w := (w.task? 0).map (·.job)
  onJob w f := w.onJob 0 f
  move? w := (w.supervise? 0).or (w.forsake? 0)
  failures w := w.failures.sent

/-! ## One job at a time -/

/-- A job with how far it has come and what has been reported. -/
structure Solo (J S : Type) where
  job : J
  stage : S
  failures : List TaskFailure

/-- A scheduler that starts every job at one stage and goes on as said. -/
def Host.solo (first : S) (next? : Solo J S → Option (Solo J S)) : Host J (Solo J S) where
  take job := ⟨job, first, []⟩
  job? p := some p.job
  onJob p f := { p with job := f p.job }
  move? := next?
  failures := Solo.failures

section
variable [ScanJob J] (id : String)

/-- The reports about a job that has ended. -/
def told (job : J) (ending : Ending) : List TaskFailure :=
  ((failure? ending).map fun failure => ⟨id, ScanJob.statement job, failure⟩).toList

variable {id} in
/-- What is reported depends on the plan of the scan and on how it ended. -/
theorem told_eq {v v' : Invocation Row R} (h : v'.stream.scan.plan = v.stream.scan.plan)
    (ending : Ending) : told id v' ending = told id v ending := by
  have hstatement : ScanJob.statement v' = ScanJob.statement v := by
    show v'.stream.scan.plan.statement = v.stream.scan.plan.statement
    rw [h]
  rw [told, told, hstatement]

/-- The next step of the elastic scheduler with one job. -/
def Elastic.next? (p : Solo J ElasticStage) : Option (Solo J ElasticStage) :=
  match p.stage with
  | .submitted => some { p with job := ScanJob.begin p.job, stage := .running }
  | .running => (ScanJob.ending? p.job).map fun ending =>
      ⟨closeAfter p.job ending, .reported, p.failures ++ told id p.job ending⟩
  | .reported => none

/-- The elastic scheduler with one job. -/
def Elastic.solo : Host J (Solo J ElasticStage) := .solo .submitted (Elastic.next? id)

/-- The final status of a job that has ended. -/
def verdict (job : J) (ending : Ending) : TaskStatus :=
  match failure? ending with
  | none => Worker.statusOfReturn (ScanJob.closer job).reason
  | some failure => .failed failure.text

end

/-- The next step of a worker with one job; `bounded` when it counts slots, of
which it has enough. -/
def Worker.next? (id : String) (bounded : Bool) (q : Solo (Invocation Row R) SupervisorStage) :
    Option (Solo (Invocation Row R) SupervisorStage) :=
  match q.stage with
  | .spawned => some { q with
      stage := if bounded && q.job.session.isClosed then .concluding .cancelled else .admitted }
  | .admitted => some { q with
      stage := if q.job.session.isClosed then .concluding .cancelled else .launching }
  | .launching => some { q with job := ScanJob.begin q.job, stage := .running }
  | .running => (ScanJob.ending? q.job).map fun ending =>
      ⟨closeAfter q.job ending, .concluding (verdict q.job ending),
        q.failures ++ told id q.job ending⟩
  | .concluding _ => some { q with stage := .leaving }
  | .leaving => some { q with stage := .ended }
  | .ended => (q.job.step? (.scan .lose)).map fun job => { q with job := job }

/-- A worker with one job. -/
def Worker.solo (id : String) (bounded : Bool) :
    Host (Invocation Row R) (Solo (Invocation Row R) SupervisorStage) :=
  .solo .spawned (Worker.next? id bounded)

/-! ## Mirror images -/

/-- Two hosts are alike in everything a stream and its consumer know of them. -/
structure Mirrors (H : Host J σ) (H' : Host J σ') (Same : σ → σ' → Prop) : Prop where
  take : ∀ job, Same (H.take job) (H'.take job)
  job? : ∀ {h : σ} {h' : σ'}, Same h h' → H.job? h = H'.job? h'
  onJob : ∀ {h : σ} {h' : σ'} (f : J → J), Same h h' → Same (H.onJob h f) (H'.onJob h' f)
  move? : ∀ {h : σ} {h' : σ'}, Same h h' → Option.Rel Same (H.move? h) (H'.move? h')
  failures : ∀ {h : σ} {h' : σ'}, Same h h' → H.failures h = H'.failures h'

/-- The same stream stands by, or the hosts that have it are alike. -/
inductive Deployment.Mirrored (Same : σ → σ' → Prop) :
    Deployment Row R σ → Deployment Row R σ' → Prop
  | standing (v : Invocation Row R) : Mirrored Same (.standing v) (.standing v)
  | hosted {h : σ} {h' : σ'} : Same h h' → Mirrored Same (.hosted h) (.hosted h')

section
variable {H : Host (Invocation Row R) σ} {H' : Host (Invocation Row R) σ'} {Same : σ → σ' → Prop}
  {d : Deployment Row R σ} {d' : Deployment Row R σ'}

theorem Mirrors.job?_eq (hm : Mirrors H H' Same) (h : d.Mirrored Same d') :
    d.job? H = d'.job? H' := by
  cases h with
  | standing v => rfl
  | hosted hsame => exact hm.job? hsame

theorem Mirrors.failures_eq (hm : Mirrors H H' Same) (h : d.Mirrored Same d') :
    d.failures H = d'.failures H' := by
  cases h with
  | standing v => rfl
  | hosted hsame => exact hm.failures hsame

theorem Mirrors.step? (hm : Mirrors H H' Same) (h : d.Mirrored Same d') (turn : Turn Row) :
    Option.Rel (Deployment.Mirrored Same) (d.step? H turn) (d'.step? H' turn) := by
  cases h with
  | standing v =>
      cases turn with
      | host => exact .none
      | act action =>
          simp only [Deployment.step?]
          cases v.step? action.move with
          | none => exact .none
          | some v' =>
              refine .some ?_
              show Deployment.Mirrored Same (Deployment.afterAction H v') (Deployment.afterAction H' v')
              unfold Deployment.afterAction
              split
              · exact .hosted (hm.take v')
              · exact .standing v'
  | @hosted h h' hsame =>
      cases turn with
      | host => exact rel_map (hm.move? hsame) .hosted
      | act action =>
          simp only [Deployment.step?, hm.job? hsame]
          cases (H'.job? h').bind fun v => v.step? action.move with
          | none => exact .none
          | some v' => exact .some (.hosted (hm.onJob _ hsame))

/-- A scheduler rests when its mirror image does. -/
theorem Mirrors.atRest_iff (hm : Mirrors H H' Same) (h : d.Mirrored Same d') :
    d.AtRest H ↔ d'.AtRest H' :=
  none_iff_of_rel (hm.step? h .host)

/-- The same turns lead mirror images to mirror images. -/
theorem Mirrors.played (hm : Mirrors H H' Same) (h : d.Mirrored Same d') (turns : List (Turn Row)) :
    Option.Rel (Deployment.Mirrored Same) (play? (Deployment.step? H) d turns)
      (play? (Deployment.step? H') d' turns) := by
  refine play?_rel (f := id) (g := id) ?_ h rfl
  rintro d d' turn turn' hd rfl
  exact hm.step? hd turn

end

section
variable {H : Host (Invocation Row R) σ} {H' : Host (Invocation Row R) σ'} {Same : σ → σ' → Prop}

/-- Mirror images do the same to a stream. -/
theorem Mirrors.after?_eq (hm : Mirrors H H' Same) :
    Deployment.after? H = Deployment.after? H' := by
  funext v turns
  have hplay := hm.played (.standing v) turns
  unfold Deployment.after?
  generalize play? (Deployment.step? H) _ turns = last,
    play? (Deployment.step? H') _ turns = last' at hplay
  cases hplay with
  | none => rfl
  | some hlast => exact hm.job?_eq hlast

/-- What one of two mirror images can do, the other can. -/
theorem Mirrors.exists_play? (hm : Mirrors H H' Same) {v : Invocation Row R}
    {turns : List (Turn Row)} {d : Deployment Row R σ}
    (hplay : play? (Deployment.step? H) (.standing v) turns = some d) :
    ∃ d', play? (Deployment.step? H') (.standing v) turns = some d' ∧
      d.Mirrored Same d' :=
  exists_of_rel_left (hm.played (.standing v) turns) hplay

end

/-! ## Lists of one task -/

/-- The elastic scheduler has one task. -/
structure Elastic.Holds (id : String) (e : Elastic J) (p : Solo J ElasticStage) : Prop where
  hooked : e.hooked = true
  tasks : e.tasks = [⟨id, p.job, p.stage⟩]
  failures : e.failures = p.failures

theorem Elastic.Holds.onJob {id : String} {e : Elastic J} {p : Solo J ElasticStage}
    (h : e.Holds id p) (f : J → J) : (e.onJob 0 f).Holds id { p with job := f p.job } := by
  obtain ⟨hooked, tasks, failures, events⟩ := e
  obtain ⟨rfl, rfl, rfl⟩ := h
  exact ⟨rfl, rfl, rfl⟩

theorem Elastic.Holds.move? [ScanJob J] {id : String} {e : Elastic J} {p : Solo J ElasticStage}
    (h : e.Holds id p) : Option.Rel (Elastic.Holds id) (e.move? 0) (Elastic.next? id p) := by
  obtain ⟨hooked, tasks, failures, events⟩ := e
  obtain ⟨job, stage, reported⟩ := p
  obtain ⟨hhooked, htasks, hfailures⟩ := h
  cases hhooked
  cases htasks
  cases hfailures
  cases stage with
  | submitted => exact .some ⟨rfl, rfl, rfl⟩
  | reported => exact .none
  | running =>
      show Option.Rel _ ((ScanJob.ending? job).map _) ((ScanJob.ending? job).map _)
      cases ScanJob.ending? job with
      | none => exact .none
      | some ending =>
          refine .some ?_
          cases ending with
          | ok => exact ⟨rfl, rfl, (List.append_nil _).symm⟩
          | _ => exact ⟨rfl, rfl, rfl⟩

theorem mirrors_elastic [ScanJob J] (id : String) :
    Mirrors (elastic (J := J) id) (Elastic.solo id) (Elastic.Holds id) where
  take _ := ⟨rfl, rfl, rfl⟩
  job? h := by simp [elastic, Elastic.solo, Host.solo, h.tasks]
  onJob f h := h.onJob f
  move? h := h.move?
  failures h := h.failures

/-- The worker has one task, and a slot for it as long as it needs one. -/
structure Worker.Holds (id : String) (settings : WorkerSettings) (w : Worker J)
    (q : Solo J SupervisorStage) : Prop where
  manners : w.settings = settings
  task : ∃ view, w.tasks = [⟨id, q.job, some view⟩] ∧ view.stage = q.stage
  welcome : q.stage = .spawned → settings.limit.isSome = true → 0 < w.free
  failures : w.failures.sent = q.failures

section
variable {id : String} {settings : WorkerSettings}

theorem Worker.Holds.onJob {w : Worker J} {q : Solo J SupervisorStage} (h : w.Holds id settings q)
    (f : J → J) : (w.onJob 0 f).Holds id settings { q with job := f q.job } := by
  obtain ⟨own, free, stopping, tasks, failures, calls⟩ := w
  obtain ⟨hsettings, ⟨view, htasks, hstage⟩, hwelcome, hfailures⟩ := h
  cases htasks
  exact ⟨hsettings, ⟨view, rfl, hstage⟩, hwelcome, hfailures⟩

theorem Worker.Holds.move? {w : Worker (Invocation Row R)}
    {q : Solo (Invocation Row R) SupervisorStage} (h : w.Holds id settings q) :
    Option.Rel (Worker.Holds id settings) ((worker id settings).move? w)
      (Worker.next? id settings.limit.isSome q) := by
  obtain ⟨own, free, stopping, tasks, ⟨sent, listeners⟩, calls⟩ := w
  obtain ⟨job, stage, reported⟩ := q
  obtain ⟨hmanners, ⟨view, htasks, hstage⟩, hwelcome, hfailures⟩ := h
  cases hmanners
  cases htasks
  cases hfailures
  obtain ⟨_, status, holdsSlot, tracked, handle, locked⟩ := view
  cases hstage
  have hcloser : (ScanJob.closer job).isClosed = job.session.isClosed := rfl
  cases stage with
  | spawned =>
      show Option.Rel _ ((Worker.assignSlot _ 0 _).or _) _
      cases hlimit : own.limit with
      | none =>
          simp only [Worker.assignSlot, hlimit]
          exact .some ⟨rfl, ⟨_, rfl, rfl⟩, by simp, rfl⟩
      | some limit =>
          have hfree : 0 < free := hwelcome rfl (congrArg Option.isSome hlimit)
          cases hclosed : job.session.isClosed with
          | true =>
              simp only [Worker.assignSlot, Worker.next?, hlimit, hcloser, hclosed]
              exact .some ⟨rfl, ⟨_, rfl, rfl⟩, by simp, rfl⟩
          | false =>
              simp only [Worker.assignSlot, Worker.next?, hlimit, hcloser, hclosed, hfree]
              exact .some ⟨rfl, ⟨_, rfl, rfl⟩, by simp, rfl⟩
  | admitted =>
      show Option.Rel _ (some (Worker.lookAgain _ 0 _)) _
      cases hclosed : job.session.isClosed with
      | true =>
          simp only [Worker.lookAgain, Worker.next?, hcloser, hclosed]
          exact .some ⟨rfl, ⟨_, rfl, rfl⟩, by simp, rfl⟩
      | false =>
          simp only [Worker.lookAgain, Worker.next?, hcloser, hclosed]
          exact .some ⟨rfl, ⟨_, rfl, rfl⟩, by simp, rfl⟩
  | launching => exact .some ⟨rfl, ⟨_, rfl, rfl⟩, by simp, rfl⟩
  | running =>
      show Option.Rel _ (((ScanJob.ending? job).map _).or none) ((ScanJob.ending? job).map _)
      cases ScanJob.ending? job with
      | none => exact .none
      | some ending =>
          refine .some ?_
          cases ending with
          | ok => exact ⟨rfl, ⟨_, rfl, rfl⟩, by simp, (List.append_nil _).symm⟩
          | _ => exact ⟨rfl, ⟨_, rfl, rfl⟩, by simp, rfl⟩
  | concluding final => exact .some ⟨rfl, ⟨_, rfl, rfl⟩, by simp, rfl⟩
  | leaving => exact .some ⟨rfl, ⟨_, rfl, rfl⟩, by simp, rfl⟩
  | ended =>
      show Option.Rel _ ((job.step? (.scan .lose)).map _) ((job.step? (.scan .lose)).map _)
      cases job.step? (.scan .lose) with
      | none => exact .none
      | some v => exact .some ⟨rfl, ⟨_, rfl, rfl⟩, by simp, rfl⟩

/-- A worker with room for one running job, or that counts none. -/
theorem mirrors_worker (hlimit : settings.limit ≠ some 0) :
    Mirrors (worker (R := R) id settings) (Worker.solo id settings.limit.isSome)
      (Worker.Holds (J := Invocation Row R) id settings) where
  take _ := by
    refine ⟨rfl, ⟨_, rfl, rfl⟩, ?_, rfl⟩
    intro _ hbounded
    obtain ⟨limit, hsome⟩ := Option.isSome_iff_exists.mp hbounded
    show 0 < settings.limit.getD 0
    rw [hsome]
    exact Nat.pos_of_ne_zero fun hzero => hlimit (hsome.trans (congrArg some hzero))
  job? h := by
    obtain ⟨view, htasks, -⟩ := h.task
    simp [worker, Worker.solo, Host.solo, Worker.task?, htasks]
  onJob f h := h.onJob f
  move? h := h.move?
  failures h := h.failures

end

end RowBridge.Schedule
