/-
# `RowBridge.Proofs.Schedule.Verdict` — what a final status says is so

A worker gives every task it accepted one of four final statuses.  It computes
them from how the job returned and from the reason for which the session is
closed then, or it turns the task away before the job is begun.  The status is
nevertheless a statement about rows, markers, failures and closings:

    status      what it says
    completed   every row that the source handed over was enqueued, and one end
                marker after them
    closed      the session was closed for this reason, which is no cancellation,
                and no end marker was enqueued
    failed      the session is closed; and this is the text of a failure that the
                source returned while the session was open and that was not
                transient, with the statement of the scan, or the text of a job that
                gave up
    cancelled   the session was closed by a cancellation

That `closed` and `cancelled` tell the two kinds of closings apart rests on who
closes: the scan closes for what happens to it, and everybody else cancels
(`OnlyCancels`).  A supervisor that finds the session closed before it has begun
the job says `cancelled` whatever the reason; the reason is a cancellation, since
the scan has not been there to close anything (`Tame.cancelled`).

**Proved here**, for every plan, every source, every consumer and every schedule
of any number of tasks (`status_sound`).
-/
import RowBridge.Proofs.Schedule.Completion
import RowBridge.Proofs.Stream.Ending

namespace RowBridge.Schedule.Service

variable {Row R : Type}

/-- Whoever is not a scan closes a session only by cancelling. -/
def OnlyCancels (_ : Service (Invocation Row R)) :
    WorkerMove (Invocation Row R) (Move Row) → Prop
  | .submit _ job | .enter _ job =>
      job.session.reason = none ∨ job.session.reason = some .cancelled
  | .act _ move => move.OnlyCancels
  | .close _ reason => reason = .cancelled
  | _ => True

instance (s : Service (Invocation Row R)) : DecidablePred (OnlyCancels s)
  | .submit _ job | .enter _ job => inferInstanceAs
      (Decidable (job.session.reason = none ∨ job.session.reason = some .cancelled))
  | .act _ move => inferInstanceAs (Decidable move.OnlyCancels)
  | .close _ reason => inferInstanceAs (Decidable (reason = .cancelled))
  | .deposit _ | .supervise _ | .prune _ | .stop | .join _ | .cancel _ | .shutdown _ | .wait _ _
  | .abandon _ | .answer _ _ => inferInstanceAs (Decidable True)

/-! ## What the statuses say -/

/-- What a status says about a job is so. -/
def Upheld (v : Invocation Row R) : TaskStatus → Prop
  | .pending | .running => True
  | .completed => .finish ∈ v.ledger.enqueued
  | .closed reason => v.session.reason = some reason ∧ reason ≠ .cancelled
  | .failed message => v.session.isClosed = true ∧ ∃ ending failure, v.phase = .ended ending ∧
      failure? ending = some failure ∧ message = failure.text
  | .cancelled => v.session.reason = some .cancelled

/-- A job and what its supervisor says about it, and is about to say. -/
structure Vouches (v : Invocation Row R) (view : Supervision) : Prop where
  candid : v.Candid
  tame : v.Tame
  due : ∀ final, view.stage = .concluding final → Upheld v final
  said : Upheld v view.status

section
variable {v v' : Invocation Row R} {view : Supervision}

/-- What is so stays so when the job goes on. -/
theorem Upheld.mono {status : TaskStatus} (h : Upheld v status)
    (hended : ∀ ending, v.phase = .ended ending → v'.phase = .ended ending)
    (hreason : ∀ reason, v.session.reason = some reason → v'.session.reason = some reason)
    (henqueued : v.ledger.enqueued <+: v'.ledger.enqueued) : Upheld v' status := by
  cases status with
  | pending => trivial
  | running => trivial
  | completed => exact henqueued.subset h
  | closed reason => exact ⟨hreason reason h.1, h.2⟩
  | cancelled => exact hreason _ h
  | failed message =>
      obtain ⟨hc, ending, failure, hp, hfailure, hmessage⟩ := h
      obtain ⟨reason, hr⟩ := Option.isSome_iff_exists.mp hc
      exact ⟨Session.isClosed_of_reason (hreason reason hr), ending, failure, hended ending hp,
        hfailure, hmessage⟩

/-- A move of an invocation changes nothing about a scan that has ended, and takes
nothing back. -/
theorem Vouches.goOn (h : Vouches v view) {move : Move Row} (hstep : v.step? move = some v')
    (hmove : move.OnlyCancels)
    (hended : ∀ ending, v.phase = .ended ending → v'.phase = .ended ending) : Vouches v' view := by
  have hmarked := h.candid.toMarked
  have hmono : ∀ {status : TaskStatus}, Upheld v status → Upheld v' status := by
    intro status hstatus
    refine hstatus.mono hended ?_ (hmarked.enqueued_isPrefix hstep)
    intro reason hr
    exact Invocation.reason_of_step hmarked.coherent hr hstep
  refine ⟨h.candid.step hstep, h.tame.step hmarked hstep hmove, ?_, hmono h.said⟩
  intro final hstage
  exact hmono (h.due final hstage)

theorem Vouches.close (h : Vouches v view) : Vouches (ScanJob.close v .cancelled) view := by
  have hstep : v.step? (.close .cancelled) = some (ScanJob.close v .cancelled) := rfl
  exact h.goOn hstep rfl fun _ hp => hp

/-- What follows from the reason a job's supervisor finds when the job has
returned well. -/
theorem Vouches.upheld_return (h : Vouches v view) (hp : v.phase = .ended .ok) :
    Upheld v (Worker.statusOfReturn v.session.reason) := by
  cases hr : v.session.reason with
  | none => exact h.candid.complete hp hr
  | some reason =>
      cases reason with
      | cancelled => exact hr
      | _ => exact ⟨hr, nofun⟩

end

/-! ## Every move -/

section
variable {s s' : Service (Invocation Row R)} {move : WorkerMove (Invocation Row R) (Move Row)}
  {i : Nat} {task task' : Task (Invocation Row R)} {view view' : Supervision}
  {entries : List Entry}

/-- A step of a supervisor. -/
theorem Vouches.supervise (h : Vouches task.job view) {log : List Entry}
    (hserves : Serves log i task.job view) {free : Nat} {failures : Broadcast TaskFailure}
    {job : Invocation Row R} (hsup : s.worker.Supervises task view free failures job view') :
    Vouches job view' := by
  have hpace := hserves.pace
  -- a supervisor that finds the session closed has not begun the job
  have hgone : task.job.phase = .queued → (ScanJob.closer task.job).isClosed = true →
      ∀ final, SupervisorStage.concluding .cancelled = .concluding final → Upheld task.job final := by
    rintro hp hc final ⟨⟩
    exact h.tame.cancelled hp hc
  cases hsup with
  | needsNone => exact ⟨h.candid, h.tame, nofun, h.said⟩
  | givesUp hs _ hc => rw [hs] at hpace; exact ⟨h.candid, h.tame, hgone hpace hc, h.said⟩
  | getsSlot => exact ⟨h.candid, h.tame, nofun, h.said⟩
  | turnsBack hs hc => rw [hs] at hpace; exact ⟨h.candid, h.tame, hgone hpace hc, h.said⟩
  | goesOn => exact ⟨h.candid, h.tame, nofun, trivial⟩
  | launches hs =>
      rw [hs] at hpace
      have hstep := (h.candid.toMarked.begin hpace).1
      have hbegun : Vouches (ScanJob.begin task.job) view := by
        refine h.goOn hstep trivial ?_
        intro ending hp
        exact nomatch hp.symm.trans hpace
      exact ⟨hbegun.candid, hbegun.tame, nofun, hbegun.said⟩
  | @returns ending hs hending hfailure =>
      have hp := phase_of_ending? hending
      cases ending with
      | ok =>
          refine ⟨h.candid, h.tame, ?_, h.said⟩
          rintro final ⟨⟩
          exact h.upheld_return hp
      | _ => cases hfailure
  | @fails ending failure hs hending hfailure =>
      have hp := phase_of_ending? hending
      cases ending with
      | ok => cases hfailure
      | failed error =>
          refine ⟨h.candid, h.tame, ?_, h.said⟩
          rintro final ⟨⟩
          exact ⟨h.candid.shut error hp, _, failure, hp, hfailure, rfl⟩
      | raised text =>
          have hstep : task.job.step? (.close .sourceFailure) =
              some (ScanJob.close task.job .sourceFailure) := rfl
          have hmarked := h.candid.toMarked
          -- the one closing by somebody else that is no cancellation: the scan has given up
          have htame : (ScanJob.close task.job .sourceFailure).Tame := by
            refine Or.inr (Or.inr ⟨?_, ?_, ?_⟩)
            · intro hmarker
              cases hmarked.ended _ hp hmarker
            · show task.job.phase.isSettled = true
              rw [hp]
              rfl
            · exact fun hq => nomatch hq.symm.trans hp
          refine ⟨h.candid.step hstep, htame, ?_, h.said.mono (fun _ => id) ?_ (List.prefix_refl _)⟩
          · rintro final ⟨⟩
            exact ⟨Session.close_isClosed _ _, _, failure, hp, hfailure, rfl⟩
          · intro reason hr
            exact Invocation.reason_of_step hmarked.coherent hr hstep
  | settles hs => exact ⟨h.candid, h.tame, nofun, h.due _ hs⟩
  | leaves => exact ⟨h.candid, h.tame, nofun, h.said⟩

/-- What a move does to a task, it does to what is said about it. -/
theorem Vouches.touches (h : Vouches task.job view) (hserves : Serves s.log i task.job view)
    (hview : task.supervision = some view) (hcancels : OnlyCancels s move)
    (ht : Touches Invocation.act? s i task move entries task') :
    ∃ view', task'.supervision = some view' ∧ Vouches task'.job view' := by
  have hsame : ∀ {other : Supervision}, task.supervision = some other → other = view := by
    intro other hother
    exact Option.some.inj (hother.symm.trans hview)
  cases ht with
  | leaves => exact ⟨view, hview, h⟩
  | acts hact =>
      obtain ⟨-, hphase, -⟩ := hserves.marked.act hact
      refine ⟨view, hview, h.goOn (Invocation.step?_of_act? hact).1 hcancels ?_⟩
      intro ending hp
      exact (hphase (Or.inr ⟨ending, hp⟩)).trans hp
  | closes =>
      cases hcancels
      exact ⟨view, hview, h.close⟩
  | cancels => exact ⟨view, hview, h.close⟩
  | supervised hother hsup =>
      cases hsame hother
      exact ⟨_, rfl, h.supervise hserves hsup⟩
  | lays hother => cases hsame hother; exact ⟨_, rfl, h.candid, h.tame, h.due, h.said⟩
  | prunes hother => cases hsame hother; exact ⟨_, rfl, h.candid, h.tame, h.due, h.said⟩
  | takes hother => cases hsame hother; exact ⟨_, rfl, h.candid, h.tame, h.due, h.said⟩
  | sees hother => cases hsame hother; exact ⟨_, rfl, h.candid, h.tame, h.due, h.said⟩
  | letsGo hother => cases hsame hother; exact ⟨_, rfl, h.candid, h.tame, h.due, h.said⟩

/-- Supervised tasks are in good order, and what is said about them is so. -/
structure Truthful (s : Service (Invocation Row R)) : Prop where
  serviceable : s.Serviceable
  vouches : ∀ i task view, s.worker.task? i = some task → task.supervision = some view →
    Vouches task.job view

theorem Truthful.step (h : s.Truthful) (hmove : HandsOver s move) (hcancels : OnlyCancels s move)
    (hstep : s.step? Invocation.act? move = some s') : s'.Truthful := by
  refine ⟨h.serviceable.step hmove hstep, ?_⟩
  refine forall_view_of_step (P := fun _ _ task view => Vouches task.job view) ?_ ?_ hstep
    h.vouches
  · intro i task task' view entries htask hview hvouches ht
    exact hvouches.touches (h.serviceable i task view htask hview) hview hcancels ht
  · intro id job hnew
    obtain ⟨hjob, hreason⟩ : job.HandedOver ∧
        (job.session.reason = none ∨ job.session.reason = some .cancelled) := by
      rcases hnew with rfl | rfl
      · exact ⟨hmove, hcancels⟩
      · exact ⟨hmove, hcancels⟩
    obtain ⟨hmarked, hp⟩ := hjob.marked
    exact ⟨hmarked.candid hp, hreason.imp_right Or.inl, nofun, trivial⟩

theorem truthful_start (settings : WorkerSettings) :
    (start settings : Service (Invocation Row R)).Truthful := by
  refine ⟨serviceable_start settings, ?_⟩
  intro i task view htask
  rw [task?_start] at htask
  cases htask

/-! ## Where a failure comes from -/

/-- The scan of a supervised task fails with this error. -/
def FailsAt (i : Nat) (error : ScanError) (s : Service (Invocation Row R)) : Prop :=
  ∃ task view, s.worker.task? i = some task ∧ task.supervision = some view ∧
    task.job.phase.Fails task.job.stream.scan.plan.statement error

/-- The move with which a scan comes to fail: its source returns a failure. -/
theorem returns_of_fails (h : s.Serviceable) (hmove : HandsOver s move)
    (hstep : s.step? Invocation.act? move = some s') {error : ScanError}
    (hbefore : ¬ FailsAt i error s) (hafter : FailsAt i error s') :
    ∃ task failure, s.worker.task? i = some task ∧
      move = .act i (.scan (.conclude (.failed failure))) ∧
      task.job.stream.scan.Returns failure error := by
  obtain ⟨task', view', htask', hview', hfails⟩ := hafter
  cases htask : s.worker.task? i with
  | none =>
      obtain ⟨-, -, hnone | ⟨id, job, hnew, rfl⟩⟩ := new_of_step hstep htask htask'
      · exact nomatch hnone.symm.trans hview'
      · have hp : job.phase = .queued := by
          rcases hnew with rfl | rfl
          · exact (Invocation.HandedOver.marked hmove).2
          · exact (Invocation.HandedOver.marked hmove).2
        rw [hp] at hfails
        cases hfails
  | some task =>
      obtain ⟨entries, after, -, hafter, htouches⟩ := touches_of_step hstep htask
      cases htask'.symm.trans hafter
      cases hview : task.supervision with
      | none => exact nomatch (htouches.unsupervised hview).symm.trans hview'
      | some view =>
      have hserves := h i task view htask hview
      have hcalm : ¬ task.job.phase.Fails task.job.stream.scan.plan.statement error :=
        fun hf => hbefore ⟨task, view, htask, hview, hf⟩
      cases htouches with
      | @acts m job hact =>
          have hstep' := (Invocation.step?_of_act? hact).1
          rcases hserves.marked.coherent.fails_cases hstep' hfails with hf | ⟨failure, rfl, hreturns⟩
          · exact absurd hf hcalm
          · exact ⟨task, failure, rfl, rfl, hreturns⟩
      | @supervised other view' free failures job hother hsup =>
          cases hview.symm.trans hother
          cases hsup with
          | launches hs =>
              have hpace := hserves.pace
              rw [hs] at hpace
              have hbegin := (hserves.marked.begin hpace).1
              rcases hserves.marked.coherent.fails_cases hbegin hfails with hf | ⟨failure, ⟨⟩, -⟩
              exact absurd hf hcalm
          | @fails ending failure =>
              cases ending with
              | raised text => exact absurd hfails hcalm
              | _ => exact absurd hfails hcalm
          | _ => exact absurd hfails hcalm
      | _ => exact absurd hfails hcalm

end

/-! ## Final statuses -/

section
variable {s : Service (Invocation Row R)} {settings : WorkerSettings}
  {moves : List (WorkerMove (Invocation Row R) (Move Row))} {i : Nat}
  {task : Task (Invocation Row R)} {view : Supervision}

/-- Whatever the sources, the consumers and the callers do and in whatever order,
as long as whoever is not a scan closes sessions only by cancelling: what a final
status says is so. -/
theorem status_sound (hplay : play? (step? Invocation.act?) (start settings) moves = some s)
    (halong : Along (step? Invocation.act?) HandsOver (start settings) moves)
    (hcancels : Along (step? Invocation.act?) OnlyCancels (start settings) moves)
    (htask : s.worker.task? i = some task) (hview : task.supervision = some view) :
    (view.status = .completed → ∃ values : List R,
      task.job.ledger.enqueued = values.map .value ++ [.finish] ∧
        task.job.ledger.handed.map task.job.stream.scan.plan.result = values.map .ok) ∧
    (∀ reason, view.status = .closed reason →
      task.job.session.reason = some reason ∧ reason ≠ .cancelled ∧
        .finish ∉ task.job.ledger.enqueued) ∧
    (∀ message, view.status = .failed message → task.job.session.isClosed = true ∧
      ((∃ failure error early late before known,
          moves = early ++ .act i (.scan (.conclude (.failed failure))) :: late ∧
          play? (step? Invocation.act?) (start settings) early = some before ∧
          before.worker.task? i = some known ∧ known.job.stream.scan.Returns failure error ∧
          message = error.text) ∨
        ∃ text, task.job.phase = .ended (.raised text) ∧ message = (raisedFailure text).text)) ∧
    (view.status = .cancelled → task.job.session.reason = some .cancelled) := by
  have htruthful : s.Truthful :=
    (halong.and hcancels).preserves (P := Truthful)
      (fun h hmove hstep => h.step hmove.1 hmove.2 hstep) (truthful_start settings) hplay
  have h := htruthful.vouches i task view htask hview
  have hsaid := h.said
  refine ⟨?_, ?_, ?_, ?_⟩
  · intro hstatus
    rw [hstatus] at hsaid
    exact h.candid.coherent.kept.accounts.complete hsaid
  · intro reason hstatus
    rw [hstatus] at hsaid
    exact ⟨hsaid.1, hsaid.2, h.tame.finish_notMem hsaid.1 hsaid.2⟩
  · intro message hstatus
    rw [hstatus] at hsaid
    obtain ⟨hc, ending, failure, hp, hfailure, rfl⟩ := hsaid
    refine ⟨hc, ?_⟩
    cases ending with
    | ok => cases hfailure
    | raised text =>
        cases hfailure
        exact Or.inr ⟨text, hp, rfl⟩
    | failed error =>
        obtain rfl : error = failure := Option.some.inj hfailure
        have hfails : FailsAt i error s := by
          refine ⟨task, view, htask, hview, ?_⟩
          rw [hp]
          rfl
        have hcalm : ¬ FailsAt i error (start settings : Service (Invocation Row R)) := by
          rintro ⟨task, view, htask, -⟩
          rw [task?_start] at htask
          cases htask
        obtain ⟨early, turn, late, before, after, rfl, hearly, hturn, hmove, hbefore, hne, heq⟩ :=
          halong.exists_turn (I := Serviceable) (fun h hmove hstep => h.step hmove hstep)
            (serviceable_start settings) hplay hcalm hfails
        obtain ⟨known, returned, hknown, rfl, hreturns⟩ :=
          returns_of_fails hbefore hmove hturn hne heq
        exact Or.inl ⟨returned, error, early, late, before, known, rfl, hearly, hknown, hreturns, rfl⟩
  · intro hstatus
    rw [hstatus] at hsaid
    exact hsaid

end

/-- The source of a stream fails while the stream is read, and the supervisor
looks at it and writes the status. -/
def brokenQuery : List (WorkerMove (Invocation Nat Nat) (Move Nat)) :=
  [.submit "scan" firstPoll, .deposit 0, .supervise 0, .supervise 0, .supervise 0,
    .act 0 (.scan (.conclude (.failed (.plain .queryFailed "division by zero")))),
    .act 0 (.scan (.advance false)), .supervise 0, .supervise 0]

theorem status_sound_of_broken_query :
    ∃ (s : Service (Invocation Nat Nat)) (task : Task (Invocation Nat Nat)) (view : Supervision)
      (message : String),
      play? (step? Invocation.act?) (start ⟨none, .ofMillis 10, false⟩) brokenQuery = some s ∧
      s.worker.task? 0 = some task ∧ task.supervision = some view ∧
      view.status = .failed message ∧ task.job.session.isClosed = true ∧
      ∃ failure error early late before known,
        brokenQuery = early ++ .act 0 (.scan (.conclude (.failed failure))) :: late ∧
        play? (step? Invocation.act?) (start ⟨none, .ofMillis 10, false⟩) early = some before ∧
        before.worker.task? 0 = some known ∧ known.job.stream.scan.Returns failure error ∧
        message = error.text := by
  refine ⟨_, _, _, _, rfl, rfl, rfl, rfl, rfl, ?_⟩
  have hrest : ∀ move ∈ brokenQuery.tail, bringsJob move = false := by decide
  have halong : Along (step? Invocation.act?) HandsOver (start ⟨none, .ofMillis 10, false⟩)
      brokenQuery := by
    refine ⟨firstPoll_handedOver, Along.of_forall ?_ _⟩
    exact fun move hmove => handsOver_of_not_bringsJob (hrest move hmove)
  have hcancels : Along (step? Invocation.act?) OnlyCancels (start ⟨none, .ofMillis 10, false⟩)
      brokenQuery := by
    decide
  rcases ((@status_sound _ _ _ ⟨none, .ofMillis 10, false⟩ brokenQuery 0 _ _ rfl halong hcancels
    rfl rfl).2.2.1 _ rfl).2 with hreturned | ⟨text, hp, -⟩
  · exact hreturned
  · cases hp

end RowBridge.Schedule.Service
