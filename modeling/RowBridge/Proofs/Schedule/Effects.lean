/-
# `RowBridge.Proofs.Schedule.Effects` — what one move does to tasks and calls

A service makes fourteen kinds of moves, but little can happen to any one task or
call.

* `Touches` lists what a move can do to a task, and what is noted about it: its
  job changes, or its supervisor makes a step, or its handle is laid ready, taken
  or let go, or it leaves the table.
* `Turns` lists what a move can do to the calls: none changes, or one is made, or
  one of them goes on by a rule of `Call.Moves`.
* A move that enters a task does nothing else (`tasks_of_step`).
* Apart from tasks and calls, few moves change anything (`terms_of_step`).

Everything about services is proved from these four.
-/
import RowBridge.Proofs.Schedule.Service

namespace RowBridge.Schedule

variable {J μ : Type}

/-! ## What a move does to a task -/

namespace Service

section
variable [ScanJob J]

/-- What one move does to a task the worker knows, and what is noted about it. -/
inductive Touches (act? : J → μ → Option J) (s : Service J) (i : Nat) (task : Task J) :
    WorkerMove J μ → List Entry → Task J → Prop
  | leaves {move : WorkerMove J μ} {entries : List Entry} :
      (∀ entry ∈ entries, entry.task? ≠ some i) → Touches act? s i task move entries task
  | acts {m : μ} {job : J} : act? task.job m = some job →
      Touches act? s i task (.act i m) [] { task with job := job }
  | closes {reason : ClosureReason} :
      Touches act? s i task (.close i reason) []
        { task with job := ScanJob.close task.job reason }
  | cancels :
      Touches act? s i task (.cancel i) [.called s.worker.calls.length .cancel [i]]
        { task with job := ScanJob.close task.job .cancelled }
  | supervised {view view' : Supervision} {free : Nat} {failures : Broadcast TaskFailure} {job : J} :
      task.supervision = some view → s.worker.Supervises task view free failures job view' →
      Touches act? s i task (.supervise i) (s.worker.judgement i)
        { task with job := job, supervision := some view' }
  | lays {view : Supervision} : task.supervision = some view →
      Touches act? s i task (.deposit i) [.laid i]
        { task with supervision := some { view with handle := true } }
  | prunes {view : Supervision} : task.supervision = some view →
      Touches act? s i task (.prune i) []
        { task with
          supervision := some { view with tracked := view.tracked && !view.status.isFinished } }
  | takes {view : Supervision} {k : Nat} {expired locked : Bool} : task.supervision = some view →
      Touches act? s i task (.wait k expired) [.took k i]
        { task with supervision := some { view with handle := false, locked := locked } }
  | sees {view : Supervision} {k : Nat} {expired locked : Bool} : task.supervision = some view →
      view.stage = .ended →
      Touches act? s i task (.wait k expired) [.sawEnd k i]
        { task with supervision := some { view with locked := locked } }
  | letsGo {view : Supervision} {move : WorkerMove J μ} {entry : Entry} {locked : Bool} :
      task.supervision = some view → entry.task? ≠ some i →
      Touches act? s i task move [entry]
        { task with supervision := some { view with locked := locked } }

/-- A task that was turned away is never supervised. -/
theorem Touches.unsupervised {act? : J → μ → Option J} {s : Service J} {i : Nat}
    {task task' : Task J} {move : WorkerMove J μ} {entries : List Entry}
    (h : Touches act? s i task move entries task') (hnone : task.supervision = none) :
    task'.supervision = none := by
  cases h with
  | leaves => exact hnone
  | acts => exact hnone
  | closes => exact hnone
  | cancels => exact hnone
  | supervised hview => exact nomatch hnone.symm.trans hview
  | lays hview => exact nomatch hnone.symm.trans hview
  | prunes hview => exact nomatch hnone.symm.trans hview
  | takes hview => exact nomatch hnone.symm.trans hview
  | sees hview => exact nomatch hnone.symm.trans hview
  | letsGo hview => exact nomatch hnone.symm.trans hview

/-- What is done to a supervised task is a step of its supervisor, or changes
neither the stage of the supervisor nor the status. -/
theorem Touches.view_cases {act? : J → μ → Option J} {s : Service J} {i : Nat}
    {task task' : Task J} {move : WorkerMove J μ} {entries : List Entry}
    (h : Touches act? s i task move entries task') {view : Supervision}
    (hview : task.supervision = some view) :
    ∃ view', task'.supervision = some view' ∧
      ((move = .supervise i ∧
          ∃ free failures, s.worker.Supervises task view free failures task'.job view') ∨
        (view'.stage = view.stage ∧ view'.status = view.status)) := by
  have hsame : ∀ {other : Supervision}, task.supervision = some other → other = view := by
    intro other hother
    exact Option.some.inj (hother.symm.trans hview)
  cases h with
  | leaves => exact ⟨view, hview, Or.inr ⟨rfl, rfl⟩⟩
  | acts => exact ⟨view, hview, Or.inr ⟨rfl, rfl⟩⟩
  | closes => exact ⟨view, hview, Or.inr ⟨rfl, rfl⟩⟩
  | cancels => exact ⟨view, hview, Or.inr ⟨rfl, rfl⟩⟩
  | supervised hother hsup => cases hsame hother; exact ⟨_, rfl, Or.inl ⟨rfl, _, _, hsup⟩⟩
  | lays hother => cases hsame hother; exact ⟨_, rfl, Or.inr ⟨rfl, rfl⟩⟩
  | prunes hother => cases hsame hother; exact ⟨_, rfl, Or.inr ⟨rfl, rfl⟩⟩
  | takes hother => cases hsame hother; exact ⟨_, rfl, Or.inr ⟨rfl, rfl⟩⟩
  | sees hother => cases hsame hother; exact ⟨_, rfl, Or.inr ⟨rfl, rfl⟩⟩
  | letsGo hother => cases hsame hother; exact ⟨_, rfl, Or.inr ⟨rfl, rfl⟩⟩

/-- A supervised task stays in or out of the table unless it is pruned or its supervisor
ends, which take it out or do not. -/
theorem Touches.tracked_cases {act? : J → μ → Option J} {s : Service J} {i : Nat}
    {task task' : Task J} {move : WorkerMove J μ} {entries : List Entry}
    (h : Touches act? s i task move entries task') {view' : Supervision}
    (hview' : task'.supervision = some view') :
    ∃ view, task.supervision = some view ∧
      ((view'.tracked = view.tracked ∧ (view'.stage = .ended → view.stage = .ended)) ∨
        (move = .prune i ∧ view'.stage = view.stage ∧
          view'.tracked = (view.tracked && !view.status.isFinished)) ∨
        (view.stage = .leaving ∧
          view'.tracked = (view.tracked && !s.worker.settings.autoCleanup))) := by
  cases h with
  | leaves => exact ⟨view', hview', Or.inl ⟨rfl, id⟩⟩
  | acts => exact ⟨view', hview', Or.inl ⟨rfl, id⟩⟩
  | closes => exact ⟨view', hview', Or.inl ⟨rfl, id⟩⟩
  | cancels => exact ⟨view', hview', Or.inl ⟨rfl, id⟩⟩
  | supervised hview hsup =>
      cases hview'
      refine ⟨_, hview, ?_⟩
      cases hsup with
      | leaves hs => exact Or.inr (Or.inr ⟨hs, rfl⟩)
      | _ => exact Or.inl ⟨rfl, nofun⟩
  | prunes hview => cases hview'; exact ⟨_, hview, Or.inr (Or.inl ⟨rfl, rfl, rfl⟩)⟩
  | lays hview => cases hview'; exact ⟨_, hview, Or.inl ⟨rfl, id⟩⟩
  | takes hview => cases hview'; exact ⟨_, hview, Or.inl ⟨rfl, id⟩⟩
  | sees hview => cases hview'; exact ⟨_, hview, Or.inl ⟨rfl, id⟩⟩
  | letsGo hview => cases hview'; exact ⟨_, hview, Or.inl ⟨rfl, id⟩⟩

/-- A task that is in the table has always been there. -/
theorem Touches.tracked_of_tracked {act? : J → μ → Option J} {s : Service J} {i : Nat}
    {task task' : Task J} {move : WorkerMove J μ} {entries : List Entry}
    (h : Touches act? s i task move entries task') {view' : Supervision}
    (hview' : task'.supervision = some view') (htracked : view'.tracked = true) :
    ∃ view, task.supervision = some view ∧ view.tracked = true := by
  obtain ⟨view, hview, ⟨hsame, -⟩ | ⟨-, -, hpruned⟩ | ⟨-, hended⟩⟩ := h.tracked_cases hview'
  · exact ⟨view, hview, hsame.symm.trans htracked⟩
  · exact ⟨view, hview, (Bool.and_eq_true_iff.mp (hpruned.symm.trans htracked)).1⟩
  · exact ⟨view, hview, (Bool.and_eq_true_iff.mp (hended.symm.trans htracked)).1⟩

end
end Service

namespace Worker

section
variable {w : Worker J} {i j : Nat} {task : Task J}

theorem task?_onJob_self (htask : w.task? i = some task) (f : J → J) :
    (w.onJob i f).task? i = some { task with job := f task.job } := by
  rw [task?_onJob, if_pos rfl, htask]
  rfl

theorem task?_onJob_of_ne (hne : j ≠ i) (f : J → J) : (w.onJob j f).task? i = w.task? i := by
  rw [task?_onJob, if_neg hne]

theorem task?_onSupervision_self (htask : w.task? i = some task) {view : Supervision}
    (hview : task.supervision = some view) (f : Supervision → Supervision) :
    (w.onSupervision i f).task? i = some { task with supervision := some (f view) } := by
  rw [task?_onSupervision, if_pos rfl, htask, Option.map_some, hview, Option.map_some]

theorem task?_onSupervision_of_ne (hne : j ≠ i) (f : Supervision → Supervision) :
    (w.onSupervision j f).task? i = w.task? i := by
  rw [task?_onSupervision, if_neg hne]

/-- What the worker keeps nothing about does not change with what it keeps. -/
theorem task?_onSupervision_unknown (htask : w.task? i = some task) (hj : w.supervision? j = none)
    (f : Supervision → Supervision) : (w.onSupervision j f).task? i = some task := by
  rw [task?_onSupervision]
  split
  next hji =>
    rw [hji, supervision?, htask] at hj
    have hnone : task.supervision = none := hj
    rw [htask, Option.map_some, hnone, Option.map_none, ← hnone]
  next => exact htask

theorem task?_replaced (hi : w.task? i = some task) (t : Task J) (free : Nat)
    (failures : Broadcast TaskFailure) (job : J) (view : Supervision) :
    (w.replaced j t free failures job view).task? i =
      some (if j = i then { t with job := job, supervision := some view } else task) := by
  rw [replaced, task?_setTask]
  show (if j = i then (w.task? i).map _ else w.task? i) = _
  rw [hi]
  split <;> rfl

/-- A task that is entered changes none of those before. -/
theorem task?_append (htask : w.task? i = some task) (tasks : List (Task J)) :
    Worker.task? { w with tasks := w.tasks ++ tasks } i = some task := by
  have hlt : i < w.tasks.length := (List.getElem?_eq_some_iff.mp htask).1
  exact (List.getElem?_append_left hlt).trans htask

theorem supervision?_of_task? (htask : w.task? i = some task) :
    w.supervision? i = task.supervision := by
  rw [supervision?, htask]
  rfl

/-- What a worker goes by, its tasks and the calls apart: the settings, the free
slots, and whether it was told to shut down. -/
def terms (w : Worker J) : WorkerSettings × Nat × Bool := (w.settings, w.free, w.stopping)

theorem terms_onJob (w : Worker J) (i : Nat) (f : J → J) : (w.onJob i f).terms = w.terms := by
  unfold onJob
  split <;> rfl

theorem terms_onSupervision (w : Worker J) (i : Nat) (f : Supervision → Supervision) :
    (w.onSupervision i f).terms = w.terms := by
  unfold onSupervision
  split <;> rfl

theorem exists_of_isUnlocked (h : w.isUnlocked i = true) :
    ∃ view, w.supervision? i = some view ∧ view.locked = false := by
  unfold isUnlocked at h
  split at h
  · cases h
  next view hview => exact ⟨view, hview, by simpa using h⟩

theorem eq_judged_of_mem_judgement [ScanJob J] {entry : Entry} (h : entry ∈ w.judgement j) :
    ∃ reason, entry = .judged j reason := by
  unfold judgement at h
  split at h
  · split at h
    · exact ⟨_, List.mem_singleton.mp h⟩
    · cases h
  · cases h

end
end Worker

namespace Service

section
variable [ScanJob J] {act? : J → μ → Option J} {s s' : Service J} {move : WorkerMove J μ}
  {i : Nat} {task : Task J}

/-- Another change of the tasks leaves this one as it was. -/
theorem touches_elsewhere {w : Worker J} {entries : List Entry}
    (hsame : w.task? i = some task) (hentries : ∀ entry ∈ entries, entry.task? ≠ some i) :
    ∃ entries' task', (⟨w, s.log ++ entries⟩ : Service J).log = s.log ++ entries' ∧
      w.task? i = some task' ∧ Touches act? s i task move entries' task' :=
  ⟨entries, task, rfl, hsame, .leaves hentries⟩

/-- A move that has to do with another task, or with none, and what is noted about
it. -/
theorem touches_apart {w : Worker J} {entry : Entry} (hsame : w.task? i = some task)
    (hentry : entry.task? ≠ some i) :
    ∃ entries' task', (⟨w, s.log ++ [entry]⟩ : Service J).log = s.log ++ entries' ∧
      w.task? i = some task' ∧ Touches act? s i task move entries' task' :=
  touches_elsewhere hsame (List.forall_mem_singleton.mpr hentry)

/-- A change of what the worker keeps about a task, with what is noted about it. -/
theorem touches_noting {w : Worker J} {j : Nat} {view : Supervision} {entry : Entry}
    {f : Supervision → Supervision} (htask : s.worker.task? i = some task)
    (hview : s.worker.supervision? j = some view)
    (hw : w.task? i = (s.worker.onSupervision j f).task? i)
    (hentry : j ≠ i → entry.task? ≠ some i)
    (hself : j = i → task.supervision = some view →
      Touches act? s i task move [entry] { task with supervision := some (f view) }) :
    ∃ entries' task', (⟨w, s.log ++ [entry]⟩ : Service J).log = s.log ++ entries' ∧
      w.task? i = some task' ∧ Touches act? s i task move entries' task' := by
  by_cases hji : j = i
  · subst hji
    rw [Worker.supervision?_of_task? htask] at hview
    exact ⟨_, _, rfl, hw.trans (Worker.task?_onSupervision_self htask hview f), hself rfl hview⟩
  · exact touches_apart (hw.trans ((Worker.task?_onSupervision_of_ne hji f).trans htask)) (hentry hji)

/-- Every move does one of these things to a task. -/
theorem touches_of_step (hstep : s.step? act? move = some s') (htask : s.worker.task? i = some task) :
    ∃ entries task', s'.log = s.log ++ entries ∧ s'.worker.task? i = some task' ∧
      Touches act? s i task move entries task' := by
  have hsilent : s.log = s.log ++ [] := (List.append_nil _).symm
  have hnone : ∀ entry ∈ ([] : List Entry), entry.task? ≠ some i := fun entry h => nomatch h
  cases move with
  | submit id job =>
      cases hstep
      refine ⟨[], task, hsilent, ?_, .leaves hnone⟩
      show (s.worker.submit id job).task? i = some task
      unfold Worker.submit
      split
      · exact Worker.task?_append htask _
      · exact Worker.task?_append htask _
  | enter id job =>
      cases hstep
      exact ⟨[], task, hsilent, Worker.task?_append htask _, .leaves hnone⟩
  | deposit j =>
      obtain ⟨hmay, ⟨⟩⟩ := Option.ite_none_right_eq_some.mp hstep
      obtain ⟨view, hview, hfree⟩ := Worker.exists_of_isUnlocked (Bool.and_eq_true_iff.mp hmay).1
      refine touches_noting htask hview rfl ?_ ?_
      · intro hji h
        exact hji (Option.some.inj h)
      · rintro rfl hview
        rw [if_neg (by simp [hfree])]
        exact .lays hview
  | supervise j =>
      obtain ⟨worker, hworker, rfl⟩ := Option.map_eq_some_iff.mp hstep
      obtain ⟨t, view, free, failures, job, view', ht, hview, hsup, rfl⟩ :=
        Worker.supervises_of_supervise? hworker
      have hafter := Worker.task?_replaced htask t free failures job view' (j := j)
      by_cases hji : j = i
      · subst hji
        cases htask.symm.trans ht
        rw [if_pos rfl] at hafter
        exact ⟨_, _, rfl, hafter, .supervised hview hsup⟩
      · rw [if_neg hji] at hafter
        refine touches_elsewhere hafter ?_
        intro entry hentry h
        obtain ⟨reason, rfl⟩ := Worker.eq_judged_of_mem_judgement hentry
        exact hji (Option.some.inj h)
  | act j m =>
      obtain ⟨job, hjob, rfl⟩ := Option.map_eq_some_iff.mp hstep
      by_cases hji : j = i
      · subst hji
        rw [htask] at hjob
        exact ⟨[], _, hsilent, Worker.task?_onJob_self htask _, .acts hjob⟩
      · exact ⟨[], task, hsilent, (Worker.task?_onJob_of_ne hji _).trans htask, .leaves hnone⟩
  | close j reason =>
      cases hstep
      by_cases hji : j = i
      · subst hji
        exact ⟨[], _, hsilent, Worker.task?_onJob_self htask _, .closes⟩
      · exact ⟨[], task, hsilent, (Worker.task?_onJob_of_ne hji _).trans htask, .leaves hnone⟩
  | prune j =>
      cases hstep
      cases hview : s.worker.supervision? j with
      | none =>
          exact ⟨[], task, hsilent, Worker.task?_onSupervision_unknown htask hview _, .leaves hnone⟩
      | some view =>
          by_cases hji : j = i
          · subst hji
            rw [Worker.supervision?_of_task? htask] at hview
            exact ⟨[], _, hsilent, Worker.task?_onSupervision_self htask hview _, .prunes hview⟩
          · exact ⟨[], task, hsilent, (Worker.task?_onSupervision_of_ne hji _).trans htask,
              .leaves hnone⟩
  | stop =>
      cases hstep
      exact ⟨[], task, hsilent, htask, .leaves hnone⟩
  | join j =>
      obtain ⟨-, ⟨⟩⟩ := Option.ite_none_right_eq_some.mp hstep
      exact touches_apart htask nofun
  | cancel j =>
      obtain ⟨-, ⟨⟩⟩ := Option.ite_none_right_eq_some.mp hstep
      by_cases hji : j = i
      · subst hji
        exact ⟨_, _, rfl, Worker.task?_onJob_self htask _, .cancels⟩
      · exact touches_apart ((Worker.task?_onJob_of_ne hji _).trans htask) nofun
  | shutdown tasks =>
      obtain ⟨-, ⟨⟩⟩ := Option.ite_none_right_eq_some.mp hstep
      exact touches_apart htask nofun
  | wait k expired =>
      obtain ⟨worker, hworker, rfl⟩ := Option.map_eq_some_iff.mp hstep
      obtain ⟨call, j, rest, entry, -, -, hwaited, hwaits⟩ := Worker.waits_of_wait? hworker
      rw [hwaited]
      have hother : ∀ {entry : Entry}, entry.task? = some j → j ≠ i → entry.task? ≠ some i := by
        intro entry hj hji h
        exact hji (Option.some.inj (hj.symm.trans h))
      cases hwaits with
      | unknown => exact touches_apart htask nofun
      | misses => exact touches_apart htask nofun
      | takes hview =>
          refine touches_noting htask hview rfl (hother rfl) ?_
          rintro rfl hview
          exact .takes hview
      | sees hview _ hended =>
          refine touches_noting htask hview rfl (hother rfl) ?_
          rintro rfl hview
          exact .sees hview hended
      | givesUp hview =>
          refine touches_noting htask hview rfl (fun _ => nofun) ?_
          rintro rfl hview
          exact .letsGo hview nofun
  | abandon k =>
      obtain ⟨hover, ⟨⟩⟩ := Option.ite_none_left_eq_some.mp hstep
      obtain ⟨call, j, rest, -, -, habandon⟩ := Worker.abandon_cases (by simpa using hover)
      rw [habandon]
      split
      · cases hview : s.worker.supervision? j with
        | none => exact touches_apart (Worker.task?_onSupervision_unknown htask hview _) nofun
        | some view =>
            refine touches_noting htask hview rfl (fun _ => nofun) ?_
            rintro rfl hview
            exact .letsGo hview nofun
      · exact touches_apart htask nofun
  | answer k j =>
      obtain ⟨-, hstep⟩ := Option.ite_none_right_eq_some.mp hstep
      obtain ⟨view, -, rfl⟩ := Option.map_eq_some_iff.mp hstep
      exact touches_apart htask nofun

end

/-! ## What a move does to the calls -/

/-- What an entry about a call says was so when it was made. -/
def Warranted (s : Service J) : Entry → Prop
  | .missed _ i => ∃ view, s.worker.supervision? i = some view ∧ view.handle = false
  | .sawEnd _ i => ∃ view, s.worker.supervision? i = some view ∧ view.stage = .ended
  | .answered k i status => .called k .join [i] ∈ s.log ∧ .dropped k ∉ s.log ∧
      ∃ view, s.worker.supervision? i = some view ∧ view.status = status
  | _ => True

/-- What one move does to the calls, and what is noted about it. -/
inductive Turns (s : Service J) : List Call → List Entry → Prop
  | aside {entries : List Entry} : (∀ entry ∈ entries, entry.call? = none) →
      Turns s s.worker.calls entries
  | makes {purpose : Purpose} {tasks : List Nat} : tasks.Nodup →
      (∀ i ∈ tasks, s.worker.isAccepted i = true) →
      Turns s (s.worker.calls ++ [⟨purpose, tasks, false⟩])
        [.called s.worker.calls.length purpose tasks]
  | goesOn {k : Nat} {call call' : Call} {entry : Entry} : s.worker.calls[k]? = some call →
      call.Moves k entry call' → s.Warranted entry → Turns s (s.worker.calls.set k call') [entry]

/-- The calls that were made, and the tasks they wait for, are known to the
worker. -/
structure Known (s : Service J) : Prop where
  made : ∀ entry ∈ s.log, ∀ k, entry.call? = some k → k < s.worker.calls.length
  awaited : ∀ (k : Nat) (call : Call), s.worker.calls[k]? = some call →
    ∀ i ∈ call.remaining, s.worker.isAccepted i = true

theorem nodup_trackedPositions (w : Worker J) : w.trackedPositions.Nodup :=
  List.nodup_range.filter _

theorem mem_trackedPositions {w : Worker J} {i : Nat} :
    i ∈ w.trackedPositions ↔ ∃ view, w.supervision? i = some view ∧ view.tracked = true := by
  refine List.mem_filter.trans ⟨?_, ?_⟩
  · rintro ⟨-, htracked⟩
    cases hview : w.supervision? i with
    | none => rw [hview] at htracked; cases htracked
    | some view => rw [hview] at htracked; exact ⟨view, rfl, htracked⟩
  · rintro ⟨view, hview, htracked⟩
    rw [hview]
    exact ⟨List.mem_range.mpr (Worker.lt_length_of_supervision? hview), htracked⟩

theorem isAccepted_of_mem_trackedPositions {w : Worker J} {i : Nat}
    (h : i ∈ w.trackedPositions) : w.isAccepted i = true := by
  obtain ⟨view, hview, -⟩ := mem_trackedPositions.mp h
  exact Option.isSome_iff_exists.mpr ⟨view, hview⟩

/-- A step of a call that waits is one of the moves of a call. -/
theorem turns_of_waits {s : Service J} (hknown : s.Known) {expired : Bool} {k i : Nat} {call : Call}
    {rest : List Nat} {entry : Entry} {worker : Worker J} (hcall : s.worker.calls[k]? = some call)
    (hrest : call.remaining = i :: rest)
    (h : Worker.Waits expired s.worker k call i rest entry worker) :
    s.Turns worker.calls [entry] := by
  cases h with
  | unknown hview =>
      have haccepted := hknown.awaited k call hcall i (hrest ▸ List.mem_cons_self)
      rw [Worker.isAccepted, hview] at haccepted
      cases haccepted
  | misses hview hholding hhandle =>
      exact .goesOn hcall (.misses hrest hholding) ⟨_, hview, hhandle⟩
  | takes hview hholding =>
      rw [Worker.calls_taken]
      exact .goesOn hcall (.takes hrest hholding) trivial
  | sees hview hholding hended =>
      rw [Worker.calls_letGo]
      exact .goesOn hcall (.sees hrest hholding) ⟨_, hview, hended⟩
  | givesUp hview hholding _ htimed =>
      rw [Worker.calls_letGo]
      exact .goesOn hcall (.givesUp hrest hholding htimed) trivial

section
variable [ScanJob J] {act? : J → μ → Option J} {s s' : Service J} {move : WorkerMove J μ}

/-- Every move does one of these things to the calls. -/
theorem turns_of_step (hknown : s.Known) (hstep : s.step? act? move = some s') :
    ∃ entries, s'.log = s.log ++ entries ∧ s.Turns s'.worker.calls entries := by
  have hsilent : s.log = s.log ++ [] := (List.append_nil _).symm
  have haside : s.Turns s.worker.calls [] := .aside fun entry h => nomatch h
  cases move with
  | submit id job =>
      cases hstep
      refine ⟨[], hsilent, ?_⟩
      show s.Turns (s.worker.submit id job).calls []
      unfold Worker.submit
      split
      · exact haside
      · exact haside
  | enter id job => cases hstep; exact ⟨[], hsilent, haside⟩
  | deposit j =>
      obtain ⟨-, ⟨⟩⟩ := Option.ite_none_right_eq_some.mp hstep
      refine ⟨_, rfl, ?_⟩
      show s.Turns (s.worker.onSupervision j _).calls _
      rw [Worker.calls_onSupervision]
      exact .aside (List.forall_mem_singleton.mpr rfl)
  | supervise j =>
      obtain ⟨worker, hworker, rfl⟩ := Option.map_eq_some_iff.mp hstep
      obtain ⟨t, view, free, failures, job, view', -, -, -, rfl⟩ :=
        Worker.supervises_of_supervise? hworker
      refine ⟨_, rfl, .aside ?_⟩
      intro entry hentry
      obtain ⟨reason, rfl⟩ := Worker.eq_judged_of_mem_judgement hentry
      rfl
  | act j m =>
      obtain ⟨job, -, rfl⟩ := Option.map_eq_some_iff.mp hstep
      refine ⟨[], hsilent, ?_⟩
      rw [Worker.calls_onJob]
      exact haside
  | close j reason =>
      cases hstep
      refine ⟨[], hsilent, ?_⟩
      show s.Turns (s.worker.onJob j _).calls []
      rw [Worker.calls_onJob]
      exact haside
  | prune j =>
      cases hstep
      refine ⟨[], hsilent, ?_⟩
      show s.Turns (s.worker.onSupervision j _).calls []
      rw [Worker.calls_onSupervision]
      exact haside
  | stop => cases hstep; exact ⟨[], hsilent, haside⟩
  | join j =>
      obtain ⟨haccepted, ⟨⟩⟩ := Option.ite_none_right_eq_some.mp hstep
      exact ⟨_, rfl, .makes (List.pairwise_singleton _ j) (List.forall_mem_singleton.mpr haccepted)⟩
  | cancel j =>
      obtain ⟨haccepted, ⟨⟩⟩ := Option.ite_none_right_eq_some.mp hstep
      refine ⟨_, rfl, ?_⟩
      show s.Turns ((s.worker.onJob j _).calls ++ _) _
      rw [Worker.calls_onJob]
      exact .makes (List.pairwise_singleton _ j) (List.forall_mem_singleton.mpr haccepted)
  | shutdown tasks =>
      obtain ⟨hperm, ⟨⟩⟩ := Option.ite_none_right_eq_some.mp hstep
      refine ⟨_, rfl, .makes (hperm.nodup_iff.mpr (nodup_trackedPositions _)) ?_⟩
      intro j hj
      exact isAccepted_of_mem_trackedPositions (hperm.mem_iff.mp hj)
  | wait k expired =>
      obtain ⟨worker, hworker, rfl⟩ := Option.map_eq_some_iff.mp hstep
      obtain ⟨call, j, rest, entry, hcall, hrest, hwaited, hwaits⟩ := Worker.waits_of_wait? hworker
      exact ⟨_, congrArg _ hwaited, turns_of_waits hknown hcall hrest hwaits⟩
  | abandon k =>
      obtain ⟨hover, ⟨⟩⟩ := Option.ite_none_left_eq_some.mp hstep
      obtain ⟨call, j, rest, hcall, hrest, habandon⟩ :=
        Worker.abandon_cases (by simpa using hover)
      refine ⟨_, rfl, ?_⟩
      rw [habandon, apply_ite Worker.calls, Worker.calls_letGo, Worker.calls_passOn, ite_self]
      exact .goesOn hcall (.drops hrest) trivial
  | answer k j =>
      obtain ⟨hmay, hstep⟩ := Option.ite_none_right_eq_some.mp hstep
      obtain ⟨view, hview, rfl⟩ := Option.map_eq_some_iff.mp hstep
      obtain ⟨hnoted, hover⟩ := Bool.and_eq_true_iff.mp hmay
      obtain ⟨hcalled, hkept⟩ := Bool.and_eq_true_iff.mp hnoted
      have hcalled : .called k .join [j] ∈ s.log := by simpa using hcalled
      have hlt := hknown.made _ hcalled k rfl
      have hcall : s.worker.calls[k]? = some s.worker.calls[k] := List.getElem?_eq_getElem hlt
      have hsame : s.worker.calls.set k s.worker.calls[k] = s.worker.calls :=
        List.set_getElem_self hlt
      rw [Worker.isOver, hcall] at hover
      refine ⟨_, rfl, ?_⟩
      show s.Turns s.worker.calls _
      rw [← hsame]
      exact .goesOn hcall (.answers (List.isEmpty_iff.mp hover))
        ⟨hcalled, by simpa using hkept, view, hview, rfl⟩

end

/-! ## What a move leaves alone -/

section
variable [ScanJob J] {act? : J → μ → Option J} {s s' : Service J} {move : WorkerMove J μ}

/-- The settings never change, only supervisors take slots and give them back, and
a worker that was told to shut down is never told otherwise. -/
theorem terms_of_step (hstep : s.step? act? move = some s') :
    s'.worker.settings = s.worker.settings ∧
      (s'.worker.free = s.worker.free ∨ ∃ i, move = .supervise i) ∧
      (s.worker.stopping = true → s'.worker.stopping = true) := by
  have hsame : ∀ {w : Worker J}, w.terms = s.worker.terms →
      w.settings = s.worker.settings ∧ (w.free = s.worker.free ∨ ∃ i, move = .supervise i) ∧
        (s.worker.stopping = true → w.stopping = true) := by
    intro w hterms
    obtain ⟨hsettings, hrest⟩ := Prod.mk.inj hterms
    obtain ⟨hfree, hstopping⟩ := Prod.mk.inj hrest
    exact ⟨hsettings, Or.inl hfree, hstopping.trans⟩
  cases move with
  | submit id job =>
      cases hstep
      refine hsame ?_
      show (s.worker.submit id job).terms = _
      unfold Worker.submit
      split <;> rfl
  | enter id job => cases hstep; exact hsame rfl
  | deposit j =>
      obtain ⟨-, ⟨⟩⟩ := Option.ite_none_right_eq_some.mp hstep
      exact hsame (Worker.terms_onSupervision _ _ _)
  | supervise j =>
      obtain ⟨worker, hworker, rfl⟩ := Option.map_eq_some_iff.mp hstep
      obtain ⟨t, view, free, failures, job, view', -, -, -, rfl⟩ :=
        Worker.supervises_of_supervise? hworker
      exact ⟨rfl, Or.inr ⟨j, rfl⟩, id⟩
  | act j m =>
      obtain ⟨job, -, rfl⟩ := Option.map_eq_some_iff.mp hstep
      exact hsame (Worker.terms_onJob _ _ _)
  | close j reason => cases hstep; exact hsame (Worker.terms_onJob _ _ _)
  | prune j => cases hstep; exact hsame (Worker.terms_onSupervision _ _ _)
  | stop => cases hstep; exact ⟨rfl, Or.inl rfl, fun _ => rfl⟩
  | join j =>
      obtain ⟨-, ⟨⟩⟩ := Option.ite_none_right_eq_some.mp hstep
      exact hsame rfl
  | cancel j =>
      obtain ⟨-, ⟨⟩⟩ := Option.ite_none_right_eq_some.mp hstep
      exact hsame (Worker.terms_onJob _ _ _)
  | shutdown tasks =>
      obtain ⟨-, ⟨⟩⟩ := Option.ite_none_right_eq_some.mp hstep
      exact hsame rfl
  | wait k expired =>
      obtain ⟨worker, hworker, rfl⟩ := Option.map_eq_some_iff.mp hstep
      obtain ⟨call, j, rest, entry, -, -, -, hwaits⟩ := Worker.waits_of_wait? hworker
      cases hwaits with
      | unknown => exact hsame rfl
      | misses => exact hsame rfl
      | _ => exact hsame (Worker.terms_onSupervision _ _ _)
  | abandon k =>
      obtain ⟨hover, ⟨⟩⟩ := Option.ite_none_left_eq_some.mp hstep
      obtain ⟨call, j, rest, -, -, habandon⟩ := Worker.abandon_cases (by simpa using hover)
      rw [habandon]
      split
      · exact hsame (Worker.terms_onSupervision _ _ _)
      · exact hsame rfl
  | answer k j =>
      obtain ⟨-, hstep⟩ := Option.ite_none_right_eq_some.mp hstep
      obtain ⟨view, -, rfl⟩ := Option.map_eq_some_iff.mp hstep
      exact hsame rfl

end

/-! ## New tasks -/

section
variable [ScanJob J] {act? : J → μ → Option J} {s s' : Service J} {move : WorkerMove J μ}

/-- What a job that is handed over becomes: it is turned away, its session
closed, or it waits for its supervisor. -/
def Newcomer (move : WorkerMove J μ) (task : Task J) : Prop :=
  (∃ id job, move = .submit id job ∧ task = ⟨id, ScanJob.close job .cancelled, none⟩) ∨
    ∃ id job, (move = .submit id job ∨ move = .enter id job) ∧ task = ⟨id, job, some .fresh⟩

/-- A job handed over comes last, and nothing is noted then; no other move makes
the tasks more or fewer, and what is noted is about tasks that are there. -/
theorem tasks_of_step (hstep : s.step? act? move = some s') :
    (∃ task, s'.worker.tasks = s.worker.tasks ++ [task] ∧ s'.log = s.log ∧ Newcomer move task) ∨
      (s'.worker.tasks.length = s.worker.tasks.length ∧ ∃ entries, s'.log = s.log ++ entries ∧
        ∀ entry ∈ entries, ∀ i, entry.task? = some i → i < s.worker.tasks.length) := by
  have hsilent : ∃ entries, s.log = s.log ++ entries ∧
      ∀ entry ∈ entries, ∀ i, entry.task? = some i → i < s.worker.tasks.length :=
    ⟨[], (List.append_nil _).symm, fun entry h => nomatch h⟩
  have hnoting : ∀ (entry : Entry), (∀ i, entry.task? = some i → i < s.worker.tasks.length) →
      ∃ entries, s.log ++ [entry] = s.log ++ entries ∧
        ∀ entry ∈ entries, ∀ i, entry.task? = some i → i < s.worker.tasks.length := by
    intro entry hentry
    exact ⟨[entry], rfl, List.forall_mem_singleton.mpr hentry⟩
  have hthere : ∀ {j : Nat} {view : Supervision}, s.worker.supervision? j = some view →
      ∀ i, some j = some i → i < s.worker.tasks.length := by
    rintro j view hview i ⟨⟩
    exact Worker.lt_length_of_supervision? hview
  cases move with
  | submit id job =>
      cases hstep
      refine Or.inl ?_
      show ∃ task, (s.worker.submit id job).tasks = _ ∧ _
      unfold Worker.submit
      split
      · exact ⟨_, rfl, rfl, Or.inl ⟨id, job, rfl, rfl⟩⟩
      · exact ⟨_, rfl, rfl, Or.inr ⟨id, job, Or.inl rfl, rfl⟩⟩
  | enter id job =>
      cases hstep
      exact Or.inl ⟨_, rfl, rfl, Or.inr ⟨id, job, Or.inr rfl, rfl⟩⟩
  | deposit j =>
      obtain ⟨hmay, ⟨⟩⟩ := Option.ite_none_right_eq_some.mp hstep
      obtain ⟨view, hview, -⟩ := Worker.exists_of_isUnlocked (Bool.and_eq_true_iff.mp hmay).1
      exact Or.inr ⟨Worker.length_onSupervision _ _ _, hnoting _ (hthere hview)⟩
  | supervise j =>
      obtain ⟨worker, hworker, rfl⟩ := Option.map_eq_some_iff.mp hstep
      obtain ⟨t, view, free, failures, job, view', ht, hview, -, rfl⟩ :=
        Worker.supervises_of_supervise? hworker
      refine Or.inr ⟨List.length_set, _, rfl, ?_⟩
      intro entry hentry
      obtain ⟨reason, rfl⟩ := Worker.eq_judged_of_mem_judgement hentry
      exact hthere ((Worker.supervision?_of_task? ht).trans hview)
  | act j m =>
      obtain ⟨job, -, rfl⟩ := Option.map_eq_some_iff.mp hstep
      exact Or.inr ⟨Worker.length_onJob _ _ _, hsilent⟩
  | close j reason => cases hstep; exact Or.inr ⟨Worker.length_onJob _ _ _, hsilent⟩
  | prune j => cases hstep; exact Or.inr ⟨Worker.length_onSupervision _ _ _, hsilent⟩
  | stop => cases hstep; exact Or.inr ⟨rfl, hsilent⟩
  | join j =>
      obtain ⟨-, ⟨⟩⟩ := Option.ite_none_right_eq_some.mp hstep
      exact Or.inr ⟨rfl, hnoting _ nofun⟩
  | cancel j =>
      obtain ⟨-, ⟨⟩⟩ := Option.ite_none_right_eq_some.mp hstep
      exact Or.inr ⟨Worker.length_onJob _ _ _, hnoting _ nofun⟩
  | shutdown tasks =>
      obtain ⟨-, ⟨⟩⟩ := Option.ite_none_right_eq_some.mp hstep
      exact Or.inr ⟨rfl, hnoting _ nofun⟩
  | wait k expired =>
      obtain ⟨worker, hworker, rfl⟩ := Option.map_eq_some_iff.mp hstep
      obtain ⟨call, j, rest, entry, -, -, hwaited, hwaits⟩ := Worker.waits_of_wait? hworker
      rw [hwaited]
      cases hwaits with
      | unknown => exact Or.inr ⟨rfl, hnoting _ nofun⟩
      | misses => exact Or.inr ⟨rfl, hnoting _ nofun⟩
      | takes hview => exact Or.inr ⟨Worker.length_onSupervision _ _ _, hnoting _ (hthere hview)⟩
      | sees hview => exact Or.inr ⟨Worker.length_onSupervision _ _ _, hnoting _ (hthere hview)⟩
      | givesUp => exact Or.inr ⟨Worker.length_onSupervision _ _ _, hnoting _ nofun⟩
  | abandon k =>
      obtain ⟨hover, ⟨⟩⟩ := Option.ite_none_left_eq_some.mp hstep
      obtain ⟨call, j, rest, -, -, habandon⟩ := Worker.abandon_cases (by simpa using hover)
      refine Or.inr ⟨?_, hnoting _ nofun⟩
      show (s.worker.abandon k).tasks.length = _
      rw [habandon]
      split
      · exact Worker.length_onSupervision _ _ _
      · rfl
  | answer k j =>
      obtain ⟨-, hstep⟩ := Option.ite_none_right_eq_some.mp hstep
      obtain ⟨view, -, rfl⟩ := Option.map_eq_some_iff.mp hstep
      exact Or.inr ⟨rfl, hnoting _ nofun⟩

/-- A task that was not known before has just been handed over, and is the last. -/
theorem newcomer_of_step (hstep : s.step? act? move = some s') {i : Nat} {task : Task J}
    (hnew : s.worker.task? i = none) (htask : s'.worker.task? i = some task) :
    s'.log = s.log ∧ s.worker.tasks.length = i ∧ Newcomer move task := by
  have hge : s.worker.tasks.length ≤ i := List.getElem?_eq_none_iff.mp hnew
  have hlt : i < s'.worker.tasks.length := (List.getElem?_eq_some_iff.mp htask).1
  rcases tasks_of_step hstep with ⟨last, htasks, hlog, hlast⟩ | ⟨hlength, -⟩
  · have hi : s.worker.tasks.length = i := by
      rw [htasks, List.length_append, List.length_singleton] at hlt
      omega
    subst hi
    have hget : s'.worker.tasks[s.worker.tasks.length]? = some last := by
      rw [htasks]
      exact List.getElem?_concat_length
    cases htask.symm.trans hget
    exact ⟨hlog, rfl, hlast⟩
  · omega

/-- A new task is supervised unless it was turned away. -/
theorem new_of_step (hstep : s.step? act? move = some s') {i : Nat} {task : Task J}
    (hnew : s.worker.task? i = none) (htask : s'.worker.task? i = some task) :
    s'.log = s.log ∧ s.worker.tasks.length = i ∧ (task.supervision = none ∨
      ∃ id job, (move = .submit id job ∨ move = .enter id job) ∧ task = ⟨id, job, some .fresh⟩) := by
  obtain ⟨hlog, hlast, hnewcomer⟩ := newcomer_of_step hstep hnew htask
  refine ⟨hlog, hlast, hnewcomer.imp_left ?_⟩
  rintro ⟨id, job, -, rfl⟩
  rfl

/-- What holds of every task, and goes on holding of it whatever a move does to it,
holds of every task after the move if it holds of the newcomer. -/
theorem forall_task_of_step {P : List Entry → Nat → Task J → Prop}
    (htouches : ∀ {i : Nat} {task task' : Task J} {entries : List Entry},
      s.worker.task? i = some task → P s.log i task →
      Touches act? s i task move entries task' → P (s.log ++ entries) i task')
    (hnew : ∀ {task : Task J}, Newcomer move task → P s.log s.worker.tasks.length task)
    (hstep : s.step? act? move = some s')
    (h : ∀ i task, s.worker.task? i = some task → P s.log i task) :
    ∀ i task, s'.worker.task? i = some task → P s'.log i task := by
  intro i task' htask'
  cases htask : s.worker.task? i with
  | some task =>
      obtain ⟨entries, after, hlog, hafter, ht⟩ := touches_of_step hstep htask
      cases htask'.symm.trans hafter
      rw [hlog]
      exact htouches htask (h i task htask) ht
  | none =>
      obtain ⟨hlog, rfl, hnewcomer⟩ := newcomer_of_step hstep htask htask'
      rw [hlog]
      exact hnew hnewcomer

/-- The same for the supervised tasks and what the worker keeps about them. -/
theorem forall_view_of_step {P : List Entry → Nat → Task J → Supervision → Prop}
    (htouches : ∀ {i : Nat} {task task' : Task J} {view : Supervision} {entries : List Entry},
      s.worker.task? i = some task → task.supervision = some view → P s.log i task view →
      Touches act? s i task move entries task' →
      ∃ view', task'.supervision = some view' ∧ P (s.log ++ entries) i task' view')
    (hnew : ∀ {id : String} {job : J}, move = .submit id job ∨ move = .enter id job →
      P s.log s.worker.tasks.length ⟨id, job, some .fresh⟩ .fresh)
    (hstep : s.step? act? move = some s')
    (h : ∀ i task view, s.worker.task? i = some task → task.supervision = some view →
      P s.log i task view) :
    ∀ i task view, s'.worker.task? i = some task → task.supervision = some view →
      P s'.log i task view := by
  intro i task view htask hview
  refine forall_task_of_step
    (P := fun log i task => ∀ view, task.supervision = some view → P log i task view) ?_ ?_ hstep
    (fun i task htask view hview => h i task view htask hview) i task htask view hview
  · intro i task task' entries htask hbefore ht view' hview'
    cases hview : task.supervision with
    | none => exact nomatch (ht.unsupervised hview).symm.trans hview'
    | some view =>
        obtain ⟨other, hother, hafter⟩ := htouches htask hview (hbefore view hview) ht
        cases hview'.symm.trans hother
        exact hafter
  · rintro task (⟨id, job, -, rfl⟩ | ⟨id, job, hmove, rfl⟩) view hview
    · cases hview
    · cases hview
      exact hnew hmove

/-- What holds of a task, and goes on holding of it whatever is done to it, holds of
it after every schedule. -/
theorem task_of_play {i : Nat} {task : Task J} {P : List Entry → Task J → Prop}
    (htouches : ∀ {s : Service J} {move : WorkerMove J μ} {task task' : Task J}
      {entries : List Entry}, s.worker.task? i = some task → P s.log task →
      Touches act? s i task move entries task' → P (s.log ++ entries) task')
    {later : List (WorkerMove J μ)} {t : Service J} (htask : s.worker.task? i = some task)
    (h : P s.log task) (hplay : play? (step? act?) s later = some t) :
    ∃ task', t.worker.task? i = some task' ∧ P t.log task' := by
  refine play?_preserves (P := fun s : Service J =>
    ∃ task, s.worker.task? i = some task ∧ P s.log task) ?_ ⟨task, htask, h⟩ hplay
  rintro s s' move ⟨task, htask, h⟩ hstep
  obtain ⟨entries, task', hlog, htask', ht⟩ := touches_of_step hstep htask
  exact ⟨task', htask', hlog.symm ▸ htouches htask h ht⟩

/-- The same for a supervised task and what the worker keeps about it. -/
theorem view_of_play {i : Nat} {task : Task J} {view : Supervision}
    {P : J → Supervision → Prop}
    (htouches : ∀ {s : Service J} {move : WorkerMove J μ} {task task' : Task J}
      {view : Supervision} {entries : List Entry}, task.supervision = some view →
      P task.job view → Touches act? s i task move entries task' →
      ∃ view', task'.supervision = some view' ∧ P task'.job view')
    {later : List (WorkerMove J μ)} {t : Service J} (htask : s.worker.task? i = some task)
    (hview : task.supervision = some view) (h : P task.job view)
    (hplay : play? (step? act?) s later = some t) :
    ∃ task' view', t.worker.task? i = some task' ∧ task'.supervision = some view' ∧
      P task'.job view' := by
  obtain ⟨task', htask', view', hview', hlast⟩ := task_of_play
    (P := fun _ task => ∃ view, task.supervision = some view ∧ P task.job view)
    (fun _ hbefore ht => hbefore.elim fun _ h => htouches h.1 h.2 ht)
    htask ⟨view, hview, h⟩ hplay
  exact ⟨task', view', htask', hview', hlast⟩

/-- A task that is in the table after a schedule was there before. -/
theorem tracked_of_play {i : Nat} {task : Task J} {later : List (WorkerMove J μ)} {t : Service J}
    (htask : s.worker.task? i = some task) (hplay : play? (step? act?) s later = some t)
    (htracked : i ∈ t.worker.trackedPositions) : i ∈ s.worker.trackedPositions := by
  refine Decidable.byContradiction ?_
  intro hnot
  obtain ⟨view', hview', hin⟩ := mem_trackedPositions.mp htracked
  obtain ⟨task', htask', hnever⟩ := task_of_play
    (P := fun _ task => ∀ view, task.supervision = some view → view.tracked ≠ true)
    (fun _ h ht view' hview' hin => by
      obtain ⟨view, hview, hbefore⟩ := ht.tracked_of_tracked hview' hin
      exact h view hview hbefore)
    htask (fun view hview hin => hnot (mem_trackedPositions.mpr
      ⟨view, (Worker.supervision?_of_task? htask).trans hview, hin⟩)) hplay
  exact hnever view' ((Worker.supervision?_of_task? htask').symm.trans hview') hin

end
end Service
end RowBridge.Schedule
