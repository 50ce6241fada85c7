/-
# `RowBridge.Proofs.Schedule.Waiting` — who waits for a task, and who is turned away

A task has one handle.  Joining it, cancelling it and shutting the worker down
all wait by taking this handle, and who finds none does not wait.  A call that
passes a task by has therefore seen its end, or has given up in time, or has
found no handle; and there is none because it was not laid ready yet, because it
was lost, or because another call has taken it.

If the other call has seen the end, nothing is amiss: the task has ended.
Otherwise the caller is `Forestalled`, and is told to go on while the task may
still be running.  A join that is given up, a cancellation that timed out, or a
call that is still waiting is enough.

**Proved here**, for every job, every number of tasks and calls and every
schedule:

* what a join answers is final unless the caller was forestalled
  (`join_answers_final_status`);
* when a cancellation or a shutdown is over, each of its tasks has ended unless
  the call waited for it until its time was over, or was forestalled
  (`cancel_and_shutdown_wait`).

Neither restriction can be dropped: `join_answers_running` and
`cancel_and_shutdown_return_at_once` are runs in which a caller is forestalled.
-/
import RowBridge.Proofs.Schedule.Effects

namespace RowBridge.Schedule

/-- A call found no handle of a task: none had been laid ready so far, or another
call had taken it and had not seen the end of the task. -/
def Forestalled (k i : Nat) (log : List Entry) : Prop :=
  ∃ early late, log = early ++ .missed k i :: late ∧
    (.laid i ∉ early ∨ ∃ k', k' ≠ k ∧ .took k' i ∈ early ∧ .sawEnd k' i ∉ early)

theorem Forestalled.mono {k i : Nat} {log : List Entry} (h : Forestalled k i log)
    (entries : List Entry) : Forestalled k i (log ++ entries) := by
  obtain ⟨early, late, rfl, hwhy⟩ := h
  refine ⟨early, late ++ entries, ?_, hwhy⟩
  rw [List.append_assoc, List.cons_append]

/-- A split of a log that has grown splits what was there or what is new. -/
theorem split_append {log entries early late : List Entry} {entry : Entry}
    (h : log ++ entries = early ++ entry :: late) :
    (∃ late', log = early ++ entry :: late') ∨
      ∃ mid, early = log ++ mid ∧ entries = mid ++ entry :: late := by
  rcases List.append_eq_append_iff.mp h with ⟨mid, hearly, hentries⟩ | ⟨mid, hlog, hlate⟩
  · exact Or.inr ⟨mid, hearly, hentries⟩
  · cases mid with
    | nil =>
        rw [List.append_nil] at hlog
        exact Or.inr ⟨[], by rw [List.append_nil, hlog], hlate.symm⟩
    | cons first mid =>
        obtain ⟨rfl, -⟩ := List.cons.inj hlate
        exact Or.inl ⟨mid, hlog⟩

namespace Service

variable {J μ : Type}

/-- What the worker keeps about a task agrees with the log. -/
structure Fits (log : List Entry) (i : Nat) (view : Supervision) : Prop where
  agrees : view.stage.Agrees view.status
  tracked : view.tracked = true ∨ view.status.isFinished = true
  handle : view.handle = false → .laid i ∉ log ∨ ∃ k, .took k i ∈ log
  seen : ∀ k, .sawEnd k i ∈ log → view.stage = .ended

/-- Whether a task has ended, and the worker says so. -/
def HasEnded (s : Service J) (i : Nat) : Prop :=
  ∃ view, s.worker.supervision? i = some view ∧ view.status.isFinished = true

section
variable {log : List Entry} {i : Nat} {view : Supervision}

theorem Fits.fresh (hnew : ∀ entry ∈ log, entry.task? ≠ some i) : Fits log i .fresh where
  agrees := rfl
  tracked := Or.inl rfl
  handle _ := Or.inl fun hlaid => hnew _ hlaid rfl
  seen _ hsaw := absurd rfl (hnew _ hsaw)

theorem Fits.finished_of_seen (h : Fits log i view) {k : Nat} (hsaw : .sawEnd k i ∈ log) :
    view.status.isFinished = true := by
  have ha := h.agrees
  rw [h.seen k hsaw] at ha
  exact ha

/-- Entries that neither lay the handle nor see the end change nothing. -/
theorem Fits.noting (h : Fits log i view) {entries : List Entry} (hlaid : .laid i ∉ entries)
    (hsaw : ∀ k, .sawEnd k i ∈ entries → view.stage = .ended) : Fits (log ++ entries) i view where
  agrees := h.agrees
  tracked := h.tracked
  handle hhandle := by
    rcases h.handle hhandle with hnever | ⟨k, htook⟩
    · refine Or.inl ?_
      intro hin
      exact (List.mem_append.mp hin).elim hnever hlaid
    · exact Or.inr ⟨k, List.mem_append_left _ htook⟩
  seen k hin := (List.mem_append.mp hin).elim (h.seen k) (hsaw k)

theorem Fits.aside (h : Fits log i view) {entries : List Entry}
    (hentries : ∀ entry ∈ entries, entry.task? ≠ some i) : Fits (log ++ entries) i view :=
  h.noting (fun hlaid => hentries _ hlaid rfl) fun _ hsaw => absurd rfl (hentries _ hsaw)

theorem Fits.relock (h : Fits log i view) (locked : Bool) :
    Fits log i { view with locked := locked } :=
  ⟨h.agrees, h.tracked, h.handle, h.seen⟩

/-- The handle of a task is laid ready. -/
theorem Fits.lay (h : Fits log i view) :
    Fits (log ++ [.laid i]) i { view with handle := true } where
  agrees := h.agrees
  tracked := h.tracked
  handle := nofun
  seen k hin := by
    rcases List.mem_append.mp hin with hin | hin
    · exact h.seen k hin
    · cases List.mem_singleton.mp hin

/-- The handle of a task is taken. -/
theorem Fits.take (h : Fits log i view) (k : Nat) (locked : Bool) :
    Fits (log ++ [.took k i]) i { view with handle := false, locked := locked } where
  agrees := h.agrees
  tracked := h.tracked
  handle _ := Or.inr ⟨k, List.mem_append_right _ List.mem_cons_self⟩
  seen k' hin := by
    rcases List.mem_append.mp hin with hin | hin
    · exact h.seen k' hin
    · cases List.mem_singleton.mp hin

theorem Fits.prune (h : Fits log i view) :
    Fits log i { view with tracked := view.tracked && !view.status.isFinished } where
  agrees := h.agrees
  tracked := by
    rcases h.tracked with ht | hf
    · cases hf : view.status.isFinished with
      | true => exact Or.inr rfl
      | false =>
          rw [ht]
          exact Or.inl rfl
    · exact Or.inr hf
  handle := h.handle
  seen := h.seen

variable [ScanJob J] {act? : J → μ → Option J} {s : Service J} {move : WorkerMove J μ}
  {task task' : Task J} {entries : List Entry}

/-- The supervisor makes a step. -/
theorem Fits.supervise (h : Fits log i view) {w : Worker J} {view' : Supervision} {free : Nat}
    {failures : Broadcast TaskFailure} {job : J}
    (hsup : w.Supervises task view free failures job view') : Fits log i view' where
  agrees := hsup.agrees h.agrees
  tracked := hsup.tracked h.agrees h.tracked
  handle hhandle := h.handle (hsup.handle.symm.trans hhandle)
  seen k hsaw := absurd (h.seen k hsaw) hsup.stage_ne

/-- What a move does to a task, it does to what the worker keeps about it; a
final status stays. -/
theorem Fits.touches (h : Fits s.log i view) (hview : task.supervision = some view)
    (ht : Touches act? s i task move entries task') :
    ∃ view', task'.supervision = some view' ∧ Fits (s.log ++ entries) i view' ∧
      (view.status.isFinished = true → view'.status = view.status) := by
  have hsame : ∀ {other : Supervision}, task.supervision = some other → other = view := by
    intro other hother
    exact Option.some.inj (hother.symm.trans hview)
  have hsilent : Fits (s.log ++ []) i view := by
    rw [List.append_nil]
    exact h
  cases ht with
  | leaves hentries => exact ⟨view, hview, h.aside hentries, fun _ => rfl⟩
  | acts => exact ⟨view, hview, hsilent, fun _ => rfl⟩
  | closes => exact ⟨view, hview, hsilent, fun _ => rfl⟩
  | cancels => exact ⟨view, hview, h.noting (by simp) (by simp), fun _ => rfl⟩
  | supervised hother hsup =>
      cases hsame hother
      have hjudged : ∀ {entry : Entry}, entry ∈ s.worker.judgement i →
          ∃ reason, entry = .judged i reason := Worker.eq_judged_of_mem_judgement
      refine ⟨_, rfl, (h.noting ?_ ?_).supervise hsup, hsup.status_eq h.agrees⟩
      · intro hlaid
        obtain ⟨reason, ⟨⟩⟩ := hjudged hlaid
      · intro k hsaw
        obtain ⟨reason, ⟨⟩⟩ := hjudged hsaw
  | lays hother =>
      cases hsame hother
      exact ⟨_, rfl, h.lay, fun _ => rfl⟩
  | prunes hother =>
      cases hsame hother
      exact ⟨_, rfl, hsilent.prune, fun _ => rfl⟩
  | takes hother =>
      cases hsame hother
      exact ⟨_, rfl, h.take _ _, fun _ => rfl⟩
  | sees hother hended =>
      cases hsame hother
      exact ⟨_, rfl, (h.noting (by simp) fun _ _ => hended).relock _, fun _ => rfl⟩
  | letsGo hother hentry =>
      cases hsame hother
      refine ⟨_, rfl, (h.aside ?_).relock _, fun _ => rfl⟩
      intro entry hin
      cases List.mem_singleton.mp hin
      exact hentry

end

/-! ## Records of calls -/

theorem record_append (log entries : List Entry) (k : Nat) :
    record (log ++ entries) k = record log k ++ record entries k :=
  List.filter_append ..

theorem record_eq_nil {entries : List Entry} {k : Nat}
    (h : ∀ entry ∈ entries, entry.call? ≠ some k) : record entries k = [] := by
  refine List.filter_eq_nil_iff.mpr ?_
  intro entry hentry
  simpa using h entry hentry

theorem record_singleton {entry : Entry} {k : Nat} (h : entry.call? = some k) :
    record [entry] k = [entry] := by
  simp [record, h]

theorem mem_record {log : List Entry} {entry : Entry} {k : Nat} (h : entry.call? = some k) :
    entry ∈ record log k ↔ entry ∈ log := by
  simp [record, h]

/-- The log agrees with the worker. -/
structure Kept (s : Service J) : Prop extends Known s where
  records : ∀ (k : Nat) (call : Call), s.worker.calls[k]? = some call →
    call.Leaves k (record s.log k)
  fits : ∀ i view, s.worker.supervision? i = some view → Fits s.log i view
  within : ∀ entry ∈ s.log, ∀ i, entry.task? = some i → i < s.worker.tasks.length
  explained : ∀ early late k i, s.log = early ++ .missed k i :: late →
    .laid i ∉ early ∨ ∃ k', k' ≠ k ∧ .took k' i ∈ early
  answered : ∀ k i status, .answered k i status ∈ s.log →
    status.isFinished = true ∨ Forestalled k i s.log

theorem kept_start (settings : WorkerSettings) : (start settings : Service J).Kept where
  made := nofun
  awaited := nofun
  records := nofun
  fits i view hview := by
    rw [supervision?_start] at hview
    cases hview
  within := nofun
  explained _ _ _ _ h := absurd h.symm (List.append_ne_nil_of_right_ne_nil _ nofun)
  answered := nofun

section
variable {s : Service J} {k i : Nat}

/-- A task that a call is done with has ended, or the call gave up, or it was
forestalled. -/
theorem Kept.parted (h : s.Kept) (hparted : Parted k i s.log) :
    (∀ view, s.worker.supervision? i = some view → view.status.isFinished = true) ∨
      .gaveUp k i ∈ s.log ∨ Forestalled k i s.log := by
  have hended : ∀ {k' : Nat}, .sawEnd k' i ∈ s.log →
      ∀ view, s.worker.supervision? i = some view → view.status.isFinished = true := by
    intro k' hsaw view hview
    exact (h.fits i view hview).finished_of_seen hsaw
  rcases hparted with hsaw | hgave | hmissed
  · exact Or.inl (hended hsaw)
  · exact Or.inr (Or.inl hgave)
  · obtain ⟨early, late, hlog⟩ := List.append_of_mem hmissed
    rcases h.explained early late k i hlog with hnever | ⟨k', hother, htook⟩
    · exact Or.inr (Or.inr ⟨early, late, hlog, Or.inl hnever⟩)
    · by_cases hsaw : .sawEnd k' i ∈ early
      · exact Or.inl (hended (hlog ▸ List.mem_append_left _ hsaw))
      · exact Or.inr (Or.inr ⟨early, late, hlog, Or.inr ⟨k', hother, htook, hsaw⟩⟩)

/-- A call that is over and was not dropped is done with each of its tasks. -/
theorem Kept.parted_of_over (h : s.Kept) {purpose : Purpose} {tasks : List Nat}
    (hcalled : .called k purpose tasks ∈ s.log) (hover : s.worker.isOver k = true)
    (hkept : .dropped k ∉ s.log) (hi : i ∈ tasks) : Parted k i s.log := by
  have hlt := h.made _ hcalled k rfl
  have hcall : s.worker.calls[k]? = some s.worker.calls[k] := List.getElem?_eq_getElem hlt
  rw [Worker.isOver, hcall] at hover
  have hrecord := (h.records k _ hcall).parted ((mem_record rfl).mpr hcalled)
  rcases hrecord.2 (fun hin => hkept ((mem_record rfl).mp hin)) i hi with hwaits | hparted
  · rw [List.isEmpty_iff.mp hover] at hwaits
    cases hwaits
  · exact hparted.mono List.filter_sublist.subset

end

/-! ## What a move does to the records -/

section
variable {s : Service J} {calls : List Call} {entries : List Entry}

theorem Turns.made (h : s.Turns calls entries) (hknown : s.Known) :
    ∀ entry ∈ s.log ++ entries, ∀ k, entry.call? = some k → k < calls.length := by
  intro entry hentry k hk
  rcases List.mem_append.mp hentry with hold | hnew
  · have hlt := hknown.made entry hold k hk
    cases h with
    | aside => exact hlt
    | makes =>
        rw [List.length_append]
        omega
    | goesOn =>
        rw [List.length_set]
        exact hlt
  · cases h with
    | aside hentries => exact nomatch (hentries entry hnew).symm.trans hk
    | makes =>
        cases List.mem_singleton.mp hnew
        cases hk
        rw [List.length_append]
        exact Nat.lt_succ_self _
    | goesOn hcall hmoves =>
        cases List.mem_singleton.mp hnew
        cases hmoves.call?.symm.trans hk
        rw [List.length_set]
        exact (List.getElem?_eq_some_iff.mp hcall).1

/-- Every call waits for some of the tasks it waited for, or was just made. -/
theorem Turns.awaited (h : s.Turns calls entries) (hknown : s.Known) {k : Nat} {call : Call}
    (hcall : calls[k]? = some call) : ∀ i ∈ call.remaining, s.worker.isAccepted i = true := by
  intro i hi
  cases h with
  | aside => exact hknown.awaited k call hcall i hi
  | makes _ haccepted =>
      rw [List.getElem?_append] at hcall
      split at hcall
      · exact hknown.awaited k call hcall i hi
      · rw [List.mem_singleton.mp (List.mem_of_getElem? hcall)] at hi
        exact haccepted i hi
  | @goesOn k₀ before after entry hbefore hmoves =>
      by_cases hk : k₀ = k
      · subst hk
        rw [List.getElem?_set_self (List.getElem?_eq_some_iff.mp hbefore).1] at hcall
        cases hcall
        exact hknown.awaited k₀ before hbefore i (hmoves.remaining_subset hi)
      · rw [List.getElem?_set_ne hk] at hcall
        exact hknown.awaited k call hcall i hi

/-- The record of each call goes on with the call. -/
theorem Turns.records (h : s.Turns calls entries) (hknown : s.Known)
    (hrecords : ∀ (k : Nat) (call : Call), s.worker.calls[k]? = some call →
      call.Leaves k (record s.log k)) {k : Nat} {call : Call} (hcall : calls[k]? = some call) :
    call.Leaves k (record (s.log ++ entries) k) := by
  rw [record_append]
  have hsame : (∀ entry ∈ entries, entry.call? ≠ some k) → s.worker.calls[k]? = some call →
      call.Leaves k (record s.log k ++ record entries k) := by
    intro hentries hold
    rw [record_eq_nil hentries, List.append_nil]
    exact hrecords k call hold
  cases h with
  | aside hentries =>
      refine hsame ?_ hcall
      intro entry hentry hk
      exact nomatch (hentries entry hentry).symm.trans hk
  | @makes purpose tasks hnodup =>
      rw [List.getElem?_append] at hcall
      split at hcall
      next hlt =>
        refine hsame ?_ hcall
        intro entry hentry hk
        cases List.mem_singleton.mp hentry
        cases hk
        exact Nat.lt_irrefl _ hlt
      next hge =>
        obtain ⟨hk, -⟩ := List.getElem?_eq_some_iff.mp hcall
        have hk : k = s.worker.calls.length := by
          rw [List.length_singleton] at hk
          omega
        have hnew : record s.log k = [] := by
          refine record_eq_nil ?_
          intro entry hentry hcall?
          exact hge (hknown.made entry hentry k hcall?)
        rw [List.mem_singleton.mp (List.mem_of_getElem? hcall), hnew, hk, record_singleton rfl]
        exact .made hnodup
  | @goesOn k₀ before after entry hbefore hmoves =>
      by_cases hk : k₀ = k
      · subst hk
        rw [List.getElem?_set_self (List.getElem?_eq_some_iff.mp hbefore).1] at hcall
        cases hcall
        rw [record_singleton hmoves.call?]
        exact .moves (hrecords k₀ before hbefore) hmoves
      · rw [List.getElem?_set_ne hk] at hcall
        refine hsame ?_ hcall
        intro other hother hk'
        cases List.mem_singleton.mp hother
        exact hk (Option.some.inj (hmoves.call?.symm.trans hk'))

end

section
variable {s : Service J} {calls : List Call} {entries : List Entry}

/-- A call that finds no handle comes too early, or after another call. -/
theorem Kept.explained_of_turns (h : s.Kept) (hturns : s.Turns calls entries) :
    ∀ early late k i, s.log ++ entries = early ++ .missed k i :: late →
      .laid i ∉ early ∨ ∃ k', k' ≠ k ∧ .took k' i ∈ early := by
  intro early late k i hlog
  rcases split_append hlog with ⟨late', hold⟩ | ⟨mid, rfl, hnew⟩
  · exact h.explained early late' k i hold
  have hmissed : .missed k i ∈ entries := hnew ▸ List.mem_append_right _ List.mem_cons_self
  cases hturns with
  | aside hentries => exact nomatch hentries _ hmissed
  | makes => cases List.mem_singleton.mp hmissed
  | @goesOn k₀ call call' entry hcall hmoves hwarranted =>
      cases List.mem_singleton.mp hmissed
      have hmid : mid = [] := by
        have hlength := congrArg List.length hnew
        rw [List.length_singleton, List.length_append, List.length_cons] at hlength
        exact List.eq_nil_of_length_eq_zero (by omega)
      rw [hmid, List.append_nil]
      obtain ⟨view, hview, hhandle⟩ := hwarranted
      rcases (h.fits i view hview).handle hhandle with hnever | ⟨k', htook⟩
      · exact Or.inl hnever
      · refine Or.inr ⟨k', ?_, htook⟩
        -- a call that has taken the handle of its next task holds it, and does not look for it
        rintro rfl
        cases hmoves with
        | misses hrest hholding =>
            have hholds := ((h.records _ call hcall).holding_of_took.2 i
              (hrest ▸ List.mem_cons_self) ((mem_record rfl).mpr htook)).1
            exact absurd (hholding.symm.trans hholds) Bool.false_ne_true

/-- A caller that joined is told a final status, or was forestalled. -/
theorem Kept.answered_of_turns (h : s.Kept) (hturns : s.Turns calls entries) :
    ∀ k i status, .answered k i status ∈ s.log ++ entries →
      status.isFinished = true ∨ Forestalled k i (s.log ++ entries) := by
  intro k i status hanswered
  rcases List.mem_append.mp hanswered with hold | hnew
  · exact (h.answered k i status hold).imp_right fun hf => hf.mono entries
  cases hturns with
  | aside hentries => exact nomatch hentries _ hnew
  | makes => cases List.mem_singleton.mp hnew
  | @goesOn k₀ call call' entry hcall hmoves hwarranted =>
      cases List.mem_singleton.mp hnew
      obtain ⟨hcalled, hkept, view, hview, rfl⟩ := hwarranted
      cases hmoves with
      | answers hover =>
          have hdone : s.worker.isOver k = true := by
            rw [Worker.isOver, hcall]
            exact List.isEmpty_iff.mpr hover
          rcases h.parted (h.parted_of_over hcalled hdone hkept List.mem_cons_self) with
            hended | hgave | hforestalled
          · exact Or.inl (hended view hview)
          · have hrecord := h.records k call hcall
            have htimed := hrecord.timed ((mem_record rfl).mpr hgave)
            have hpurpose := (hrecord.parted ((mem_record rfl).mpr hcalled)).1
            rw [Call.isTimed, hpurpose] at htimed
            cases htimed
          · exact Or.inr (hforestalled.mono _)

end

section
variable [ScanJob J] {act? : J → μ → Option J} {s s' : Service J} {move : WorkerMove J μ}

/-- A task stays known, what is kept about it agrees with the log, and a final
status stays. -/
theorem Kept.view_of_step (h : s.Kept) (hstep : s.step? act? move = some s') {i : Nat}
    {view : Supervision} (hview : s.worker.supervision? i = some view) :
    ∃ view', s'.worker.supervision? i = some view' ∧ Fits s'.log i view' ∧
      (view.status.isFinished = true → view'.status = view.status) := by
  obtain ⟨task, htask, hsupervision⟩ := Worker.supervision?_eq_some.mp hview
  obtain ⟨entries, task', hlog, htask', htouches⟩ := touches_of_step hstep htask
  obtain ⟨view', hview', hfits, hstatus⟩ := (h.fits i view hview).touches hsupervision htouches
  refine ⟨view', (Worker.supervision?_of_task? htask').trans hview', ?_, hstatus⟩
  rw [hlog]
  exact hfits

/-- Every move keeps the log in agreement with the worker. -/
theorem Kept.step (h : s.Kept) (hstep : s.step? act? move = some s') : s'.Kept := by
  obtain ⟨entries, hlog, hturns⟩ := turns_of_step h.toKnown hstep
  refine { made := ?_, awaited := ?_, records := ?_, fits := ?_, within := ?_, explained := ?_,
           answered := ?_ }
  · rw [hlog]
    exact hturns.made h.toKnown
  · intro k call hcall i hi
    have haccepted := hturns.awaited h.toKnown hcall i hi
    obtain ⟨view, hview⟩ := Option.isSome_iff_exists.mp haccepted
    obtain ⟨view', hview', -⟩ := h.view_of_step hstep hview
    exact Option.isSome_iff_exists.mpr ⟨view', hview'⟩
  · intro k call hcall
    rw [hlog]
    exact hturns.records h.toKnown h.records hcall
  · intro i view' hview'
    cases hview : s.worker.supervision? i with
    | some view =>
        obtain ⟨after, hafter, hfits, -⟩ := h.view_of_step hstep hview
        cases hview'.symm.trans hafter
        exact hfits
    | none =>
        obtain ⟨task', htask', hsupervision'⟩ := Worker.supervision?_eq_some.mp hview'
        cases htask : s.worker.task? i with
        | some task =>
            rw [Worker.supervision?_of_task? htask] at hview
            obtain ⟨_, after, -, hafter, htouches⟩ := touches_of_step hstep htask
            cases htask'.symm.trans hafter
            exact nomatch (htouches.unsupervised hview).symm.trans hsupervision'
        | none =>
            obtain ⟨hsame, -, hnone | ⟨id, job, -, rfl⟩⟩ := new_of_step hstep htask htask'
            · exact nomatch hnone.symm.trans hsupervision'
            · cases hsupervision'
              refine Fits.fresh ?_
              intro entry hentry hi
              rw [hsame] at hentry
              have hlt := h.within entry hentry i hi
              exact Nat.not_lt.mpr (List.getElem?_eq_none_iff.mp htask) hlt
  · intro entry hentry i hi
    rcases tasks_of_step hstep with ⟨task, htasks, hsame, -⟩ | ⟨hlength, new, hlog', hnew⟩
    · rw [hsame] at hentry
      rw [htasks, List.length_append]
      exact Nat.lt_add_right _ (h.within entry hentry i hi)
    · rw [hlog'] at hentry
      rw [hlength]
      rcases List.mem_append.mp hentry with hold | hlate
      · exact h.within entry hold i hi
      · exact hnew entry hlate i hi
  · rw [hlog]
    exact h.explained_of_turns hturns
  · rw [hlog]
    exact h.answered_of_turns hturns

theorem kept_of_play {settings : WorkerSettings} {moves : List (WorkerMove J μ)}
    (hplay : play? (step? act?) (start settings) moves = some s) : s.Kept :=
  play?_preserves (P := Kept) (fun h hstep => h.step hstep) (kept_start settings) hplay

/-- A task that has ended stays ended, and a call that was made stays in the log. -/
theorem Kept.lasts {t : Service J} {moves : List (WorkerMove J μ)} (h : s.Kept)
    (hplay : play? (step? act?) s moves = some t) :
    s.log <+: t.log ∧ ∀ i, s.worker.isAccepted i = true → t.worker.isAccepted i = true ∧
      (s.HasEnded i → t.HasEnded i) := by
  have hkeep : ∀ {u u' : Service J} {move : WorkerMove J μ},
      (u.Kept ∧ s.log <+: u.log ∧ ∀ i, s.worker.isAccepted i = true →
        u.worker.isAccepted i = true ∧ (s.HasEnded i → u.HasEnded i)) →
      u.step? act? move = some u' →
      (u'.Kept ∧ s.log <+: u'.log ∧ ∀ i, s.worker.isAccepted i = true →
        u'.worker.isAccepted i = true ∧ (s.HasEnded i → u'.HasEnded i)) := by
    rintro u u' move ⟨hu, hlog, hlasts⟩ hstep
    obtain ⟨entries, hentries, -⟩ := turns_of_step hu.toKnown hstep
    refine ⟨hu.step hstep, hentries ▸ hlog.trans (List.prefix_append _ _), ?_⟩
    intro i hi
    obtain ⟨haccepted, hended⟩ := hlasts i hi
    obtain ⟨view, hview⟩ := Option.isSome_iff_exists.mp haccepted
    obtain ⟨view', hview', -, hstatus⟩ := hu.view_of_step hstep hview
    refine ⟨Option.isSome_iff_exists.mpr ⟨view', hview'⟩, ?_⟩
    intro hs
    obtain ⟨other, hother, hfinished⟩ := hended hs
    cases hview.symm.trans hother
    exact ⟨view', hview', (hstatus hfinished).symm ▸ hfinished⟩
  obtain ⟨-, hlog, hlasts⟩ :=
    play?_preserves hkeep ⟨h, List.prefix_refl _, fun _ hi => ⟨hi, id⟩⟩ hplay
  exact ⟨hlog, hlasts⟩

end
end Service

/-! ## Plain jobs under a worker -/

namespace PlainJob

/-- What a plain job does of itself. -/
def act? (job : PlainJob) (_ : Unit) : Option PlainJob := job.move?

/-- A job that ends as soon as its session is closed. -/
def heeding : PlainJob := .fresh "SELECT 1" .closing none .ok

/-- A job that does not look whether its session is closed. -/
def heedless : PlainJob := .fresh "SELECT 1" .gate none .ok

end PlainJob

namespace Service

/-- A worker without a limit that waits a moment for a task it cancels. -/
def patient : WorkerSettings := ⟨none, .ofMillis 10, false⟩

/-- A job is handed over and put on a thread. -/
def launched (job : PlainJob) : List (WorkerMove PlainJob Unit) :=
  [.submit "scan" job, .deposit 0, .supervise 0, .supervise 0, .supervise 0]

/-! ## Joins -/

section
variable [ScanJob J] {act? : J → μ → Option J} {s s' : Service J} {move : WorkerMove J μ}

/-- What a join answers is a final status, unless the caller was forestalled. -/
theorem join_answers_final_status {settings : WorkerSettings} {moves : List (WorkerMove J μ)}
    (hplay : play? (step? act?) (start settings) moves = some s) {k i : Nat} {status : TaskStatus}
    (hanswered : .answered k i status ∈ s.log) :
    status.isFinished = true ∨ Forestalled k i s.log :=
  (kept_of_play hplay).answered k i status hanswered

end

/-- The task is joined, cancelled meanwhile, and its end awaited. -/
def joinedAndCancelled : List (WorkerMove PlainJob Unit) :=
  launched .heeding ++ [.join 0, .wait 0 false, .close 0 .cancelled, .act 0 (), .supervise 0,
    .supervise 0, .supervise 0, .wait 0 false, .answer 0 0]

theorem join_answers_cancelled :
    ∃ s : Service PlainJob,
      play? (step? PlainJob.act?) (start patient) joinedAndCancelled = some s ∧
      .answered 0 0 .cancelled ∈ s.log ∧
      (TaskStatus.cancelled.isFinished = true ∨ Forestalled 0 0 s.log) := by
  refine ⟨_, rfl, by decide, ?_⟩
  exact @join_answers_final_status _ _ _ PlainJob.act? _ patient joinedAndCancelled rfl 0 0
    .cancelled (by decide)

/-- A cancellation waits in vain for a task and gives up; then the task is
joined. -/
def joinedAfterCancel : List (WorkerMove PlainJob Unit) :=
  launched .heedless ++ [.cancel 0, .wait 0 false, .wait 0 true, .join 0, .wait 1 false, .answer 1 0]

/-- A join can answer that the task is still running. -/
theorem join_answers_running :
    ∃ s : Service PlainJob,
      play? (step? PlainJob.act?) (start patient) joinedAfterCancel = some s ∧
      .answered 1 0 .running ∈ s.log ∧ TaskStatus.running.isFinished = false :=
  ⟨_, rfl, by decide, rfl⟩

/-! ## Cancellations and shutdowns -/

section
variable [ScanJob J] {act? : J → μ → Option J} {s s' : Service J} {move : WorkerMove J μ}

/-- When a task is to be cancelled, or the worker to be shut down, and the call is
over, the task has ended; or the call waited for it until its time was over; or
the call was forestalled.  A shutdown answers for every task that was accepted
when it looked the tasks up, in the table or not. -/
theorem cancel_and_shutdown_wait {settings : WorkerSettings} {before after : List (WorkerMove J μ)}
    {i : Nat} {v : Service J} (hbefore : play? (step? act?) (start settings) before = some s)
    (hmove : move = .cancel i ∨ ∃ tasks, move = .shutdown tasks)
    (hi : s.worker.isAccepted i = true) (hcall : s.step? act? move = some s')
    (hafter : play? (step? act?) s' after = some v)
    (hover : v.worker.isOver s.worker.calls.length = true)
    (hkept : .dropped s.worker.calls.length ∉ v.log) :
    v.HasEnded i ∨ .gaveUp s.worker.calls.length i ∈ v.log ∨
      Forestalled s.worker.calls.length i v.log := by
  have hs := kept_of_play hbefore
  have hs' := hs.step hcall
  have hv : v.Kept := play?_preserves (P := Kept) (fun h hstep => h.step hstep) hs' hafter
  obtain ⟨view, hview⟩ := Option.isSome_iff_exists.mp hi
  obtain ⟨view', hview', -, hstatus⟩ := hs.view_of_step hcall hview
  obtain ⟨hlog, hlasts⟩ := hs'.lasts hafter
  obtain ⟨haccepted, hended⟩ := hlasts i (Option.isSome_iff_exists.mpr ⟨view', hview'⟩)
  -- a call that was made for the task is done with it
  have hmade : ∀ {purpose : Purpose} {tasks : List Nat}, i ∈ tasks →
      .called s.worker.calls.length purpose tasks ∈ s'.log →
      v.HasEnded i ∨ .gaveUp s.worker.calls.length i ∈ v.log ∨
        Forestalled s.worker.calls.length i v.log := by
    intro purpose tasks hmem hcalled
    refine (hv.parted (hv.parted_of_over (hlog.subset hcalled) hover hkept hmem)).imp_left ?_
    intro hfinished
    obtain ⟨last, hlast⟩ := Option.isSome_iff_exists.mp haccepted
    exact ⟨last, hlast, hfinished last hlast⟩
  rcases hmove with rfl | ⟨tasks, rfl⟩
  · obtain ⟨-, ⟨⟩⟩ := Option.ite_none_right_eq_some.mp hcall
    exact hmade List.mem_cons_self (List.mem_append_right _ List.mem_cons_self)
  · obtain ⟨hperm, ⟨⟩⟩ := Option.ite_none_right_eq_some.mp hcall
    rcases (hs.fits i view hview).tracked with htracked | hfinished
    · refine hmade (hperm.mem_iff.mpr ?_) (List.mem_append_right _ List.mem_cons_self)
      refine List.mem_filter.mpr ⟨List.mem_range.mpr (Worker.lt_length_of_supervision? hview), ?_⟩
      rw [hview]
      exact htracked
    · exact Or.inl (hended ⟨view', hview', (hstatus hfinished).symm ▸ hfinished⟩)

end

/-- A task is cancelled while nobody else waits for it. -/
def cancelledAlone : List (WorkerMove PlainJob Unit) :=
  [.wait 0 false, .act 0 (), .supervise 0, .supervise 0, .supervise 0, .wait 0 false]

theorem cancel_waits_for_heeding_job :
    ∃ s s' v : Service PlainJob,
      play? (step? PlainJob.act?) (start patient) (launched .heeding) = some s ∧
      s.step? PlainJob.act? (.cancel 0) = some s' ∧
      play? (step? PlainJob.act?) s' cancelledAlone = some v ∧
      (v.HasEnded 0 ∨ .gaveUp 0 0 ∈ v.log ∨ Forestalled 0 0 v.log) := by
  refine ⟨_, _, _, rfl, rfl, rfl, ?_⟩
  exact @cancel_and_shutdown_wait _ _ _ PlainJob.act? _ _ (.cancel 0) patient
    (launched .heeding) cancelledAlone 0 _ rfl (Or.inl rfl) rfl rfl rfl rfl (by decide)

/-- A join is given up; then the task is cancelled and the worker shut down. -/
def cancelledAfterJoin : List (WorkerMove PlainJob Unit) :=
  launched .heedless ++ [.join 0, .wait 0 false, .abandon 0, .cancel 0, .wait 1 false, .stop,
    .shutdown [0], .wait 2 false]

/-- A cancellation and a shutdown can be over at once while the task is still
running. -/
theorem cancel_and_shutdown_return_at_once :
    ∃ s : Service PlainJob,
      play? (step? PlainJob.act?) (start patient) cancelledAfterJoin = some s ∧
      .called 1 .cancel [0] ∈ s.log ∧ .called 2 .shutdown [0] ∈ s.log ∧
      s.worker.isOver 1 = true ∧ s.worker.isOver 2 = true ∧
      .dropped 1 ∉ s.log ∧ .dropped 2 ∉ s.log ∧ .gaveUp 1 0 ∉ s.log ∧ .gaveUp 2 0 ∉ s.log ∧
      (s.worker.supervision? 0).map (·.status) = some .running :=
  ⟨_, rfl, by decide, by decide, rfl, rfl, by decide, by decide, by decide, by decide, rfl⟩

end Service
end RowBridge.Schedule
