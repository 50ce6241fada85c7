/-
# `RowBridge.Proofs.Schedule.Upkeep` — which tasks are in the table

Scheduling a job enters its task in the worker's table.  Two parties take tasks out
again: a supervisor its own, when it ends and the worker cleans up by itself, and
whoever calls for a clean-up.  A clean-up takes many moves, and anybody may act
between them.

    move      what it is
    sweep     the clean-up begins
    meet      it comes across a task that is in the table
    look      it looks at the status of the next task it has come across
    remove    the task it found to have ended leaves the table

It comes across every task that is there from its beginning on, and may or may not
come across those that are entered meanwhile.  It removes a task without looking
again; but a final status is final, so that this is no other than looking and
removing at once (`Worker.untrack_eq_prune`), and a worker that is cleaned up is a
worker in use (`Upkeep.exists_serves`).  Everything known about those holds of it.

**Proved here** (`table_is_exact`), for every job, any number of tasks, calls and
clean-ups, and every schedule: a task that has not ended is in the table; none leaves
it before it has ended, and none comes back; without automatic cleanup those have left
that a clean-up has found to have ended, and no others, and a clean-up that is over has
left none that had ended when it began; with automatic cleanup a task has left as soon
as its supervisor has ended.
-/
import RowBridge.Proofs.Schedule.Table

namespace RowBridge.Schedule

variable {J μ : Type}

/-- A clean-up under way. -/
structure Sweep where
  /-- The tasks that were in the table when it began and that it has not come across
  yet. -/
  due : List Nat
  /-- The tasks it has come across and not looked at. -/
  met : List Nat
  /-- The task it has found to have ended and is about to remove. -/
  found : Option Nat

/-- The clean-up still has to come across the task, to look at it, or to remove it. -/
def Sweep.Pursues (sweep : Sweep) (i : Nat) : Prop :=
  i ∈ sweep.due ∨ i ∈ sweep.met ∨ sweep.found = some i

/-- A worker in use, and the clean-ups that were called for. -/
structure Upkeep (J : Type) where
  service : Service J
  sweeps : List Sweep

/-- A move of a party to a worker, or of a clean-up. -/
inductive UpkeepMove (J μ : Type)
  | serve (move : WorkerMove J μ)
  | sweep
  | meet (c i : Nat)
  | look (c : Nat)
  | remove (c : Nat)

/-- Whether the move is one that clean-ups are made of. -/
def WorkerMove.isPrune : WorkerMove J μ → Bool
  | .prune _ => true
  | _ => false

namespace Upkeep

def start (settings : WorkerSettings) : Upkeep J := ⟨.start settings, []⟩

def worker (u : Upkeep J) : Worker J := u.service.worker

/-- A worker of whose clean-ups one has come this far. -/
def setSweep (u : Upkeep J) (c : Nat) (sweep : Sweep) : Upkeep J :=
  { u with sweeps := u.sweeps.set c sweep }

/-- One move; a party that is not at that point makes none. -/
def step? [ScanJob J] (act? : J → μ → Option J) (u : Upkeep J) :
    UpkeepMove J μ → Option (Upkeep J)
  | .serve move =>
      if move.isPrune then none
      else (u.service.step? act? move).map fun service => { u with service := service }
  | .sweep => some { u with sweeps := u.sweeps ++ [⟨u.worker.trackedPositions, [], none⟩] }
  | .meet c i =>
      if u.worker.isTracked i then
        u.sweeps[c]?.map fun sweep =>
          u.setSweep c { sweep with due := sweep.due.erase i, met := sweep.met ++ [i] }
      else none
  | .look c =>
      match u.sweeps[c]? with
      | some ⟨due, i :: met, none⟩ =>
          some (u.setSweep c ⟨due, met, if u.worker.isFinished i then some i else none⟩)
      | _ => none
  | .remove c =>
      match u.sweeps[c]? with
      | some ⟨due, met, some i⟩ =>
          some ⟨{ u.service with worker := u.worker.untrack i }, u.sweeps.set c ⟨due, met, none⟩⟩
      | _ => none

/-- A clean-up has found this task to have ended, and is about to remove it. -/
def Finds (u : Upkeep J) (c i : Nat) : Prop :=
  ∃ sweep, u.sweeps[c]? = some sweep ∧ sweep.found = some i

/-- A clean-up has come across every task that has been in the table all the while,
has looked at each, and has removed what it found. -/
def IsOver (u : Upkeep J) (c : Nat) : Prop :=
  ∃ sweep, u.sweeps[c]? = some sweep ∧ (∀ i ∈ sweep.due, u.worker.isTracked i = false) ∧
    sweep.met = [] ∧ sweep.found = none

/-- What a clean-up is about to remove has ended. -/
structure Sound (u : Upkeep J) : Prop where
  kept : u.service.Kept
  found : ∀ sweep ∈ u.sweeps, ∀ i, sweep.found = some i → u.worker.isFinished i = true

theorem Finds.isFinished {u : Upkeep J} {c i : Nat} (hf : u.Finds c i) (h : u.Sound) :
    u.worker.isFinished i = true := by
  obtain ⟨sweep, hsweep, hfound⟩ := hf
  exact h.found sweep (List.mem_of_getElem? hsweep) i hfound

theorem sound_start (settings : WorkerSettings) : (start settings : Upkeep J).Sound :=
  ⟨Service.kept_start settings, nofun⟩

/-- This clean-up pursues the task. -/
def Pursued (u : Upkeep J) (c i : Nat) : Prop :=
  ∃ sweep, u.sweeps[c]? = some sweep ∧ sweep.Pursues i

/-- A clean-up that goes on pursues the task if it did so before and has not dropped
it; the others go on pursuing it. -/
theorem Pursued.setSweep {u : Upkeep J} {c i : Nat} (h : u.Pursued c i) {d : Nat}
    {before next : Sweep}
    (hbefore : u.sweeps[d]? = some before) (hnext : before.Pursues i → next.Pursues i) :
    (u.setSweep d next).Pursued c i := by
  obtain ⟨sweep, hsweep, hpursues⟩ := h
  by_cases hdc : d = c
  · subst hdc
    cases hbefore.symm.trans hsweep
    exact ⟨next, List.getElem?_set_self (List.getElem?_eq_some_iff.mp hbefore).1, hnext hpursues⟩
  · exact ⟨sweep, (List.getElem?_set_ne hdc).trans hsweep, hpursues⟩

/-- What one move can do. -/
inductive Does [ScanJob J] (act? : J → μ → Option J) (u : Upkeep J) :
    UpkeepMove J μ → Upkeep J → Prop
  | serves {move : WorkerMove J μ} {service : Service J} : move.isPrune = false →
      u.service.step? act? move = some service →
      Does act? u (.serve move) { u with service := service }
  | begins : Does act? u .sweep
      { u with sweeps := u.sweeps ++ [⟨u.worker.trackedPositions, [], none⟩] }
  | meets {c i : Nat} {sweep : Sweep} : u.sweeps[c]? = some sweep → u.worker.isTracked i = true →
      Does act? u (.meet c i)
        (u.setSweep c { sweep with due := sweep.due.erase i, met := sweep.met ++ [i] })
  | passes {c i : Nat} {due met : List Nat} : u.sweeps[c]? = some ⟨due, i :: met, none⟩ →
      u.worker.isFinished i = false → Does act? u (.look c) (u.setSweep c ⟨due, met, none⟩)
  | finds {c i : Nat} {due met : List Nat} : u.sweeps[c]? = some ⟨due, i :: met, none⟩ →
      u.worker.isFinished i = true → Does act? u (.look c) (u.setSweep c ⟨due, met, some i⟩)
  | removes {c i : Nat} {due met : List Nat} : u.sweeps[c]? = some ⟨due, met, some i⟩ →
      Does act? u (.remove c)
        ⟨{ u.service with worker := u.worker.untrack i }, u.sweeps.set c ⟨due, met, none⟩⟩

variable [ScanJob J] {act? : J → μ → Option J} {u u' : Upkeep J} {move : UpkeepMove J μ}

theorem does_of_step? (hstep : u.step? act? move = some u') : Does act? u move u' := by
  cases move with
  | serve move =>
      obtain ⟨hmove, hstep⟩ := Option.ite_none_left_eq_some.mp hstep
      obtain ⟨service, hservice, rfl⟩ := Option.map_eq_some_iff.mp hstep
      exact .serves (eq_false_of_ne_true hmove) hservice
  | sweep => cases hstep; exact .begins
  | meet c i =>
      obtain ⟨htracked, hstep⟩ := Option.ite_none_right_eq_some.mp hstep
      obtain ⟨sweep, hsweep, rfl⟩ := Option.map_eq_some_iff.mp hstep
      exact .meets hsweep htracked
  | look c =>
      dsimp only [step?] at hstep
      split at hstep
      next due i met hsweep =>
        cases hstep
        cases hfinished : u.worker.isFinished i with
        | true => exact .finds hsweep hfinished
        | false => exact .passes hsweep hfinished
      · cases hstep
  | remove c =>
      dsimp only [step?] at hstep
      split at hstep
      next due met i hsweep =>
        cases hstep
        exact .removes hsweep
      · cases hstep

/-! ## A worker that is cleaned up is a worker in use -/

/-- A move of a party is one of its moves, and a removal is no other than looking and
removing at once. -/
theorem Does.service_cases (hd : Does act? u move u') (h : u.Sound) :
    u'.service = u.service ∨ ∃ m, u.service.step? act? m = some u'.service ∧
      (m.isPrune = false ∨ ∃ c i, move = .remove c ∧ u.Finds c i ∧ m = .prune i) := by
  cases hd with
  | serves hmove hservice => exact Or.inr ⟨_, hservice, Or.inl hmove⟩
  | @removes c i due met hsweep =>
      have hf : u.Finds c i := ⟨_, hsweep, rfl⟩
      refine Or.inr ⟨.prune i, ?_, Or.inr ⟨c, i, rfl, hf, rfl⟩⟩
      rw [Worker.untrack_eq_prune (hf.isFinished h)]
      rfl
  | _ => exact Or.inl rfl

theorem Sound.isFinished_of_step (h : u.Sound) (hstep : u.step? act? move = some u') {i : Nat}
    (hf : u.worker.isFinished i = true) : u'.worker.isFinished i = true := by
  rcases (does_of_step? hstep).service_cases h with hsame | ⟨m, hservice, -⟩
  · rw [worker, hsame]
    exact hf
  · exact h.kept.isFinished_of_step hservice hf

theorem Sound.step (h : u.Sound) (hstep : u.step? act? move = some u') : u'.Sound := by
  have hd := does_of_step? hstep
  have hkept : u'.service.Kept := by
    rcases hd.service_cases h with hsame | ⟨m, hservice, -⟩
    · rw [hsame]
      exact h.kept
    · exact h.kept.step hservice
  refine ⟨hkept, ?_⟩
  intro sweep hsweep i hfound
  have hold : sweep ∈ u.sweeps → u'.worker.isFinished i = true :=
    fun hin => h.isFinished_of_step hstep (h.found sweep hin i hfound)
  -- a clean-up that goes on is the only one that changes
  have hset : ∀ {c : Nat} {next : Sweep}, sweep ∈ u.sweeps.set c next →
      (next.found = some i → u'.worker.isFinished i = true) → u'.worker.isFinished i = true := by
    intro c next hin hnext
    rcases List.mem_or_eq_of_mem_set hin with hin | rfl
    · exact hold hin
    · exact hnext hfound
  cases hd with
  | serves => exact hold hsweep
  | begins =>
      rcases List.mem_append.mp hsweep with hin | hin
      · exact hold hin
      · cases List.mem_singleton.mp hin
        cases hfound
  | @meets c j before hbefore =>
      exact hset hsweep fun hfound => h.found before (List.mem_of_getElem? hbefore) i hfound
  | passes => exact hset hsweep nofun
  | finds _ hfinished =>
      refine hset hsweep ?_
      rintro ⟨⟩
      exact hfinished
  | removes => exact hset hsweep nofun

/-- Whatever becomes of a worker that is cleaned up becomes of a worker in use. -/
theorem exists_serves (h : u.Sound) {moves : List (UpkeepMove J μ)}
    (hplay : play? (step? act?) u moves = some u') :
    u'.Sound ∧ ∃ served, play? (Service.step? act?) u.service served = some u'.service := by
  refine play?_preserves (P := fun v : Upkeep J =>
    v.Sound ∧ ∃ served, play? (Service.step? act?) u.service served = some v.service) ?_
    ⟨h, [], rfl⟩ hplay
  rintro v v' move ⟨hv, served, hserved⟩ hstep
  refine ⟨hv.step hstep, ?_⟩
  rcases (does_of_step? hstep).service_cases hv with hsame | ⟨m, hservice, -⟩
  · exact ⟨served, hsame ▸ hserved⟩
  · refine ⟨served ++ [m], ?_⟩
    rw [play?_append, hserved]
    exact congrArg (Option.bind · some) hservice

/-! ## Tasks that leave the table -/

section
variable {v : Upkeep J} {moves later : List (UpkeepMove J μ)} {settings : WorkerSettings}
  {c i : Nat}

/-- A task leaves the table after it has ended: a clean-up has found it so, or the
worker cleans up by itself. -/
theorem Sound.finished_of_left (h : u.Sound) (hstep : u.step? act? move = some u')
    (htracked : u.worker.isTracked i = true) (hleft : u'.worker.isTracked i = false) :
    u.worker.isFinished i = true ∧
      ((∃ c, move = .remove c ∧ u.Finds c i) ∨ u.worker.settings.autoCleanup = true) := by
  rcases (does_of_step? hstep).service_cases h with hsame | ⟨m, hservice, hm⟩
  · rw [worker, hsame] at hleft
    exact absurd (hleft.symm.trans htracked) Bool.false_ne_true
  obtain ⟨view, hview, hin⟩ := Worker.isTracked_iff.mp htracked
  obtain ⟨task, htask, hsupervision⟩ := Worker.supervision?_eq_some.mp hview
  obtain ⟨entries, task', -, htask', ht⟩ := Service.touches_of_step hservice htask
  obtain ⟨view', hview', -⟩ := ht.view_cases hsupervision
  have hout : view'.tracked = false := by
    rw [← Worker.isTracked_eq ((Worker.supervision?_of_task? htask').trans hview')]
    exact hleft
  obtain ⟨hfinished, hwho⟩ :=
    ht.finished_of_left hsupervision (h.kept.fits i view hview).agrees hin hview' hout
  refine ⟨Worker.isFinished_iff.mpr ⟨view, hview, hfinished⟩, ?_⟩
  rcases hwho with rfl | hauto
  · rcases hm with hm | ⟨c, j, hmove, hf, hj⟩
    · cases hm
    · cases hj
      exact Or.inl ⟨c, hmove, hf⟩
  · exact Or.inr hauto

/-- A task that has left the table never comes back. -/
theorem Sound.untracked_of_play (h : u.Sound) (hplay : play? (step? act?) u later = some v)
    (haccepted : u.worker.isAccepted i = true) (hout : u.worker.isTracked i = false) :
    v.worker.isTracked i = false := by
  obtain ⟨-, served, hserved⟩ := exists_serves h hplay
  obtain ⟨view, hview⟩ := Worker.isAccepted_iff.mp haccepted
  obtain ⟨task, htask, -⟩ := Worker.supervision?_eq_some.mp hview
  refine eq_false_of_ne_true ?_
  intro hin
  have hbefore := Service.tracked_of_play htask hserved (Worker.isTracked_iff_mem.mp hin)
  exact absurd (hout.symm.trans (Worker.isTracked_iff_mem.mpr hbefore)) Bool.false_ne_true

/-- A task has come to be accepted, and is in the table, or it was accepted before. -/
theorem Sound.accepted_cases (h : u.Sound) (hstep : u.step? act? move = some u')
    (haccepted : u'.worker.isAccepted i = true) :
    u.worker.isAccepted i = true ∨ u'.worker.isTracked i = true := by
  rcases (does_of_step? hstep).service_cases h with hsame | ⟨m, hservice, -⟩
  · rw [worker, hsame] at haccepted
    exact Or.inl haccepted
  obtain ⟨view', hview'⟩ := Worker.isAccepted_iff.mp haccepted
  obtain ⟨task', htask', hsupervision'⟩ := Worker.supervision?_eq_some.mp hview'
  cases htask : u.service.worker.task? i with
  | some task =>
      obtain ⟨entries, after, -, hafter, ht⟩ := Service.touches_of_step hservice htask
      cases htask'.symm.trans hafter
      cases hview : task.supervision with
      | none => exact nomatch (ht.unsupervised hview).symm.trans hsupervision'
      | some view =>
          exact Or.inl (Worker.isAccepted_iff.mpr
            ⟨view, (Worker.supervision?_of_task? htask).trans hview⟩)
  | none =>
      obtain ⟨-, -, hnone | ⟨id, job, -, rfl⟩⟩ := Service.new_of_step hservice htask htask'
      · exact nomatch hnone.symm.trans hsupervision'
      · exact Or.inr (Worker.isTracked_eq hview' ▸ Option.some.inj hsupervision' ▸ rfl)

/-- In this schedule a clean-up has found the task to have ended, and has removed it. -/
def Removed (act? : J → μ → Option J) (first : Upkeep J) (made : List (UpkeepMove J μ))
    (i : Nat) : Prop :=
  ∃ early c late u, made = early ++ .remove c :: late ∧ play? (step? act?) first early = some u ∧
    u.Finds c i ∧ u.worker.isFinished i = true

theorem Removed.grow {first : Upkeep J} {made : List (UpkeepMove J μ)}
    (h : Removed act? first made i) (move : UpkeepMove J μ) :
    Removed act? first (made ++ [move]) i := by
  obtain ⟨early, c, late, u, rfl, hu⟩ := h
  refine ⟨early, c, late ++ [move], u, ?_, hu⟩
  rw [List.append_assoc, List.cons_append]

/-- Without automatic cleanup, tasks leave the table by clean-ups. -/
theorem removed_of_untracked (hmanual : settings.autoCleanup = false)
    (hplay : play? (step? act?) (start settings) moves = some u)
    (haccepted : u.worker.isAccepted i = true) (hout : u.worker.isTracked i = false) :
    Removed act? (start settings) moves i := by
  refine play?_history (P := fun made u => ∀ i, u.worker.isAccepted i = true →
    u.worker.isTracked i = false → Removed act? (start settings) made i) ?_ ?_ hplay i
      haccepted hout
  · intro i haccepted
    cases haccepted
  · intro made u u' move hmade ih hstep i haccepted' hout'
    obtain ⟨h, served, hserved⟩ := exists_serves (sound_start settings) hmade
    have hsettings : u.worker.settings = settings := Service.settings_of_play hserved
    have haccepted := (h.accepted_cases hstep haccepted').resolve_right fun hin =>
      absurd (hout'.symm.trans hin) Bool.false_ne_true
    cases hin : u.worker.isTracked i with
    | false => exact (ih i haccepted hin).grow move
    | true =>
        obtain ⟨hfinished, ⟨c, rfl, hf⟩ | hauto⟩ := h.finished_of_left hstep hin hout'
        · exact ⟨made, c, [], u, rfl, hmade, hf, hfinished⟩
        · rw [hsettings, hmanual] at hauto
          cases hauto

theorem untracked_of_removed {first : Upkeep J} (hfirst : first.Sound)
    (hplay : play? (step? act?) first moves = some u) (hremoved : Removed act? first moves i) :
    u.worker.isTracked i = false := by
  obtain ⟨early, c, late, t, rfl, hearly, ⟨sweep, hsweep, hfound⟩, hfinished⟩ := hremoved
  obtain ⟨other, hother, hrest⟩ := exists_of_play?_append hplay
  cases hearly.symm.trans hother
  obtain ⟨t', hstep, hlate⟩ := play?_cons hrest
  have ht' := (exists_serves hfirst hearly).1.step hstep
  obtain ⟨due, met, found⟩ := sweep
  cases hfound
  have hremoves : t.step? act? (.remove c) =
      some ⟨{ t.service with worker := t.worker.untrack i }, t.sweeps.set c ⟨due, met, none⟩⟩ := by
    simp only [step?, hsweep]
  cases hstep.symm.trans hremoves
  refine ht'.untracked_of_play hlate ?_ (Worker.isTracked_untrack t.worker i)
  obtain ⟨view, hview, -⟩ := Worker.isFinished_iff.mp hfinished
  obtain ⟨task, htask, hsupervision⟩ := Worker.supervision?_eq_some.mp hview
  exact Worker.isAccepted_iff.mpr ⟨_, Worker.supervision?_eq_some.mpr
    ⟨_, Worker.task?_onSupervision_self htask hsupervision _, rfl⟩⟩

/-! ## Clean-ups that are over -/

/-- A task that has ended is pursued until it has left the table. -/
theorem Does.pursued (hd : Does act? u move u') (hf : u.worker.isFinished i = true)
    (hp : u.Pursued c i) : u'.worker.isTracked i = false ∨ u'.Pursued c i := by
  cases hd with
  | serves => exact Or.inr hp
  | begins =>
      obtain ⟨sweep, hsweep, hpursues⟩ := hp
      have hlt := (List.getElem?_eq_some_iff.mp hsweep).1
      exact Or.inr ⟨sweep, (List.getElem?_append_left hlt).trans hsweep, hpursues⟩
  | @meets d j before hbefore =>
      refine Or.inr (hp.setSweep hbefore ?_)
      rintro (hdue | hmet | hfound)
      · by_cases hij : i = j
        · exact Or.inr (Or.inl (List.mem_append_right _ (List.mem_singleton.mpr hij)))
        · exact Or.inl ((List.mem_erase_of_ne hij).mpr hdue)
      · exact Or.inr (Or.inl (List.mem_append_left _ hmet))
      · exact Or.inr (Or.inr hfound)
  | @passes d j due met hbefore hunfinished =>
      refine Or.inr (hp.setSweep hbefore ?_)
      rintro (hdue | hmet | hfound)
      · exact Or.inl hdue
      · rcases List.mem_cons.mp hmet with rfl | hmet
        · exact absurd (hunfinished.symm.trans hf) Bool.false_ne_true
        · exact Or.inr (Or.inl hmet)
      · cases hfound
  | @finds d j due met hbefore =>
      refine Or.inr (hp.setSweep hbefore ?_)
      rintro (hdue | hmet | hfound)
      · exact Or.inl hdue
      · rcases List.mem_cons.mp hmet with rfl | hmet
        · exact Or.inr (Or.inr rfl)
        · exact Or.inr (Or.inl hmet)
      · cases hfound
  | @removes d j due met hbefore =>
      by_cases hij : i = j
      · subst hij
        exact Or.inl (Worker.isTracked_untrack _ _)
      · refine Or.inr (Pursued.setSweep (u := u) hp hbefore ?_)
        rintro (hdue | hmet | hfound)
        · exact Or.inl hdue
        · exact Or.inr (Or.inl hmet)
        · exact absurd (Option.some.inj hfound).symm hij

/-- A clean-up that is over has left no task in the table that had ended when it
began. -/
theorem Sound.untracked_of_isOver (h : u.Sound) (hf : u.worker.isFinished i = true)
    (hbegin : u.step? act? .sweep = some u') (hplay : play? (step? act?) u' later = some v)
    (hover : v.IsOver u.sweeps.length) : v.worker.isTracked i = false := by
  have hstart : u'.worker.isTracked i = false ∨ u'.Pursued u.sweeps.length i := by
    cases hbegin
    cases hin : u.worker.isTracked i with
    | false => exact Or.inl hin
    | true =>
        exact Or.inr ⟨_, List.getElem?_concat_length, Or.inl (Worker.isTracked_iff_mem.mp hin)⟩
  have hf' : u'.worker.isFinished i = true := by
    cases hbegin
    exact hf
  have hlast : v.Sound ∧ v.worker.isFinished i = true ∧
      (v.worker.isTracked i = false ∨ v.Pursued u.sweeps.length i) := by
    refine play?_preserves (P := fun v : Upkeep J => v.Sound ∧ v.worker.isFinished i = true ∧
      (v.worker.isTracked i = false ∨ v.Pursued u.sweeps.length i)) ?_
      ⟨h.step hbegin, hf', hstart⟩ hplay
    rintro t t' move ⟨ht, hf, hwhere⟩ hstep
    refine ⟨ht.step hstep, ht.isFinished_of_step hstep hf, ?_⟩
    rcases hwhere with hout | hp
    · have hlater : play? (step? act?) t [move] = some t' := congrArg (Option.bind · some) hstep
      obtain ⟨view, hview, -⟩ := Worker.isFinished_iff.mp hf
      exact Or.inl (ht.untracked_of_play hlater (Worker.isAccepted_iff.mpr ⟨view, hview⟩) hout)
    · exact (does_of_step? hstep).pursued hf hp
  rcases hlast.2.2 with hout | ⟨sweep, hsweep, hpursues⟩
  · exact hout
  obtain ⟨other, hother, hdue, hmet, hfound⟩ := hover
  cases hsweep.symm.trans hother
  rcases hpursues with hin | hin | hin
  · exact hdue i hin
  · rw [hmet] at hin
    cases hin
  · cases hfound.symm.trans hin

/-! ## A clean-up that nobody disturbs -/

section
variable {service : Service J} {sweeps : List Sweep}

theorem set_last (before after : Sweep) :
    (sweeps ++ [before]).set sweeps.length after = sweeps ++ [after] := by
  rw [List.set_append_right _ _ (Nat.le_refl _), Nat.sub_self]
  rfl

/-- The latest clean-up comes across the tasks that are due. -/
theorem play?_meet (due : List Nat) : ∀ met : List Nat,
    (∀ i ∈ due, service.worker.isTracked i = true) →
      play? (step? act?) ⟨service, sweeps ++ [⟨due, met, none⟩]⟩ (due.map (.meet sweeps.length)) =
        some ⟨service, sweeps ++ [⟨[], met ++ due, none⟩]⟩ := by
  induction due with
  | nil =>
      intro met _
      rw [List.append_nil]
      rfl
  | cons i due ih =>
      intro met hdue
      have hstep : step? act? ⟨service, sweeps ++ [⟨i :: due, met, none⟩]⟩ (.meet sweeps.length i) =
          some ⟨service, sweeps ++ [⟨due, met ++ [i], none⟩]⟩ := by
        refine (if_pos (hdue i List.mem_cons_self)).trans ?_
        simp only [setSweep, List.getElem?_concat_length, Option.map_some, List.erase_cons_head,
          set_last]
      show (step? act? _ _).bind _ = _
      rw [hstep, show met ++ i :: due = met ++ [i] ++ due from List.append_cons ..]
      exact ih (met ++ [i]) fun j hj => hdue j (List.mem_cons_of_mem i hj)

/-- It looks at the tasks it has come across, and removes those that have ended. -/
theorem exists_play?_look (met : List Nat) : ∀ service : Service J, ∃ moves,
    play? (step? act?) ⟨service, sweeps ++ [⟨[], met, none⟩]⟩ moves =
      some ⟨{ service with worker := met.foldl Worker.prune service.worker },
        sweeps ++ [⟨[], [], none⟩]⟩ := by
  induction met with
  | nil => exact fun service => ⟨[], rfl⟩
  | cons i met ih =>
      intro service
      obtain ⟨moves, hmoves⟩ := ih { service with worker := service.worker.prune i }
      have hlook : step? act? ⟨service, sweeps ++ [⟨[], i :: met, none⟩]⟩ (.look sweeps.length) =
          some ⟨service, sweeps ++
            [⟨[], met, if service.worker.isFinished i then some i else none⟩]⟩ := by
        simp only [step?, List.getElem?_concat_length, setSweep, set_last]
        rfl
      cases hfinished : service.worker.isFinished i with
      | false =>
          rw [hfinished, if_neg Bool.false_ne_true] at hlook
          rw [Worker.prune_of_unfinished hfinished] at hmoves
          refine ⟨.look sweeps.length :: moves, ?_⟩
          show (step? act? _ _).bind _ = _
          rw [hlook, List.foldl_cons, Worker.prune_of_unfinished hfinished]
          exact hmoves
      | true =>
          rw [hfinished, if_pos rfl] at hlook
          have hremove : step? act? ⟨service, sweeps ++ [⟨[], met, some i⟩]⟩
              (.remove sweeps.length) =
                some ⟨{ service with worker := service.worker.prune i },
                  sweeps ++ [⟨[], met, none⟩]⟩ := by
            simp only [step?, List.getElem?_concat_length, worker, set_last,
              Worker.untrack_eq_prune hfinished]
          refine ⟨.look sweeps.length :: .remove sweeps.length :: moves, ?_⟩
          show (step? act? _ _).bind _ = _
          rw [hlook, List.foldl_cons]
          show (step? act? _ _).bind _ = _
          rw [hremove]
          exact hmoves

/-- A clean-up that nobody disturbs cleans the table up. -/
theorem exists_play?_cleanup (u : Upkeep J) : ∃ moves v,
    play? (step? act?) u (.sweep :: moves) = some v ∧ v.worker = u.worker.cleanup ∧
      v.IsOver u.sweeps.length := by
  obtain ⟨service, sweeps⟩ := u
  let tasks := service.worker.trackedPositions
  let cleaned : Upkeep J := ⟨{ service with worker := tasks.foldl Worker.prune service.worker },
    sweeps ++ [⟨[], [], none⟩]⟩
  have hmeet : play? (step? act?) ⟨service, sweeps ++ [⟨tasks, [], none⟩]⟩
      (tasks.map (.meet sweeps.length)) = some ⟨service, sweeps ++ [⟨[], tasks, none⟩]⟩ :=
    play?_meet tasks [] fun i hi => Worker.isTracked_iff_mem.mpr hi
  have hlook : ∃ moves, play? (step? act?) ⟨service, sweeps ++ [⟨[], tasks, none⟩]⟩ moves =
      some cleaned := exists_play?_look tasks service
  obtain ⟨moves, hmoves⟩ := hlook
  refine ⟨tasks.map (.meet sweeps.length) ++ moves, cleaned, ?_, ?_, ?_⟩
  · show play? (step? act?) ⟨service, sweeps ++ [⟨tasks, [], none⟩]⟩ _ = _
    rw [play?_append, hmeet]
    exact hmoves
  · exact service.worker.foldl_prune_trackedPositions
  · exact ⟨_, List.getElem?_concat_length, nofun, rfl, rfl⟩

end

/-! ## Every schedule -/

/-- **The table is exact.**  After any schedule:

* a task that was accepted and has not ended is in the table, where a shutdown finds
  it, and anybody who knows its name, if no other task has that name;
* a task that leaves the table has ended, and is not in it again;
* if the worker does not clean up by itself, the tasks in the table are those that
  were accepted and that no clean-up has found to have ended and removed; and of the
  tasks that have ended, a clean-up that begins now leaves none when it is over;
* if it does, a task whose supervisor has ended is not in the table, whether or not
  its handle has been laid ready, nor ever again. -/
theorem table_is_exact {settings : WorkerSettings} {moves : List (UpkeepMove J μ)}
    (hplay : play? (step? act?) (start settings) moves = some u) :
    (∀ i, u.worker.isAccepted i = true → u.worker.isFinished i = false →
      i ∈ u.worker.trackedPositions ∧ ∀ task, u.worker.task? i = some task →
        (u.worker.tasks.map (·.id)).Nodup → u.worker.find? task.id = some i) ∧
    (∀ i, u.worker.isTracked i = true → ∀ move u', u.step? act? move = some u' →
      u'.worker.isTracked i = false → u.worker.isFinished i = true) ∧
    (∀ i, u.worker.isAccepted i = true → u.worker.isTracked i = false → ∀ later v,
      play? (step? act?) u later = some v → v.worker.isTracked i = false) ∧
    (settings.autoCleanup = false → ∀ i, u.worker.isTracked i = true ↔
      u.worker.isAccepted i = true ∧ ¬ Removed act? (start settings) moves i) ∧
    (∀ i, u.worker.isFinished i = true → ∀ u' later v, u.step? act? .sweep = some u' →
      play? (step? act?) u' later = some v → v.IsOver u.sweeps.length →
        v.worker.isTracked i = false) ∧
    (settings.autoCleanup = true → ∀ i view, u.worker.supervision? i = some view →
      view.stage = .ended → ∀ later v, play? (step? act?) u later = some v →
        v.worker.isTracked i = false) := by
  obtain ⟨h, served, hserved⟩ := exists_serves (sound_start settings) hplay
  refine ⟨?_, ?_, ?_, ?_, ?_, ?_⟩
  · intro i haccepted hunfinished
    obtain ⟨view, hview⟩ := Worker.isAccepted_iff.mp haccepted
    have htracked : u.worker.isTracked i = true := by
      rw [Worker.isTracked_eq hview]
      refine (h.kept.fits i view hview).tracked.resolve_right ?_
      intro hfinished
      have hf := Worker.isFinished_iff.mpr ⟨view, hview, hfinished⟩
      exact absurd (hunfinished.symm.trans hf) Bool.false_ne_true
    refine ⟨Worker.isTracked_iff_mem.mp htracked, ?_⟩
    intro task htask hnodup
    exact Worker.find?_of_nodup hnodup htask htracked
  · intro i htracked move u' hstep hleft
    exact (h.finished_of_left hstep htracked hleft).1
  · intro i haccepted hout later v hlater
    exact h.untracked_of_play hlater haccepted hout
  · intro hmanual i
    refine ⟨?_, ?_⟩
    · intro htracked
      obtain ⟨view, hview, -⟩ := Worker.isTracked_iff.mp htracked
      refine ⟨Worker.isAccepted_iff.mpr ⟨view, hview⟩, ?_⟩
      intro hremoved
      have hout := untracked_of_removed (sound_start settings) hplay hremoved
      exact absurd (hout.symm.trans htracked) Bool.false_ne_true
    · rintro ⟨haccepted, hnever⟩
      refine eq_true_of_ne_false ?_
      intro hout
      exact hnever (removed_of_untracked hmanual hplay haccepted hout)
  · intro i hfinished u' later v hbegin hlater hover
    exact h.untracked_of_isOver hfinished hbegin hlater hover
  · intro hauto i view hview hended later v hlater
    have hout := Service.untracked_of_play hauto hserved hview hended
    exact h.untracked_of_play hlater (Worker.isAccepted_iff.mpr ⟨view, hview⟩)
      ((Worker.isTracked_eq hview).trans hout)

end

/-- One of two tasks is cancelled before it has begun. -/
def cancelledEarly : List (UpkeepMove PlainJob Unit) :=
  [.serve (.submit "first" .heeding), .serve (.submit "second" .heedless),
    .serve (.close 0 .cancelled), .serve (.supervise 0), .serve (.supervise 0),
    .serve (.supervise 0), .serve (.supervise 0)]

/-- A clean-up removes it and leaves the other; a worker that cleans up by itself has
removed it already, though its handle is laid ready only now. -/
theorem table_is_exact_after_cleanup :
    (∃ u u' v : Upkeep PlainJob,
      play? (step? PlainJob.act?) (start Service.patient) cancelledEarly = some u ∧
      u.step? PlainJob.act? .sweep = some u' ∧
      play? (step? PlainJob.act?) u'
        [.meet 0 1, .meet 0 0, .look 0, .serve (.supervise 1), .look 0, .remove 0] = some v ∧
      u.worker.isTracked 0 = true ∧ v.worker.isTracked 0 = false ∧
      u.worker.find? "second" = some 1) ∧
    ∃ u v : Upkeep PlainJob,
      play? (step? PlainJob.act?) (start ⟨none, .ofMillis 10, true⟩) cancelledEarly = some u ∧
      play? (step? PlainJob.act?) u [.serve (.deposit 0)] = some v ∧
      v.worker.isTracked 0 = false := by
  obtain ⟨hreached, -, -, hexact, hswept, -⟩ := @table_is_exact _ _ _ PlainJob.act? _
    Service.patient cancelledEarly rfl
  obtain ⟨-, -, -, -, -, hended⟩ := @table_is_exact _ _ _ PlainJob.act? _
    ⟨none, .ofMillis 10, true⟩ cancelledEarly rfl
  refine ⟨⟨_, _, _, rfl, rfl, rfl, rfl, ?_, ?_⟩, _, _, rfl, rfl, ?_⟩
  · exact hswept 0 rfl _ [.meet 0 1, .meet 0 0, .look 0, .serve (.supervise 1), .look 0, .remove 0]
      _ rfl rfl ⟨_, rfl, nofun, rfl, rfl⟩
  · exact (hreached 1 rfl rfl).2 _ rfl (by decide)
  · exact hended rfl 0 _ rfl rfl [.serve (.deposit 0)] _ rfl

end Upkeep
end RowBridge.Schedule
