/-
# `RowBridge.Proofs.Stream.ColdStart` — a scan is handed over once, and run once

A stream that was opened has done nothing yet.  Three looks at the closer stand
between it and its row source:

    who looks      when                          who finds it closed
    the stream     its first poll enters         never hands the scan over
    a worker       a supervisor has its slot     never begins the scan
    the scan       it is begun                   never runs the source

The first look comes once.  Whatever a first poll finds, it marks the stream as
started, and so do cancelling and dropping the stream; only a stream that is not
started hands its scan over (`Untouched`).  A scan that was not handed over is
begun by nobody (`Numbered.standing`), and a scan whose session is closed and
whose source has not been run is never run (`Skipped`).

**Proved here** of streams in use, whoever acts and in whatever order: how often
the scan is handed over and the source is run (`numbered_of_play`), what the
moves before the handover are like (`untouched_of_play`), and what a closing
prevents (`shut_of_play`, `Skipped.step`).
-/
import RowBridge.Proofs.Stream.Errors
import RowBridge.Proofs.Stream.Rejected

namespace RowBridge

variable {Row R : Type}

/-! ## Who runs the source, and who hands the scan over -/

@[simp] theorem RowStream.abandonStart_handovers (st : RowStream Row R) :
    st.abandonStart.handovers = st.handovers := by
  unfold abandonStart
  split <;> rfl

theorem RowStream.handOver_handovers (st : RowStream Row R) (reception : Reception) :
    (st.handOver reception).handovers = st.handovers + 1 := by
  cases reception <;> rfl

namespace PollStage

variable {runtime : Bool} {reception : Reception} {st st' : RowStream Row R}
  {stage stage' : PollStage R}

/-- A moment of a poll hands the scan over, or leaves the number of handovers alone
and queues nothing. -/
theorem Gives.handover_cases (h : stage.Gives runtime reception st st' stage') :
    (st'.handovers = st.handovers ∧
      (st'.scan.phase = st.scan.phase ∨ st'.scan.phase = .discarded)) ∨
      (stage = .starting ∧ runtime = true ∧ st' = st.handOver reception) := by
  cases h with
  | handsOver hr => exact Or.inr ⟨rfl, hr, rfl⟩
  | turnsBack =>
      have hphase := (st.withSession st.session.hush).abandonStart_phase
      exact Or.inl ⟨RowStream.abandonStart_handovers _, hphase⟩
  | strands =>
      have hphase := (st.close .sourceFailure).abandonStart_phase
      exact Or.inl ⟨RowStream.abandonStart_handovers _, hphase⟩
  | _ => exact Or.inl ⟨rfl, Or.inl rfl⟩

/-- The one moment of a poll that leaves a stream unstarted is the first of its
first poll, if the session is found open. -/
theorem Gives.goes_to_start (h : stage.Gives runtime reception st st' stage')
    (hm : st.Midway stage) (hd : st.done = false) (hs : st'.started = false) :
    stage = .entering ∧ st.reason = none ∧ stage' = .starting := by
  have hstarted : ∀ {p : Prop}, st'.started = true → p :=
    fun hs' => absurd (hs.symm.trans hs') Bool.false_ne_true
  cases h with
  | overAgain hd' => exact absurd (hd.symm.trans hd') Bool.false_ne_true
  | goesToStart _ hr => exact ⟨rfl, hr, rfl⟩
  | goesToQueue _ _ hs' => exact hstarted hs'
  | turnsBack => exact hstarted (RowStream.abandonStart_started _)
  | strands => exact hstarted (RowStream.abandonStart_started _)
  | handsOver => exact hstarted (st.handOver_started reception)
  | stops hl =>
      have hs' := started_of_looksForClosing hm hl
      exact hstarted hs'
  | goesOn => exact hstarted hm.2.2
  | takesRow => exact hstarted hm.2.2
  | takesFinish => exact hstarted hm.2.2
  | findsNobody => exact hstarted hm.2.2
  | findsNothing => exact hstarted hm.2.2
  | leavesBell => exact hstarted hm.2.2

end PollStage

namespace Invocation

section
variable {v v' : Invocation Row R} {move : Move Row}

/-! ## One move -/

/-- A move of somebody else than the scan: a poll that is about to start the stream
hands the scan over, inside a runtime, and nobody else does. -/
theorem handover_of_aside (hv : v.Coherent) (hstep : v.step? move = some v')
    (haside : ∀ m, move ≠ .scan m) :
    (v'.stream.handovers = v.stream.handovers ∧
      (v'.phase = v.phase ∨ v'.phase = .discarded)) ∨
      ∃ reception, move = .poll true reception ∧ v.poll = some .starting ∧
        v'.stream = v.stream.handOver reception := by
  cases move with
  | pass => cases hstep; exact Or.inl ⟨rfl, Or.inl rfl⟩
  | close => cases hstep; exact Or.inl ⟨rfl, Or.inl rfl⟩
  | beginPoll =>
      obtain ⟨-, ⟨⟩⟩ := Option.ite_none_right_eq_some.mp hstep
      exact Or.inl ⟨rfl, Or.inl rfl⟩
  | poll runtime reception =>
      obtain ⟨stage, hp, rfl⟩ := Option.map_eq_some_iff.mp hstep
      obtain ⟨stream, stage', hg, heq⟩ := advance_eq hv hp runtime reception
      rw [heq, phase, goOn_stream]
      rcases hg.handover_cases with hsame | ⟨rfl, rfl, rfl⟩
      · exact Or.inl hsame
      · exact Or.inr ⟨reception, rfl, hp, rfl⟩
  | cancel =>
      obtain ⟨-, ⟨⟩⟩ := Option.ite_none_right_eq_some.mp hstep
      exact Or.inl ⟨RowStream.abandonStart_handovers _,
        (v.stream.withSession v.session.cancel).abandonStart_phase⟩
  | drop =>
      obtain ⟨-, ⟨⟩⟩ := Option.ite_none_right_eq_some.mp hstep
      exact Or.inl ⟨RowStream.abandonStart_handovers _,
        (v.stream.withSession v.session.dropConsumer).abandonStart_phase⟩
  | scan m => exact absurd rfl (haside m)

/-- A move after which the number of handovers is another. -/
theorem handover_of_step (hv : v.Coherent) (hstep : v.step? move = some v')
    (hne : v'.stream.handovers ≠ v.stream.handovers) :
    ∃ reception, move = .poll true reception ∧ v.poll = some .starting ∧
      v'.stream = v.stream.handOver reception := by
  cases move with
  | scan m =>
      obtain ⟨scan, -, rfl⟩ := Option.map_eq_some_iff.mp hstep
      exact absurd rfl hne
  | _ => exact (handover_of_aside hv hstep nofun).resolve_left fun hsame => hne hsame.1

/-- A stream that was started stays so. -/
theorem started_of_step (hv : v.Coherent) (hstep : v.step? move = some v')
    (hs : v.stream.started = true) : v'.stream.started = true := by
  cases move with
  | scan m =>
      obtain ⟨scan, -, rfl⟩ := Option.map_eq_some_iff.mp hstep
      exact hs
  | _ => exact (phase_of_aside hv hs hstep nofun).2.1

theorem unstarted_of_step (hv : v.Coherent) (hstep : v.step? move = some v')
    (hs' : v'.stream.started = false) : v.stream.started = false := by
  refine eq_false_of_ne_true ?_
  intro hs
  exact absurd (hs'.symm.trans (started_of_step hv hstep hs)) Bool.false_ne_true

/-- A stream that was started hands nothing over. -/
theorem handovers_of_started (hv : v.Coherent) (hstep : v.step? move = some v')
    (hs : v.stream.started = true) : v'.stream.handovers = v.stream.handovers := by
  refine Decidable.byContradiction ?_
  intro hne
  obtain ⟨reception, -, hp, -⟩ := handover_of_step hv hstep hne
  exact absurd ((hv.midway _ hp).2.2.symm.trans hs) Bool.false_ne_true

/-- A source is run by a scan that was queued in an open session. -/
theorem scans_of_step (hv : v.Coherent) (hstep : v.step? move = some v') :
    v'.stream.scan.scans = v.stream.scan.scans ∨
      (v.phase = .queued ∧ v.session.isClosed = false ∧
        v'.stream.scan.scans = v.stream.scan.scans + 1) := by
  cases move with
  | scan m =>
      obtain ⟨scan, hs, rfl⟩ := Option.map_eq_some_iff.mp hstep
      exact (Scan.does_of_step? hv.kept.accounts.sound hs).scans_cases
  | _ => exact Or.inl (scans_eq_of_aside hv hstep nofun)

/-! ## How often -/

/-- A scan is handed over once at most, and its source run only after that, and
once at most. -/
structure Numbered (v : Invocation Row R) : Prop where
  unrun : v.Unrun
  unstarted : v.stream.started = false → v.stream.handovers = 0
  standing : v.stream.handovers = 0 → v.Standing
  once : v.stream.handovers ≤ 1
  runs : v.stream.scan.scans ≤ v.stream.handovers

theorem Numbered.step (h : v.Numbered) (hv : v.Coherent) (hstep : v.step? move = some v') :
    v'.Numbered := by
  have hunrun := h.unrun.step hv hstep
  cases move with
  | scan m =>
      have hscans := scans_of_step hv hstep
      have hnot : v.stream.handovers ≠ 0 := by
        intro hzero
        exact nomatch ((h.standing hzero).step?_scan hv m).symm.trans hstep
      obtain ⟨scan, hs, rfl⟩ := Option.map_eq_some_iff.mp hstep
      refine ⟨hunrun, h.unstarted, fun hzero => absurd hzero hnot, h.once, ?_⟩
      show scan.scans ≤ v.stream.handovers
      rcases hscans with hsame | ⟨hp, -, hnext⟩
      · rw [show scan.scans = v.stream.scan.scans from hsame]
        exact h.runs
      · rw [show scan.scans = v.stream.scan.scans + 1 from hnext, h.unrun (by rw [hp]; rfl)]
        exact Nat.pos_of_ne_zero hnot
  | _ =>
      have hscans := scans_eq_of_aside hv hstep nofun
      have hruns := h.runs
      rcases handover_of_aside hv hstep nofun with ⟨hsame, hphase⟩ | ⟨reception, -, hp, hstream⟩
      · refine ⟨hunrun, ?_, ?_, hsame ▸ h.once, by rw [hscans, hsame]; exact hruns⟩
        · intro hs'
          rw [hsame]
          exact h.unstarted (unstarted_of_step hv hstep hs')
        · intro hzero
          have hstand := h.standing (hsame ▸ hzero)
          exact hphase.elim (fun hp => hstand.imp hp.trans hp.trans) Or.inr
      · have hzero := h.unstarted (hv.midway _ hp).2.2
        have hone : v'.stream.handovers = 1 := by
          rw [hstream, RowStream.handOver_handovers, hzero]
        refine ⟨hunrun, ?_, ?_, Nat.le_of_eq hone, ?_⟩
        · intro hs'
          rw [hstream, RowStream.handOver_started] at hs'
          cases hs'
        · intro hnone
          exact nomatch hnone.symm.trans hone
        · rw [hscans, hone]
          omega

theorem numbered_start {plan : ScanPlan Row R} {capacity : Nat} {stream : RowStream Row R}
    (hopen : RowStream.open? plan capacity = .ok stream) : (start stream).Numbered := by
  cases RowStream.eq_fresh_of_open? hopen
  exact ⟨fun _ => rfl, fun _ => rfl, fun _ => Or.inl rfl, Nat.zero_le 1, Nat.le_refl 0⟩

/-! ## The moves before the handover -/

/-- These moves have brought a stream into its first poll, which has found the
session open and is still under way. -/
def FoundOpen (first : Invocation Row R) (made : List (Move Row)) : Prop :=
  ∃ before polled after runtime reception u,
    made = before ++ .beginPoll :: polled ++ .poll runtime reception :: after ∧
    (∀ move ∈ before ++ polled ++ after, move ≠ .beginPoll) ∧
    play? step? first (before ++ .beginPoll :: polled) = some u ∧
    u.poll = some .entering ∧ u.session.reason = none

/-- How far the first poll of a stream has come that has not been started. -/
inductive Opening (first : Invocation Row R) : List (Move Row) → Option (PollStage R) → Prop
  | unpolled {made : List (Move Row)} : (∀ move ∈ made, move ≠ .beginPoll) →
      Opening first made none
  | enters {before polled : List (Move Row)} : (∀ move ∈ before ++ polled, move ≠ .beginPoll) →
      Opening first (before ++ .beginPoll :: polled) (some .entering)
  | starts {made : List (Move Row)} : FoundOpen first made → Opening first made (some .starting)

theorem Opening.grow {first : Invocation Row R} {made : List (Move Row)}
    {poll : Option (PollStage R)} (h : Opening first made poll) (hmove : move ≠ .beginPoll) :
    Opening first (made ++ [move]) poll := by
  have hmore : ∀ {moves : List (Move Row)}, (∀ move ∈ moves, move ≠ .beginPoll) →
      ∀ other ∈ moves ++ [move], other ≠ .beginPoll := by
    intro moves hmoves other hother
    rcases List.mem_append.mp hother with hold | hlast
    · exact hmoves other hold
    · exact List.mem_singleton.mp hlast ▸ hmove
  cases h with
  | unpolled hnone => exact .unpolled (hmore hnone)
  | @enters before polled hnone =>
      rw [List.append_assoc, List.cons_append]
      refine .enters ?_
      rw [← List.append_assoc]
      exact hmore hnone
  | starts hfound =>
      obtain ⟨before, polled, after, runtime, reception, u, rfl, hnone, hfound⟩ := hfound
      refine .starts ⟨before, polled, after ++ [move], runtime, reception, u, ?_, ?_, hfound⟩
      · rw [List.append_assoc, List.cons_append]
      · rw [← List.append_assoc]
        exact hmore hnone

/-- A stream that has not been started has not ended, and was neither cancelled nor
dropped. -/
structure Untouched (first : Invocation Row R) (made : List (Move Row))
    (v : Invocation Row R) : Prop where
  goesOn : v.stream.done = false
  spared : ∀ move ∈ made, move ≠ .cancel ∧ move ≠ .drop
  opening : Opening first made v.poll

theorem Untouched.step {first : Invocation Row R} {made : List (Move Row)}
    (h : Untouched first made v) (hmade : play? step? first made = some v) (hv : v.Coherent)
    (hs : v.stream.started = false) (hstep : v.step? move = some v')
    (hs' : v'.stream.started = false) : Untouched first (made ++ [move]) v' := by
  have hmore : move ≠ .cancel → move ≠ .drop →
      ∀ other ∈ made ++ [move], other ≠ .cancel ∧ other ≠ .drop := by
    intro hcancel hdrop other hother
    rcases List.mem_append.mp hother with hold | hlast
    · exact h.spared other hold
    · cases List.mem_singleton.mp hlast
      exact ⟨hcancel, hdrop⟩
  cases move with
  | pass => cases hstep; exact ⟨h.goesOn, hmore nofun nofun, h.opening.grow nofun⟩
  | close => cases hstep; exact ⟨h.goesOn, hmore nofun nofun, h.opening.grow nofun⟩
  | beginPoll =>
      obtain ⟨hf, ⟨⟩⟩ := Option.ite_none_right_eq_some.mp hstep
      have hopening := h.opening
      rw [(isFree_iff.mp hf).1] at hopening
      refine ⟨h.goesOn, hmore nofun nofun, ?_⟩
      cases hopening with
      | unpolled hnone => exact .enters (by rwa [List.append_nil])
  | poll runtime reception =>
      obtain ⟨stage, hp, rfl⟩ := Option.map_eq_some_iff.mp hstep
      obtain ⟨stream, stage', hg, heq⟩ := advance_eq hv hp runtime reception
      rw [heq, goOn_stream] at hs'
      obtain ⟨rfl, hr, rfl⟩ := hg.goes_to_start (hv.midway stage hp) h.goesOn hs'
      have hopening := h.opening
      rw [hp] at hopening
      rw [heq]
      have hd : stream.done = false := by
        rw [hg.done_eq nofun]
        exact h.goesOn
      refine ⟨hd, hmore nofun nofun, .starts ?_⟩
      cases hopening with
      | @enters before polled hnone =>
          refine ⟨before, polled, [], runtime, reception, v, rfl, ?_, hmade, hp, hr⟩
          rw [List.append_nil]
          exact hnone
  | scan m =>
      have hstand : v.Standing := Or.inl (hv.kept.deferred hs)
      exact nomatch (hstand.step?_scan hv m).symm.trans hstep
  | cancel =>
      obtain ⟨-, ⟨⟩⟩ := Option.ite_none_right_eq_some.mp hstep
      exact nomatch hs'.symm.trans
        (v.stream.withSession v.session.cancel).abandonStart_started
  | drop =>
      obtain ⟨-, ⟨⟩⟩ := Option.ite_none_right_eq_some.mp hstep
      exact nomatch hs'.symm.trans
        (v.stream.withSession v.session.dropConsumer).abandonStart_started

/-! ## Closings that come first -/

/-- The session was closed before a first poll has looked at the closer. -/
structure Shut (v : Invocation Row R) : Prop where
  closed : v.session.isClosed = true
  unasked : v.stream.handovers = 0
  notStarting : v.poll ≠ some .starting

theorem isClosed_of_isClosed (hv : v.Coherent) (hstep : v.step? move = some v')
    (hc : v.session.isClosed = true) : v'.session.isClosed = true := by
  obtain ⟨reason, hr⟩ := Option.isSome_iff_exists.mp hc
  exact Session.isClosed_of_reason (reason_of_step hv hr hstep)

theorem Shut.step (h : v.Shut) (hv : v.Coherent) (hstep : v.step? move = some v') : v'.Shut := by
  have hunasked : v'.stream.handovers = 0 := by
    rw [← h.unasked]
    refine Decidable.byContradiction ?_
    intro hne
    obtain ⟨reception, -, hp, -⟩ := handover_of_step hv hstep hne
    exact h.notStarting hp
  refine ⟨isClosed_of_isClosed hv hstep h.closed, hunasked, ?_⟩
  cases move with
  | pass => cases hstep; exact h.notStarting
  | close => cases hstep; exact h.notStarting
  | beginPoll =>
      obtain ⟨-, ⟨⟩⟩ := Option.ite_none_right_eq_some.mp hstep
      exact nofun
  | scan m =>
      obtain ⟨scan, -, rfl⟩ := Option.map_eq_some_iff.mp hstep
      exact h.notStarting
  | poll runtime reception =>
      obtain ⟨stage, hp, rfl⟩ := Option.map_eq_some_iff.mp hstep
      obtain ⟨stream, stage', hg, heq⟩ := advance_eq hv hp runtime reception
      rw [heq]
      cases hg with
      | goesToStart _ hr =>
          have hopen : v.session.isClosed = false := by
            rw [Session.isClosed_eq_isSome, show v.session.reason = none from hr]
            rfl
          exact absurd (hopen.symm.trans h.closed) Bool.false_ne_true
      | _ => exact nofun
  | cancel =>
      obtain ⟨-, ⟨⟩⟩ := Option.ite_none_right_eq_some.mp hstep
      exact h.notStarting
  | drop =>
      obtain ⟨-, ⟨⟩⟩ := Option.ite_none_right_eq_some.mp hstep
      exact h.notStarting

/-- The session was closed before the source was run. -/
structure Skipped (v : Invocation Row R) : Prop where
  closed : v.session.isClosed = true
  unrun : v.stream.scan.scans = 0

theorem Skipped.step (h : v.Skipped) (hv : v.Coherent) (hstep : v.step? move = some v') :
    v'.Skipped := by
  refine ⟨isClosed_of_isClosed hv hstep h.closed, ?_⟩
  rcases scans_of_step hv hstep with hsame | ⟨-, hopen, -⟩
  · exact hsame.trans h.unrun
  · exact absurd (hopen.symm.trans h.closed) Bool.false_ne_true

end

/-! ## Every schedule -/

section
variable {plan : ScanPlan Row R} {capacity : Nat} {stream : RowStream Row R}
  {moves : List (Move Row)} {v w : Invocation Row R}

/-- A stream in use is coherent, and its handovers and runs are numbered. -/
theorem numbered_of_play (hopen : RowStream.open? plan capacity = .ok stream)
    (hplay : play? step? (start stream) moves = some v) : v.Coherent ∧ v.Numbered :=
  play?_preserves (P := fun v : Invocation Row R => v.Coherent ∧ v.Numbered)
    (fun hv hstep => ⟨hv.1.step hstep, hv.2.step hv.1 hstep⟩)
    ⟨coherent_start hopen, numbered_start hopen⟩ hplay

/-- The moves that have left a stream unstarted. -/
theorem untouched_of_play (hopen : RowStream.open? plan capacity = .ok stream)
    (hplay : play? step? (start stream) moves = some v) (hs : v.stream.started = false) :
    Untouched (start stream) moves v := by
  refine play?_history (P := fun made v => v.stream.started = false →
    Untouched (start stream) made v) ?_ ?_ hplay hs
  · intro _
    cases RowStream.eq_fresh_of_open? hopen
    exact ⟨rfl, nofun, .unpolled nofun⟩
  · intro made u u' move hmade h hstep hs'
    have hu := (numbered_of_play hopen hmade).1
    have hs := unstarted_of_step hu hstep hs'
    exact (h hs).step hmade hu hs hstep hs'

/-- A stream that nobody has polled has no poll under way and has handed nothing
over. -/
theorem unpolled_of_play (hopen : RowStream.open? plan capacity = .ok stream)
    (hplay : play? step? (start stream) moves = some v)
    (hnone : ∀ move ∈ moves, move ≠ .beginPoll) : v.poll = none ∧ v.stream.handovers = 0 := by
  have halong : Along step? (fun _ move => move ≠ .beginPoll) (start stream) moves :=
    Along.of_forall (fun move hmove _ => hnone move hmove) _
  refine (halong.preserves (P := fun v : Invocation Row R => v.Coherent ∧ v.poll = none ∧
    v.stream.handovers = 0) ?_ ⟨coherent_start hopen, rfl, ?_⟩ hplay).2
  · rintro u u' move ⟨hu, hp, hzero⟩ hmove hstep
    have hzero' : u'.stream.handovers = 0 := by
      rw [← hzero]
      refine Decidable.byContradiction ?_
      intro hne
      obtain ⟨reception, -, hstarting, -⟩ := handover_of_step hu hstep hne
      cases hp.symm.trans hstarting
    refine ⟨hu.step hstep, ?_, hzero'⟩
    cases move with
    | beginPoll => exact absurd rfl hmove
    | poll runtime reception =>
        obtain ⟨stage, hstage, -⟩ := Option.map_eq_some_iff.mp hstep
        cases hp.symm.trans hstage
    | pass => cases hstep; exact hp
    | close => cases hstep; exact hp
    | scan m =>
        obtain ⟨scan, -, rfl⟩ := Option.map_eq_some_iff.mp hstep
        exact hp
    | cancel =>
        obtain ⟨-, ⟨⟩⟩ := Option.ite_none_right_eq_some.mp hstep
        exact hp
    | drop =>
        obtain ⟨-, ⟨⟩⟩ := Option.ite_none_right_eq_some.mp hstep
        exact hp
  · cases RowStream.eq_fresh_of_open? hopen
    rfl

/-- A stream whose session was closed before its first poll hands nothing over, and
its source is not run. -/
theorem shut_of_play (hopen : RowStream.open? plan capacity = .ok stream)
    (hplay : play? step? (start stream) moves = some v)
    (hnone : ∀ move ∈ moves, move ≠ .beginPoll) (hclosed : v.session.isClosed = true)
    {later : List (Move Row)} (hlater : play? step? v later = some w) :
    w.stream.handovers = 0 ∧ w.stream.scan.scans = 0 := by
  obtain ⟨hp, hzero⟩ := unpolled_of_play hopen hplay hnone
  have hv := numbered_of_play hopen hplay
  have hshut : v.Shut := ⟨hclosed, hzero, by rw [hp]; exact nofun⟩
  obtain ⟨-, hnumbered, hlast⟩ := play?_preserves
    (P := fun v : Invocation Row R => v.Coherent ∧ v.Numbered ∧ v.Shut)
    (fun hv hstep => ⟨hv.1.step hstep, hv.2.1.step hv.1 hstep, hv.2.2.step hv.1 hstep⟩)
    ⟨hv.1, hv.2, hshut⟩ hlater
  have hruns := hnumbered.runs
  rw [hlast.unasked] at hruns
  exact ⟨hlast.unasked, Nat.le_zero.mp hruns⟩

/-- The source of a stream whose session was closed before it was run is not run. -/
theorem skipped_of_play (hv : v.Coherent) (h : v.Skipped) {later : List (Move Row)}
    (hlater : play? step? v later = some w) : w.stream.scan.scans = 0 := by
  refine (play?_preserves (P := fun v : Invocation Row R => v.Coherent ∧ v.Skipped) ?_
    ⟨hv, h⟩ hlater).2.unrun
  rintro u u' move ⟨hu, hskipped⟩ hstep
  exact ⟨hu.step hstep, hskipped.step hu hstep⟩

/-- A stream that was cancelled or dropped hands nothing over. -/
theorem handovers_of_play (hopen : RowStream.open? plan capacity = .ok stream)
    (hplay : play? step? (start stream) moves = some v) (hended : .cancel ∈ moves ∨ .drop ∈ moves)
    {later : List (Move Row)} (hlater : play? step? v later = some w) :
    w.stream.handovers = v.stream.handovers := by
  have hs : v.stream.started = true := by
    refine eq_true_of_ne_false ?_
    intro hs
    have hspared := (untouched_of_play hopen hplay hs).spared
    rcases hended with hin | hin
    · exact (hspared _ hin).1 rfl
    · exact (hspared _ hin).2 rfl
  refine (play?_preserves (P := fun u : Invocation Row R => u.Coherent ∧
    u.stream.started = true ∧ u.stream.handovers = v.stream.handovers) ?_
    ⟨(numbered_of_play hopen hplay).1, hs, rfl⟩ hlater).2.2
  rintro u u' move ⟨hu, hs, hsame⟩ hstep
  exact ⟨hu.step hstep, started_of_step hu hstep hs, (handovers_of_started hu hstep hs).trans hsame⟩

/-- The moves before a handover. -/
theorem foundOpen_of_handover (hopen : RowStream.open? plan capacity = .ok stream)
    (hplay : play? step? (start stream) moves = some v) (hp : v.poll = some .starting) :
    FoundOpen (start stream) moves ∧ ∀ move ∈ moves, move ≠ .cancel ∧ move ≠ .drop := by
  have hv := (numbered_of_play hopen hplay).1
  have huntouched := untouched_of_play hopen hplay (hv.midway _ hp).2.2
  refine ⟨?_, huntouched.spared⟩
  have hopening := huntouched.opening
  rw [hp] at hopening
  cases hopening with
  | starts hfound => exact hfound

end
end Invocation
end RowBridge
