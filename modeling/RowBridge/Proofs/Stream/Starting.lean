/-
# `RowBridge.Proofs.Stream.Starting` — where the start of a stream has gone

A stream keeps the start of its scan until one of five moves takes it away.

    move                                               the start goes    handed over
    a first poll finds the session open, in a runtime  to the scheduler  yes
    a first poll finds the session open, outside one   nowhere           no
    a first poll finds the session closed              nowhere           no
    the stream is cancelled                            nowhere           no
    the stream is dropped                              nowhere           no

`RowStream.isStarted` tells whether the start is gone, and so it is true after
each of the five.  An owner who wants to know whether the scan was handed over
learns it from `isStarted` only while the stream goes on: the last four moves
all end the stream or its consumer, and the first does not.

**Proved here**, for every plan, every queue and every schedule
(`isStarted_iff_handedOver_or_abandoned`): a stream says that it was started
exactly if its scan was handed over or its start was abandoned; as long as the
stream has given no signal and its owner has neither cancelled nor dropped it,
exactly if its scan was handed over; and a scan whose start was abandoned is
never handed over and never run.
-/
import RowBridge.Proofs.Stream.ColdStart
import RowBridge.Proofs.Stream.Discipline
import RowBridge.Proofs.Stream.Terminal

namespace RowBridge.Invocation

variable {Row R : Type}

/-- A move that lets go of the start of a stream without handing the scan over. -/
inductive Abandons (v : Invocation Row R) : Move Row → Prop
  | cancels : Abandons v .cancel
  | drops : Abandons v .drop
  | findsClosed {runtime : Bool} {reception : Reception} {reason : ClosureReason} :
      v.poll = some .entering → v.stream.done = false → v.session.reason = some reason →
      Abandons v (.poll runtime reception)
  | strands {reception : Reception} : v.poll = some .starting →
      Abandons v (.poll false reception)

/-- One of these moves let go of the start of a stream that had not handed its
scan over. -/
def Abandoned (first : Invocation Row R) (made : List (Move Row)) : Prop :=
  ∃ early move late u, made = early ++ move :: late ∧ play? step? first early = some u ∧
    u.stream.handovers = 0 ∧ u.Abandons move

section
variable {first v v' : Invocation Row R} {move : Move Row} {made : List (Move Row)}

theorem Abandoned.append (h : Abandoned first made) (later : List (Move Row)) :
    Abandoned first (made ++ later) := by
  obtain ⟨early, move, late, u, rfl, hu⟩ := h
  exact ⟨early, move, late ++ later, u, by rw [List.append_assoc, List.cons_append], hu⟩

/-- The start was abandoned earlier, or is with the last move. -/
theorem Abandoned.of_concat (hmade : play? step? first made = some v)
    (h : Abandoned first (made ++ [move])) :
    Abandoned first made ∨ (v.stream.handovers = 0 ∧ v.Abandons move) := by
  obtain ⟨early, move', late, u, heq, hearly, hu⟩ := h
  rcases List.eq_nil_or_concat late with rfl | ⟨late', last, rfl⟩
  · obtain ⟨rfl, hmove⟩ := List.append_inj' heq rfl
    cases List.singleton_inj.mp hmove
    cases hmade.symm.trans hearly
    exact Or.inr hu
  · rw [List.concat_eq_append, ← List.cons_append, ← List.append_assoc] at heq
    obtain ⟨rfl, -⟩ := List.append_inj' heq rfl
    exact Or.inl ⟨early, move', late', u, rfl, hearly, hu⟩

/-! ## One move -/

/-- A stream that loses its start hands the scan over or abandons it. -/
theorem start_cases (hv : v.Coherent) (hstep : v.step? move = some v')
    (hs : v.stream.started = false) (hs' : v'.stream.started = true) :
    0 < v'.stream.handovers ∨ v.Abandons move := by
  have hkept : ∀ {p : Prop}, v.stream.started = true → p :=
    fun hst => absurd (hs.symm.trans hst) Bool.false_ne_true
  cases move with
  | pass => cases hstep; exact hkept hs'
  | close => cases hstep; exact hkept hs'
  | beginPoll =>
      obtain ⟨-, ⟨⟩⟩ := Option.ite_none_right_eq_some.mp hstep
      exact hkept hs'
  | scan m =>
      obtain ⟨scan, -, rfl⟩ := Option.map_eq_some_iff.mp hstep
      exact hkept hs'
  | cancel => exact Or.inr .cancels
  | drop => exact Or.inr .drops
  | poll runtime reception =>
      obtain ⟨stage, hp, rfl⟩ := Option.map_eq_some_iff.mp hstep
      obtain ⟨stream, stage', hg, heq⟩ := advance_eq hv hp runtime reception
      rw [heq, goOn_stream] at hs' ⊢
      cases hg with
      | turnsBack hd hr => exact Or.inr (.findsClosed hp hd hr)
      | strands hruntime => subst hruntime; exact Or.inr (.strands hp)
      | handsOver =>
          rw [RowStream.handOver_handovers]
          exact Or.inl (Nat.succ_pos _)
      -- the other moments of a poll leave the start where it is
      | _ => exact hkept hs'

/-- Nobody asks this stream any more, or only to be told that it has ended. -/
def IsOver (v : Invocation Row R) : Prop :=
  v.stream.done = true ∨ v.stream.isDropped = true

/-- A move that abandons the start ends the stream or its consumer. -/
theorem Abandons.step (h : v.Abandons move) (hv : v.Coherent)
    (hstep : v.step? move = some v') :
    v'.stream.started = true ∧ v'.stream.handovers = v.stream.handovers ∧ v'.IsOver := by
  cases h with
  | cancels =>
      obtain ⟨-, ⟨⟩⟩ := Option.ite_none_right_eq_some.mp hstep
      exact ⟨RowStream.abandonStart_started _, RowStream.abandonStart_handovers _, Or.inl rfl⟩
  | drops =>
      obtain ⟨-, ⟨⟩⟩ := Option.ite_none_right_eq_some.mp hstep
      exact ⟨RowStream.abandonStart_started _, RowStream.abandonStart_handovers _,
        Or.inr v.stream.drop_consumerGone⟩
  | @findsClosed runtime reception reason hp hd hr =>
      obtain ⟨stage, hp', rfl⟩ := Option.map_eq_some_iff.mp hstep
      cases hp.symm.trans hp'
      obtain ⟨stream, stage', hg, heq⟩ := advance_eq hv hp runtime reception
      have hrefused := hg.refused rfl hd hr
      subst hrefused
      rw [heq, IsOver, goOn_stream]
      cases hg with
      | turnsBack =>
          exact ⟨RowStream.abandonStart_started _, RowStream.abandonStart_handovers _, Or.inl rfl⟩
      | stops hl => cases hl
  | @strands reception hp =>
      obtain ⟨stage, hp', rfl⟩ := Option.map_eq_some_iff.mp hstep
      cases hp.symm.trans hp'
      obtain ⟨stream, stage', hg, heq⟩ := advance_eq hv hp false reception
      rw [heq, IsOver, goOn_stream]
      cases hg with
      | strands =>
          exact ⟨RowStream.abandonStart_started _, RowStream.abandonStart_handovers _, Or.inl rfl⟩
      | handsOver hruntime => cases hruntime
      | stops hl => cases hl

/-- A consumer that is gone stays away. -/
theorem isDropped_of_step (hv : v.Coherent) (hstep : v.step? move = some v')
    (h : v.stream.isDropped = true) : v'.stream.isDropped = true := by
  cases move with
  | pass => cases hstep; exact h
  | close => cases hstep; exact (Session.close_consumerGone _ _).trans h
  | poll runtime reception =>
      obtain ⟨stage, hp, -⟩ := Option.map_eq_some_iff.mp hstep
      exact absurd ((hv.present hp).symm.trans h) Bool.false_ne_true
  | scan m =>
      obtain ⟨scan, hs, rfl⟩ := Option.map_eq_some_iff.mp hstep
      exact (Scan.does_of_step? hv.kept.accounts.sound hs).touches.frame.2.2.trans h
  | _ =>
      -- the consumer's own moves take a consumer that is there
      obtain ⟨hf, -⟩ := Option.ite_none_right_eq_some.mp hstep
      exact absurd ((isFree_iff.mp hf).2.symm.trans h) Bool.false_ne_true

theorem IsOver.step (h : v.IsOver) (hv : v.Coherent) (hstep : v.step? move = some v') :
    v'.IsOver :=
  h.imp (fun hd => (rows_eq_of_done hv hd hstep).1) (isDropped_of_step hv hstep)

/-! ## Every schedule -/

/-- What has become of the start of a stream in the course of these moves. -/
structure Disposed (first : Invocation Row R) (made : List (Move Row))
    (v : Invocation Row R) : Prop where
  gone : v.stream.started = true → 0 < v.stream.handovers ∨ Abandoned first made
  lost : Abandoned first made →
    v.stream.started = true ∧ v.stream.handovers = 0 ∧ v.IsOver

theorem Disposed.step (h : Disposed first made v) (hmade : play? step? first made = some v)
    (hv : v.Coherent) (hn : v.Numbered) (hstep : v.step? move = some v') :
    Disposed first (made ++ [move]) v' := by
  refine ⟨?_, ?_⟩
  · intro hs'
    cases hs : v.stream.started with
    | true =>
        rw [handovers_of_started hv hstep hs]
        exact (h.gone hs).imp_right fun habandoned => habandoned.append [move]
    | false =>
        rcases start_cases hv hstep hs hs' with hover | hmove
        · exact Or.inl hover
        · exact Or.inr ⟨made, move, [], v, rfl, hmade, hn.unstarted hs, hmove⟩
  · intro habandoned
    rcases habandoned.of_concat hmade with hbefore | ⟨hzero, hmove⟩
    · obtain ⟨hs, hzero, hover⟩ := h.lost hbefore
      exact ⟨started_of_step hv hstep hs, (handovers_of_started hv hstep hs).trans hzero,
        hover.step hv hstep⟩
    · obtain ⟨hs', hsame, hover⟩ := hmove.step hv hstep
      exact ⟨hs', hsame.trans hzero, hover⟩

end

section
variable {plan : ScanPlan Row R} {capacity : Nat} {stream : RowStream Row R}
  {v : Invocation Row R} {moves : List (Move Row)}

theorem disposed_of_play (hopen : RowStream.open? plan capacity = .ok stream)
    (hplay : play? step? (start stream) moves = some v) : Disposed (start stream) moves v := by
  refine play?_history (P := Disposed (start stream)) ⟨?_, ?_⟩ ?_ hplay
  · cases RowStream.eq_fresh_of_open? hopen
    exact nofun
  · rintro ⟨early, move, late, u, hnil, -⟩
    exact absurd hnil.symm (List.append_ne_nil_of_right_ne_nil _ (List.cons_ne_nil _ _))
  · intro made u u' move hmade h hstep
    obtain ⟨hu, hn⟩ := numbered_of_play hopen hmade
    exact h.step hmade hu hn hstep

/-- Whatever the parties to an invocation do and in whatever order:

* a stream says that it was started exactly if its scan was handed over or its
  start was abandoned;
* as long as it has given no signal and its owner has neither cancelled nor
  dropped it, exactly if its scan was handed over;
* once its start was abandoned, it says so for ever, and its scan is never handed
  over and never run. -/
theorem isStarted_iff_handedOver_or_abandoned
    (hopen : RowStream.open? plan capacity = .ok stream)
    (hplay : play? step? (start stream) moves = some v) :
    (v.stream.isStarted = true ↔
      0 < v.stream.handovers ∨ Abandoned (start stream) moves) ∧
    ((∀ note ∈ v.diary, note.ends = false) → v.stream.isDropped = false →
      (v.stream.isStarted = true ↔ 0 < v.stream.handovers)) ∧
    (Abandoned (start stream) moves → ∀ later w, play? step? v later = some w →
      w.stream.isStarted = true ∧ w.stream.handovers = 0 ∧ w.stream.scan.scans = 0) := by
  have h := disposed_of_play hopen hplay
  obtain ⟨-, hn⟩ := numbered_of_play hopen hplay
  have hhanded : 0 < v.stream.handovers → v.stream.started = true := by
    intro hpos
    refine eq_true_of_ne_false ?_
    intro hs
    exact absurd (hn.unstarted hs) (Nat.ne_of_gt hpos)
  refine ⟨⟨h.gone, ?_⟩, ?_, ?_⟩
  · rintro (hpos | habandoned)
    · exact hhanded hpos
    · exact (h.lost habandoned).1
  · intro hnone hpresent
    refine ⟨?_, hhanded⟩
    intro hs
    refine (h.gone hs).resolve_right ?_
    intro habandoned
    rcases (h.lost habandoned).2.2 with hd | hgone
    · have hopen' := (orderly_of_play hopen hplay).2.open_iff.mpr hnone
      exact absurd (hopen'.symm.trans hd) Bool.false_ne_true
    · exact absurd (hpresent.symm.trans hgone) Bool.false_ne_true
  · intro habandoned later w hlater
    have hplay' : play? step? (start stream) (moves ++ later) = some w := by
      rw [play?_append, hplay]
      exact hlater
    obtain ⟨hs, hzero, -⟩ := (disposed_of_play hopen hplay').lost (habandoned.append later)
    have hruns := (numbered_of_play hopen hplay').2.runs
    rw [hzero] at hruns
    exact ⟨hs, hzero, Nat.le_zero.mp hruns⟩

end

/-- A first poll, from outside a runtime. -/
def strandedPoll : List (Move Nat) := [.beginPoll, .poll false .accepted, .poll false .accepted]

/-- A first poll outside a runtime, and later ones inside: the stream says that it was
started, and nobody ever gets the scan.  A stream that is polled inside and goes on says
so truly. -/
theorem isStarted_of_stranded :
    ∃ v w u : Invocation Nat Nat,
      play? step? (start (.fresh doubling (.fresh 1))) strandedPoll = some v ∧
      Abandoned (start (.fresh doubling (.fresh 1))) strandedPoll ∧
      play? step? v [.beginPoll, .poll true .accepted] = some w ∧
      w.stream.isStarted = true ∧ w.stream.handovers = 0 ∧ w.stream.scan.scans = 0 ∧
      play? step? (start (.fresh doubling (.fresh 1)))
        [.beginPoll, .poll true .accepted, .poll true .accepted] = some u ∧
      (u.stream.isStarted = true ↔ 0 < u.stream.handovers) := by
  have habandoned : Abandoned (start (.fresh doubling (.fresh 1))) strandedPoll :=
    ⟨[.beginPoll, .poll false .accepted], .poll false .accepted, [], _, rfl, rfl, rfl, .strands rfl⟩
  obtain ⟨-, -, hnever⟩ :=
    @isStarted_iff_handedOver_or_abandoned _ _ doubling 1 _ _ strandedPoll rfl rfl
  obtain ⟨-, htruly, -⟩ := @isStarted_iff_handedOver_or_abandoned _ _ doubling 1 _ _
    [.beginPoll, .poll true .accepted, .poll true .accepted] rfl rfl
  obtain ⟨hs, hzero, hunrun⟩ := hnever habandoned [.beginPoll, .poll true .accepted] _ rfl
  exact ⟨_, _, _, rfl, habandoned, rfl, hs, hzero, hunrun, rfl, htruly (by decide) rfl⟩

/-- A stream that is cancelled before its first poll says that it was started, and
has handed nothing over; so does one that a handle cancels, from its first poll on. -/
theorem cancelled_stream_says_started :
    ∃ v w : Invocation Nat Nat,
      play? step? (start (.fresh doubling (.fresh 1))) [.cancel] = some v ∧
      v.stream.isStarted = true ∧ v.stream.handovers = 0 ∧
      play? step? (start (.fresh doubling (.fresh 1)))
        [.close .cancelled, .beginPoll, .poll true .accepted] = some w ∧
      w.stream.isStarted = true ∧ w.stream.handovers = 0 :=
  ⟨_, _, rfl, rfl, rfl, rfl, rfl, rfl⟩

end RowBridge.Invocation
