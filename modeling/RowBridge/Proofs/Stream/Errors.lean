/-
# `RowBridge.Proofs.Stream.Errors` — the errors a stream gives

A poll fails in one of two ways.  It gives the reason for which the session is
closed, or, if it is the first poll and comes from outside a runtime, it says
that it was called there (`Gives.failed_cases`).  What went wrong in the source
is not among the errors of polls.

That the poll outside a runtime is the first one rests on what an unstarted
stream looks like: it has not ended and its diary is empty (`Plain.untouched`).
Every poll that comes to an end has started the stream or has given up starting
it.
-/
import RowBridge.Proofs.Stream.Invocation

namespace RowBridge

variable {Row R : Type}

@[simp] theorem RowStream.abandonStart_started (st : RowStream Row R) :
    st.abandonStart.started = true := by
  unfold abandonStart
  split
  · assumption
  · rfl

namespace PollStage

variable {runtime : Bool} {reception : Reception} {st st' : RowStream Row R}
  {stage stage' : PollStage R}

/-- A moment of a poll fails with a reason, or because it comes from outside a
runtime and the stream was to be started. -/
theorem Gives.failed_cases {error : Error}
    (h : stage.Gives runtime reception st st' (done (.failed error))) :
    (∃ reason, error = .closed reason) ∨
      (error = strandedError ∧ stage = starting ∧ runtime = false) := by
  generalize hlast : (done (.failed error) : PollStage R) = last at h
  cases h with
  | strands hruntime =>
      cases hlast
      exact Or.inr ⟨rfl, rfl, hruntime⟩
  | turnsBack => cases hlast; exact Or.inl ⟨_, rfl⟩
  | stops => cases hlast; exact Or.inl ⟨_, rfl⟩
  | findsNobody => cases hlast; exact Or.inl ⟨_, rfl⟩
  | _ => cases hlast

theorem started_of_looksForClosing (hm : st.Midway stage) (hl : stage.looksForClosing = true) :
    st.started = true := by
  cases stage with
  | checking => exact hm.2.2
  | watching => exact hm.2.2
  | _ => cases hl

end PollStage

namespace Invocation

/-- The errors in a diary are those of polls, and a stream that was not started
has an empty one. -/
structure Plain (v : Invocation Row R) : Prop where
  untouched : v.stream.started = false → v.stream.done = false ∧ v.diary = []
  errors : ∀ error, .told (.failed error) ∈ v.diary →
    (∃ reason, error = .closed reason) ∨ error = PollStage.strandedError

variable {v v' : Invocation Row R} {move : Move Row}

theorem Plain.gives (h : v.Plain) {runtime : Bool} {reception : Reception}
    {stage stage' : PollStage R} {stream : RowStream Row R} (hm : v.stream.Midway stage)
    (hg : stage.Gives runtime reception v.stream stream stage') :
    ({ v with stream := stream }.goOn stage').Plain := by
  refine ⟨?_, ?_⟩
  · rw [goOn_stream]
    intro hs
    have hstarted : ∀ {p : Prop}, stream.started = true → p :=
      fun hs' => absurd (hs.symm.trans hs') Bool.false_ne_true
    cases hg with
    | overAgain hd => exact absurd ((h.untouched hs).1.symm.trans hd) Bool.false_ne_true
    | goesToStart _ _ hs' => exact h.untouched hs'
    | goesToQueue _ _ hs' => exact hstarted hs'
    | turnsBack => exact hstarted (RowStream.abandonStart_started _)
    | strands => exact hstarted (RowStream.abandonStart_started _)
    | handsOver => exact hstarted (v.stream.handOver_started reception)
    | stops hl =>
        have hs' := PollStage.started_of_looksForClosing hm hl
        exact hstarted hs'
    | goesOn => exact hstarted hm.2.2
    | takesRow => exact hstarted hm.2.2
    | takesFinish => exact hstarted hm.2.2
    | findsNobody => exact hstarted hm.2.2
    | findsNothing => exact hstarted hm.2.2
    | leavesBell => exact hstarted hm.2.2
  · intro error hmem
    cases stage' with
    | done next =>
        rcases List.mem_append.mp hmem with hold | hnew
        · exact h.errors error hold
        · cases List.mem_singleton.mp hnew
          exact hg.failed_cases.imp_right And.left
    | _ => exact h.errors error hmem

theorem Plain.step (h : v.Plain) (hv : v.Coherent) (hstep : v.step? move = some v') :
    v'.Plain := by
  cases move with
  | pass => cases hstep; exact h
  | close => cases hstep; exact ⟨h.untouched, h.errors⟩
  | beginPoll =>
      obtain ⟨-, ⟨⟩⟩ := Option.ite_none_right_eq_some.mp hstep
      exact ⟨h.untouched, h.errors⟩
  | poll runtime reception =>
      obtain ⟨stage, hp, rfl⟩ := Option.map_eq_some_iff.mp hstep
      obtain ⟨stream, stage', hg, heq⟩ := advance_eq hv hp runtime reception
      rw [heq]
      exact h.gives (hv.midway stage hp) hg
  | scan m =>
      obtain ⟨scan, -, rfl⟩ := Option.map_eq_some_iff.mp hstep
      exact ⟨h.untouched, h.errors⟩
  | cancel =>
      obtain ⟨-, ⟨⟩⟩ := Option.ite_none_right_eq_some.mp hstep
      refine ⟨?_, ?_⟩
      · intro hs
        exact absurd (hs.symm.trans (RowStream.abandonStart_started _)) Bool.false_ne_true
      · intro error hmem
        rcases List.mem_append.mp hmem with hold | hnew
        · exact h.errors error hold
        · cases List.mem_singleton.mp hnew
  | drop =>
      obtain ⟨-, ⟨⟩⟩ := Option.ite_none_right_eq_some.mp hstep
      refine ⟨?_, h.errors⟩
      intro hs
      exact absurd (hs.symm.trans (RowStream.abandonStart_started _)) Bool.false_ne_true

theorem plain_start {plan : ScanPlan Row R} {capacity : Nat} {stream : RowStream Row R}
    (hopen : RowStream.open? plan capacity = .ok stream) : (start stream).Plain := by
  cases RowStream.eq_fresh_of_open? hopen
  exact ⟨fun _ => ⟨rfl, rfl⟩, nofun⟩

/-- The note about a poll outside a runtime is made by the first poll, in the
moment in which it would have started the stream. -/
theorem Plain.stranded (h : v.Plain) (hv : v.Coherent) (hstep : v.step? move = some v')
    (hbefore : .told (.failed PollStage.strandedError) ∉ v.diary)
    (hafter : .told (.failed PollStage.strandedError) ∈ v'.diary) :
    v.diary = [] ∧ v.poll = some .starting ∧ ∃ reception, move = .poll false reception := by
  cases move with
  | poll runtime reception =>
      obtain ⟨stage, hp, rfl⟩ := Option.map_eq_some_iff.mp hstep
      obtain ⟨stream, stage', hg, heq⟩ := advance_eq hv hp runtime reception
      rw [heq] at hafter
      cases stage' with
      | done next =>
          have hnew := (List.mem_append.mp hafter).resolve_left hbefore
          cases List.mem_singleton.mp hnew
          obtain ⟨reason, hreason⟩ | ⟨-, rfl, rfl⟩ := hg.failed_cases
          · cases hreason
          · exact ⟨(h.untouched (hv.midway _ hp).2.2).2, hp, reception, rfl⟩
      | _ => exact absurd hafter hbefore
  | cancel =>
      obtain ⟨-, ⟨⟩⟩ := Option.ite_none_right_eq_some.mp hstep
      have hnew := (List.mem_append.mp hafter).resolve_left hbefore
      cases List.mem_singleton.mp hnew
  | scan m =>
      obtain ⟨scan, -, rfl⟩ := Option.map_eq_some_iff.mp hstep
      exact absurd hafter hbefore
  | beginPoll =>
      obtain ⟨-, ⟨⟩⟩ := Option.ite_none_right_eq_some.mp hstep
      exact absurd hafter hbefore
  | drop =>
      obtain ⟨-, ⟨⟩⟩ := Option.ite_none_right_eq_some.mp hstep
      exact absurd hafter hbefore
  | close => cases hstep; exact absurd hafter hbefore
  | pass => cases hstep; exact absurd hafter hbefore

end Invocation
end RowBridge
