/-
# `RowBridge.Proofs.Stream.Courses` — fair courses that are there

A consumer may go on polling a stream that has ended: it is told the end again
and again.  So every schedule that ends a stream and its scan goes on as a fair
course (`exists_fair`), and what is said about peaceful fair courses is said
about something.
-/
import RowBridge.Proofs.Stream.Progress

namespace RowBridge.Invocation

variable {Row R : Type}

/-- The stream has ended, the scan makes no move, and the consumer is there. -/
structure Rests (v : Invocation Row R) : Prop where
  done : v.stream.done = true
  idle : ¬ UnderWay v
  present : v.session.consumerGone = false
  poll : v.poll = none ∨ v.poll = some .entering

/-- The consumer polls once more. -/
def pollOn (v : Invocation Row R) : Move Row :=
  match v.poll with
  | none => .beginPoll
  | some _ => .poll true .accepted

/-- The state of a resting invocation after so many moves of its consumer. -/
def polledOn (v : Invocation Row R) : Nat → Invocation Row R
  | 0 => v
  | n + 1 => ((v.polledOn n).step? (v.polledOn n).pollOn).getD (v.polledOn n)

/-- A resting invocation can be polled, and rests. -/
theorem Rests.step {v : Invocation Row R} (h : v.Rests) :
    ∃ v', v.step? v.pollOn = some v' ∧ v'.Rests := by
  rcases h.poll with hp | hp
  · have hfree : v.isFree = true := isFree_iff.mpr ⟨hp, h.present⟩
    refine ⟨{ v with poll := some .entering }, ?_, h.done, h.idle, h.present, Or.inr rfl⟩
    rw [pollOn, hp]
    exact if_pos hfree
  · have hadvance : v.advance true .accepted .entering =
        { v with stream := v.stream.withSession v.session.hush }.goOn (.done .finished) := by
      have hd : (v.stream.withSession v.stream.session.hush).done = true := h.done
      simp only [advance, PollStage.advance, RowStream.enter]
      rw [if_pos hd]
      rfl
    refine ⟨{ v with stream := v.stream.withSession v.session.hush }.goOn (.done .finished), ?_,
      h.done, h.idle, h.present, Or.inl rfl⟩
    rw [pollOn, hp]
    exact (congrArg (Option.map (v.advance true .accepted)) hp).trans (congrArg some hadvance)

theorem Rests.polledOn {v : Invocation Row R} (h : v.Rests) : ∀ n, (v.polledOn n).Rests := by
  intro n
  induction n with
  | zero => exact h
  | succ n ih =>
      obtain ⟨v', hstep, hv'⟩ := ih.step
      rw [Invocation.polledOn, hstep]
      exact hv'

/-- The consumer of a resting invocation polls for ever. -/
def restCourse (v : Invocation Row R) (h : v.Rests) : History Row R where
  state := v.polledOn
  move n := (v.polledOn n).pollOn
  next n := by
    obtain ⟨v', hstep, -⟩ := (h.polledOn n).step
    rw [polledOn, hstep]
    rfl

/-- The consumer's next move is a move of a poll. -/
theorem pollOn_eq (v : Invocation Row R) :
    v.pollOn = .beginPoll ∨ v.pollOn = .poll true .accepted := by
  unfold pollOn
  split
  · exact Or.inl rfl
  · exact Or.inr rfl

theorem pollOn_undisturbed (v : Invocation Row R) : Undisturbed v v.pollOn := by
  rcases pollOn_eq v with hmove | hmove
  · rw [hmove]
    trivial
  · rw [hmove]
    exact fun _ => ⟨rfl, rfl⟩

theorem pollOn_follows (v : Invocation Row R) (script : Script Row) :
    Follows script v v.pollOn := by
  rcases pollOn_eq v with hmove | hmove <;> rw [hmove] <;> trivial

theorem pollOn_timely (v : Invocation Row R) : Timely v v.pollOn := by
  rcases pollOn_eq v with hmove | hmove <;> rw [hmove] <;> trivial

/-- A schedule after which the invocation rests goes on as a fair course, on
which everything is allowed that was allowed so far, and polls. -/
theorem exists_fair {allowed : Invocation Row R → Move Row → Prop} {s t : Invocation Row R}
    {moves : List (Move Row)} (hplay : play? step? s moves = some t)
    (halong : Along step? allowed s moves) (ht : t.Rests)
    (hpolls : ∀ v : Invocation Row R, v.Rests → allowed v v.pollOn) :
    ∃ c : History Row R, c.state 0 = s ∧
      (∀ n, allowed (c.state n) (c.move n)) ∧ Fair c := by
  obtain ⟨c, hc, hallowed, htail⟩ := Course.exists_of_play? (restCourse t ht) rfl
    (fun n => hpolls _ (ht.polledOn n)) hplay halong
  refine ⟨c, hc, hallowed, ?_, ?_⟩
  · refine Course.Recurs.of_later moves.length fun n => Or.inr ?_
    rw [(htail n).1]
    exact (ht.polledOn n).idle
  · refine Course.Recurs.of_later moves.length ?_
    intro n
    rw [(htail n).2]
    rcases pollOn_eq (t.polledOn n) with hmove | hmove
    · exact Or.inl hmove
    · exact Or.inr ⟨_, _, hmove⟩

end RowBridge.Invocation
