/-
# `RowBridge.Proofs.Schedule.Calling` — what a call does while it waits

A call waits for its tasks one after the other.  It looks for the handle of the
first; who finds it holds it until the task has ended or, if the call is timed,
until its time is over; who finds none turns to the next task.

    rule      the call        what is noted   afterwards
    misses    looks           missed          turns to the next task
    takes     looks           took            holds the handle
    sees      holds           sawEnd          turns to the next task
    givesUp   holds, timed    gaveUp          turns to the next task
    drops     is under way    dropped         is over
    answers   is over         answered        is over

A log has the entries of all calls in the order in which they were made.  What
one call leaves in it is a `Call.Leaves`, and three things can be read off: what
became of each task (`Leaves.parted`), that only a timed call gives up
(`Leaves.timed`), and that a call does not come back to a task
(`Leaves.holding_of_took`).
-/
import RowBridge.Schedule.Worker

namespace RowBridge.Schedule

/-- What is noted about a worker in use. -/
inductive Entry
  /-- The handle of a task was laid ready. -/
  | laid (i : Nat)
  /-- A supervisor looked at how its job had ended; the session was closed for
  this reason then. -/
  | judged (i : Nat) (reason : Option ClosureReason)
  /-- A call was made, to wait for these tasks. -/
  | called (k : Nat) (purpose : Purpose) (tasks : List Nat)
  | took (k i : Nat)
  /-- The call found no handle of the task. -/
  | missed (k i : Nat)
  | sawEnd (k i : Nat)
  /-- The call held the handle of the task until its time was over. -/
  | gaveUp (k i : Nat)
  /-- The caller stopped waiting. -/
  | dropped (k : Nat)
  /-- The caller was told that the task has this status. -/
  | answered (k i : Nat) (status : TaskStatus)
  deriving DecidableEq, Repr

/-- The call that an entry is about. -/
def Entry.call? : Entry → Option Nat
  | laid _ | judged _ _ => none
  | called k _ _ | took k _ | missed k _ | sawEnd k _ | gaveUp k _ | dropped k
  | answered k _ _ => some k

/-- What has become of a task that a call waited for. -/
def Parted (k i : Nat) (log : List Entry) : Prop :=
  .sawEnd k i ∈ log ∨ .gaveUp k i ∈ log ∨ .missed k i ∈ log

theorem Parted.mono {k i : Nat} {log log' : List Entry} (h : Parted k i log)
    (hsub : log ⊆ log') : Parted k i log' :=
  h.imp (@hsub _) (Or.imp (@hsub _) (@hsub _))

namespace Call

/-- What a call can do next, and what is noted about it. -/
inductive Moves (k : Nat) (call : Call) : Entry → Call → Prop
  | misses {i : Nat} {rest : List Nat} : call.remaining = i :: rest → call.holding = false →
      Moves k call (.missed k i) { call with remaining := rest, holding := false }
  | takes {i : Nat} {rest : List Nat} : call.remaining = i :: rest → call.holding = false →
      Moves k call (.took k i) { call with holding := true }
  | sees {i : Nat} {rest : List Nat} : call.remaining = i :: rest → call.holding = true →
      Moves k call (.sawEnd k i) { call with remaining := rest, holding := false }
  | givesUp {i : Nat} {rest : List Nat} : call.remaining = i :: rest → call.holding = true →
      call.isTimed = true →
      Moves k call (.gaveUp k i) { call with remaining := rest, holding := false }
  | drops {i : Nat} {rest : List Nat} : call.remaining = i :: rest →
      Moves k call (.dropped k) { call with remaining := [], holding := false }
  | answers {i : Nat} {status : TaskStatus} : call.remaining = [] →
      Moves k call (.answered k i status) call

/-- What a call has left in the log since it was made. -/
inductive Leaves (k : Nat) : Call → List Entry → Prop
  | made {purpose : Purpose} {tasks : List Nat} : tasks.Nodup →
      Leaves k ⟨purpose, tasks, false⟩ [.called k purpose tasks]
  | moves {call call' : Call} {entries : List Entry} {entry : Entry} : Leaves k call entries →
      call.Moves k entry call' → Leaves k call' (entries ++ [entry])

section
variable {k : Nat} {call call' : Call} {entry : Entry} {entries : List Entry}

theorem Moves.call? (h : call.Moves k entry call') : entry.call? = some k := by
  cases h <;> rfl

/-- A call turns to no task it was done with. -/
theorem Moves.remaining_subset (h : call.Moves k entry call') :
    call'.remaining ⊆ call.remaining := by
  have hrest : ∀ {i : Nat} {rest : List Nat}, call.remaining = i :: rest →
      rest ⊆ call.remaining := by
    intro i rest hrest
    rw [hrest]
    exact List.subset_cons_self i rest
  cases h with
  | misses h => exact hrest h
  | sees h => exact hrest h
  | givesUp h => exact hrest h
  | drops => exact List.nil_subset _
  | takes => exact List.Subset.refl _
  | answers => exact List.Subset.refl _

theorem Moves.purpose (h : call.Moves k entry call') : call'.purpose = call.purpose := by
  cases h <;> rfl

theorem Moves.isTimed (h : call.Moves k entry call') : call'.isTimed = call.isTimed := by
  cases h <;> rfl

/-- A task is waited for, and then it is not. -/
theorem Moves.remaining (h : call.Moves k entry call') {i : Nat} (hi : i ∈ call.remaining) :
    i ∈ call'.remaining ∨ Parted k i [entry] ∨ entry = .dropped k := by
  -- the first task is the one the entry is about; the others are waited for as before
  have hturn : ∀ {j : Nat} {rest : List Nat} {entry : Entry}, call.remaining = j :: rest →
      Parted k j [entry] → i ∈ rest ∨ Parted k i [entry] ∨ entry = .dropped k := by
    intro j rest entry hrest hparted
    rw [hrest] at hi
    rcases List.mem_cons.mp hi with rfl | hlater
    · exact Or.inr (Or.inl hparted)
    · exact Or.inl hlater
  cases h with
  | misses hrest => exact hturn hrest (Or.inr (Or.inr List.mem_cons_self))
  | takes => exact Or.inl hi
  | sees hrest => exact hturn hrest (Or.inl List.mem_cons_self)
  | givesUp hrest => exact hturn hrest (Or.inr (Or.inl List.mem_cons_self))
  | drops => exact Or.inr (Or.inr rfl)
  | answers => exact Or.inl hi

/-- Every task of a call that was not dropped is still waited for, or its end was
seen, or the call gave up, or found no handle. -/
theorem Leaves.parted (h : Leaves k call entries) {purpose : Purpose} {tasks : List Nat}
    (hcalled : .called k purpose tasks ∈ entries) :
    call.purpose = purpose ∧ (.dropped k ∉ entries →
      ∀ i ∈ tasks, i ∈ call.remaining ∨ Parted k i entries) := by
  induction h with
  | made =>
      cases List.mem_singleton.mp hcalled
      exact ⟨rfl, fun _ i hi => Or.inl hi⟩
  | @moves call call' entries entry _ hm ih =>
      have hearlier : .called k purpose tasks ∈ entries := by
        rcases List.mem_append.mp hcalled with hin | hlast
        · exact hin
        · cases List.mem_singleton.mp hlast
          cases hm
      obtain ⟨hpurpose, hparted⟩ := ih hearlier
      refine ⟨hm.purpose.trans hpurpose, ?_⟩
      intro hkept i hi
      have hkept' : .dropped k ∉ entries := fun hin => hkept (List.mem_append_left _ hin)
      rcases hparted hkept' i hi with hwaits | hbefore
      · rcases hm.remaining hwaits with hwaits' | hnow | rfl
        · exact Or.inl hwaits'
        · exact Or.inr (hnow.mono (List.subset_append_right _ _))
        · exact absurd (List.mem_append_right _ List.mem_cons_self) hkept
      · exact Or.inr (hbefore.mono (List.subset_append_left _ _))

/-- A call that waits as long as it takes never gives up. -/
theorem Leaves.timed (h : Leaves k call entries) {i : Nat} (hgave : .gaveUp k i ∈ entries) :
    call.isTimed = true := by
  induction h with
  | made => cases List.mem_singleton.mp hgave
  | moves _ hm ih =>
      rw [hm.isTimed]
      rcases List.mem_append.mp hgave with hin | hlast
      · exact ih hin
      · cases List.mem_singleton.mp hlast
        cases hm with
        | givesUp _ _ htimed => exact htimed

/-- The only task still waited for whose handle a call has taken is the one whose
handle it holds. -/
theorem Leaves.holding_of_took (h : Leaves k call entries) :
    call.remaining.Nodup ∧ ∀ i ∈ call.remaining, .took k i ∈ entries →
      call.holding = true ∧ call.remaining.head? = some i := by
  induction h with
  | made hnodup =>
      refine ⟨hnodup, ?_⟩
      intro i _ htook
      cases List.mem_singleton.mp htook
  | @moves call call' entries entry _ hm ih =>
      obtain ⟨hnodup, htaken⟩ := ih
      -- a task further down is not the first, so its handle has not been taken
      have hlater : ∀ {j : Nat} {rest : List Nat}, call.remaining = j :: rest → ∀ i ∈ rest,
          i ≠ j ∧ .took k i ∉ entries := by
        intro j rest hrest i hi
        rw [hrest] at hnodup htaken
        have hne : i ≠ j := by
          rintro rfl
          exact (List.nodup_cons.mp hnodup).1 hi
        refine ⟨hne, ?_⟩
        intro htook
        have hfirst := (htaken i (List.mem_cons_of_mem j hi) htook).2
        exact hne (Option.some.inj hfirst).symm
      have hturn : ∀ {j : Nat} {rest : List Nat} {entry : Entry}, call.remaining = j :: rest →
          (∀ i, entry ≠ .took k i) → rest.Nodup ∧ ∀ i ∈ rest, .took k i ∈ entries ++ [entry] →
            false = true ∧ rest.head? = some i := by
        intro j rest entry hrest hother
        refine ⟨(List.nodup_cons.mp (hrest ▸ hnodup)).2, ?_⟩
        intro i hi htook
        rcases List.mem_append.mp htook with hin | hlast
        · exact absurd hin (hlater hrest i hi).2
        · exact absurd (List.mem_singleton.mp hlast).symm (hother i)
      cases hm with
      | misses hrest => exact hturn hrest nofun
      | sees hrest => exact hturn hrest nofun
      | givesUp hrest => exact hturn hrest nofun
      | drops =>
          refine ⟨List.nodup_nil, ?_⟩
          intro i hi
          cases hi
      | @takes j rest hrest =>
          refine ⟨hnodup, ?_⟩
          intro i hi htook
          refine ⟨rfl, ?_⟩
          rcases List.mem_append.mp htook with hin | hlast
          · exact (htaken i hi hin).2
          · cases List.mem_singleton.mp hlast
            show call.remaining.head? = some j
            rw [hrest]
            rfl
      | answers hover =>
          refine ⟨hnodup, ?_⟩
          intro i hi
          rw [hover] at hi
          cases hi

end
end Call
end RowBridge.Schedule
