/-
# `RowBridge.Proofs.Stream.Discipline` — rows, one signal, and then nothing

Leaving out the polls that found nothing, what a stream gives over its whole
life has one shape (`Disciplined`): rows, then at most one signal, which is the
end or an error, and after the signal the end again and again.  A stream gives
no signal before it has ended, and one that has ended without a signal was
cancelled by its owner.
-/
import RowBridge.Proofs.Stream.Invocation

namespace RowBridge.Invocation

variable {Row R : Type}

/-- What may follow the rows. -/
def Terminal (tail : List (Next R)) : Prop :=
  tail = [] ∨ ∃ signal n, tail = signal :: List.replicate n .finished ∧
    (signal = .finished ∨ ∃ error, signal = .failed error)

/-- What the polls gave: rows, and then what may follow them. -/
structure Disciplined (tail : List (Next R)) (v : Invocation Row R) : Prop where
  answers_eq : v.answers = v.rows.map .row ++ tail
  terminal : Terminal tail
  open_nil : v.stream.done = false → tail = []
  cancelled : v.stream.done = true → tail = [] → .cancelled ∈ v.diary

/-- The end can be announced again. -/
theorem Terminal.again {tail : List (Next R)} (h : Terminal tail) :
    Terminal (tail ++ [.finished]) := by
  rcases h with rfl | ⟨signal, n, rfl, hsignal⟩
  · exact Or.inr ⟨.finished, 0, rfl, Or.inl rfl⟩
  · refine Or.inr ⟨signal, n + 1, ?_, hsignal⟩
    rw [List.cons_append, List.replicate_succ']

/-! ## Each move keeps it -/

section
variable {tail : List (Next R)} {v v' : Invocation Row R} {move : Move Row}

theorem disciplined_start {plan : ScanPlan Row R} {capacity : Nat} {stream : RowStream Row R}
    (hopen : RowStream.open? plan capacity = .ok stream) : Disciplined [] (start stream) := by
  cases RowStream.eq_fresh_of_open? hopen
  exact ⟨rfl, Or.inl rfl, fun _ => rfl, nofun⟩

/-- The answers once the consumer has been told something that is not a row. -/
theorem Disciplined.answers_signal (h : Disciplined tail v) (stream : RowStream Row R)
    {next : Next R} (hn : Note.row? (.told next) = none) :
    ({ v with stream := stream }.goOn (.done next)).answers =
      ({ v with stream := stream }.goOn (.done next)).rows.map .row ++
        (tail ++ (Note.answer? (.told next)).toList) := by
  rw [answers_goOn_done, rows_goOn_done, hn, ← List.append_assoc]
  exact congrArg (· ++ _) (h.answers_eq.trans (by rw [Option.toList_none, List.append_nil]; rfl))

/-- The first signal ends the stream. -/
theorem Disciplined.signals (h : Disciplined tail v) (ho : v.stream.done = false)
    {stream : RowStream Row R} (hd : stream.done = true) {next : Next R}
    (hn : next = .finished ∨ ∃ error, next = .failed error) :
    ∃ tail', Disciplined tail' ({ v with stream := stream }.goOn (.done next)) := by
  cases h.open_nil ho
  refine ⟨[next], ?_, Or.inr ⟨next, 0, rfl, hn⟩, ?_, fun _ => nofun⟩
  · rcases hn with rfl | ⟨error, rfl⟩
    · exact h.answers_signal stream rfl
    · exact h.answers_signal stream rfl
  · intro ho'
    exact absurd (ho'.symm.trans hd) Bool.false_ne_true

/-- A moment of a poll. -/
theorem Disciplined.polls (h : Disciplined tail v) {stream : RowStream Row R} {stage : PollStage R}
    (ht : stage.Tells v.session v.stream.done stream.session stream.done) :
    ∃ tail', Disciplined tail' ({ v with stream := stream }.goOn stage) := by
  generalize stream.session = session at ht
  generalize hd : stream.done = ended at ht
  cases ht with
  | goesOn _ hne =>
      rw [goOn_of_ne _ hne]
      exact ⟨tail, h.answers_eq, h.terminal, fun ho => h.open_nil (hd.symm.trans ho),
        fun he => h.cancelled (hd.symm.trans he)⟩
  | nothing =>
      refine ⟨tail, ?_, h.terminal, fun ho => h.open_nil (hd.symm.trans ho), ?_⟩
      · exact (h.answers_signal stream rfl).trans (congrArg _ (List.append_nil tail))
      · intro he ht
        exact List.mem_append_left _ (h.cancelled (hd.symm.trans he) ht)
  | again he =>
      refine ⟨tail ++ [.finished], h.answers_signal stream rfl, h.terminal.again, ?_,
        fun _ hn => absurd hn (List.append_ne_nil_of_right_ne_nil _ nofun)⟩
      intro ho
      exact absurd (ho.symm.trans (hd.trans he)) Bool.false_ne_true
  | fails ho => exact h.signals ho hd (Or.inr ⟨_, rfl⟩)
  | @row row rest ho =>
      cases h.open_nil ho
      refine ⟨[], ?_, Or.inl rfl, fun _ => rfl, ?_⟩
      · rw [answers_goOn_done, rows_goOn_done, List.map_append, List.append_nil]
        exact congrArg (· ++ [.row row]) (h.answers_eq.trans (List.append_nil _))
      · intro he
        exact absurd (ho.symm.trans (hd.symm.trans he)) Bool.false_ne_true
  | finish ho => exact h.signals ho hd (Or.inl rfl)

/-- Every move keeps the shape of what the polls gave. -/
theorem Disciplined.step (h : Disciplined tail v) (hv : v.Coherent)
    (hstep : v.step? move = some v') : ∃ tail', Disciplined tail' v' := by
  cases move with
  | pass => cases hstep; exact ⟨tail, h⟩
  | beginPoll =>
      obtain ⟨-, ⟨⟩⟩ := Option.ite_none_right_eq_some.mp hstep
      exact ⟨tail, h.answers_eq, h.terminal, h.open_nil, h.cancelled⟩
  | poll runtime reception =>
      obtain ⟨stage, hp, rfl⟩ := Option.map_eq_some_iff.mp hstep
      obtain ⟨stream, stage', hg, heq⟩ := advance_eq hv hp runtime reception
      rw [heq]
      exact h.polls (hg.tells (hv.midway stage hp))
  | scan move =>
      obtain ⟨scan, -, rfl⟩ := Option.map_eq_some_iff.mp hstep
      exact ⟨tail, h.answers_eq, h.terminal, h.open_nil, h.cancelled⟩
  | close reason =>
      cases hstep
      exact ⟨tail, h.answers_eq, h.terminal, h.open_nil, h.cancelled⟩
  | cancel =>
      obtain ⟨-, ⟨⟩⟩ := Option.ite_none_right_eq_some.mp hstep
      refine ⟨tail, ?_, h.terminal, nofun, ?_⟩
      · simpa [answers, rows, Note.answer?, Note.row?, List.filterMap_cons] using h.answers_eq
      · intro _ _
        exact List.mem_append_right _ (List.mem_singleton_self _)
  | drop =>
      obtain ⟨-, ⟨⟩⟩ := Option.ite_none_right_eq_some.mp hstep
      exact ⟨tail, h.answers_eq, h.terminal,
        fun ho => h.open_nil (v.stream.drop_done.symm.trans ho),
        fun he => h.cancelled (v.stream.drop_done.symm.trans he)⟩

end

/-! ## After the end -/

section
variable {v v' : Invocation Row R} {move : Move Row}

/-- A stream that has ended gives no more rows. -/
theorem rows_eq_of_done (hv : v.Coherent) (hd : v.stream.done = true)
    (hstep : v.step? move = some v') : v'.stream.done = true ∧ v'.rows = v.rows := by
  cases move with
  | pass => cases hstep; exact ⟨hd, rfl⟩
  | beginPoll =>
      obtain ⟨-, ⟨⟩⟩ := Option.ite_none_right_eq_some.mp hstep
      exact ⟨hd, rfl⟩
  | poll runtime reception =>
      obtain ⟨stage, hp, rfl⟩ := Option.map_eq_some_iff.mp hstep
      obtain ⟨stream, stage', hg, heq⟩ := advance_eq hv hp runtime reception
      rw [heq]
      have ht := hg.tells (hv.midway stage hp)
      rw [goOn_stream]
      generalize stream.session = session at ht
      generalize hd' : stream.done = ended at ht
      cases ht with
      | goesOn _ hne => rw [goOn_of_ne _ hne]; exact ⟨hd, rfl⟩
      | nothing => exact ⟨hd, (rows_goOn_done _ _).trans (List.append_nil _)⟩
      | again => exact ⟨hd, (rows_goOn_done _ _).trans (List.append_nil _)⟩
      | fails ho => exact absurd (ho.symm.trans hd) Bool.false_ne_true
      | row ho => exact absurd (ho.symm.trans hd) Bool.false_ne_true
      | finish ho => exact absurd (ho.symm.trans hd) Bool.false_ne_true
  | scan move =>
      obtain ⟨scan, -, rfl⟩ := Option.map_eq_some_iff.mp hstep
      exact ⟨hd, rfl⟩
  | close reason => cases hstep; exact ⟨hd, rfl⟩
  | cancel =>
      obtain ⟨-, ⟨⟩⟩ := Option.ite_none_right_eq_some.mp hstep
      exact ⟨rfl, by simp [rows, Note.row?]⟩
  | drop =>
      obtain ⟨-, ⟨⟩⟩ := Option.ite_none_right_eq_some.mp hstep
      exact ⟨v.stream.drop_done.trans hd, rfl⟩

end
end RowBridge.Invocation
