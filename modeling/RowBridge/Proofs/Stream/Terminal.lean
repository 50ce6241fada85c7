/-
# `RowBridge.Proofs.Stream.Terminal` — one signal, and what may follow it

The diary of a consumer holds what every poll gave, the polls that found nothing
included, and the consumer's own cancellations.  It has one shape
(`Orderly`): notes that leave the stream open; then, once the stream has ended,
the note that ended it, a signal or a cancellation; and after that only the end,
again and again, and further cancellations.

A poll keeps this shape because it tells the consumer a signal exactly in the
moment in which it ends the stream (`PollStage.Gives.told`).

Two moments of a poll look at the closer before anything else: the first one,
and the one after the scan was handed over.  A reason that is found there is the
poll's answer, whatever is queued (`PollStage.Gives.refused`); no other party
can take the reason back (`reason_of_step`), so the answer is settled from the
time at which the reason is recorded (`answers_closing`).

**Proved here**, for every plan, every queue and every schedule
(`terminal_discipline`): at most one error, nothing but the end after a signal
or a cancellation, the reason before any row, and a size hint that tells the
ended streams from the open ones.
-/
import RowBridge.Proofs.Stream.Delivery

namespace RowBridge

variable {Row R : Type}

namespace Note

/-- A poll gave an error. -/
def isFailure : Note R → Bool
  | .told (.failed _) => true
  | _ => false

/-- A poll gave a terminal signal: the end, or an error. -/
def isSignal : Note R → Bool
  | .told .finished | .told (.failed _) => true
  | _ => false

/-- The stream has ended with this note, at the latest. -/
def ends : Note R → Bool
  | .told .finished | .told (.failed _) | .cancelled => true
  | _ => false

/-- What may still be noted about a stream that has ended. -/
def isEcho : Note R → Bool
  | .told .finished | .cancelled => true
  | _ => false

theorem ends_of_isSignal {note : Note R} (h : note.isSignal = true) : note.ends = true := by
  unfold isSignal at h
  split at h
  · rfl
  · rfl
  · cases h

theorem ends_of_isFailure {note : Note R} (h : note.isFailure = true) : note.ends = true := by
  unfold isFailure at h
  split at h
  · rfl
  · cases h

theorem not_isFailure_of_isEcho {note : Note R} (h : note.isEcho = true) :
    note.isFailure = false := by
  unfold isEcho at h
  split at h
  · rfl
  · rfl
  · cases h

/-- The only answer of a poll to a consumer whose stream has ended. -/
theorem eq_finished_of_isEcho {next : Next R} (h : (Note.told next).isEcho = true) :
    next = .finished := by
  cases next with
  | finished => rfl
  | _ => cases h

end Note

/-- The diaries of an open stream, and of one that has ended. -/
inductive Orderly : Bool → List (Note R) → Prop
  | unended {notes : List (Note R)} : (∀ note ∈ notes, note.ends = false) → Orderly false notes
  | ended {notes echoes : List (Note R)} {last : Note R} : (∀ note ∈ notes, note.ends = false) →
      last.ends = true → (∀ note ∈ echoes, note.isEcho = true) →
      Orderly true (notes ++ last :: echoes)

namespace Orderly

variable {done : Bool} {notes early late : List (Note R)} {note : Note R}

theorem goesOn (h : Orderly false notes) (hn : note.ends = false) :
    Orderly false (notes ++ [note]) := by
  cases h with
  | unended hnotes =>
      refine .unended ?_
      intro other hother
      rcases List.mem_append.mp hother with hother | hother
      · exact hnotes other hother
      · exact List.mem_singleton.mp hother ▸ hn

theorem concat_last (h : Orderly false notes) (hn : note.ends = true) :
    Orderly true (notes ++ [note]) := by
  cases h with
  | unended hnotes => exact .ended hnotes hn nofun

theorem concat_echo (h : Orderly true notes) (hn : note.isEcho = true) :
    Orderly true (notes ++ [note]) := by
  cases h with
  | @ended notes echoes last hnotes hlast hechoes =>
      rw [List.append_assoc, List.cons_append]
      refine .ended hnotes hlast ?_
      intro other hother
      rcases List.mem_append.mp hother with hother | hother
      · exact hechoes other hother
      · exact List.mem_singleton.mp hother ▸ hn

/-- A stream has ended as soon as its diary says so. -/
theorem done_iff (h : Orderly done notes) : done = true ↔ ∃ note ∈ notes, note.ends = true := by
  cases h with
  | unended hnotes =>
      refine ⟨nofun, ?_⟩
      rintro ⟨note, hmem, hends⟩
      exact absurd ((hnotes note hmem).symm.trans hends) Bool.false_ne_true
  | ended _ hlast =>
      exact ⟨fun _ => ⟨_, List.mem_append_right _ List.mem_cons_self, hlast⟩, fun _ => rfl⟩

theorem open_iff (h : Orderly done notes) : done = false ↔ ∀ note ∈ notes, note.ends = false := by
  rw [← Bool.not_eq_true, h.done_iff]
  simp

/-- Behind a note that ends the stream there are only echoes of the end. -/
theorem isEcho_of_mem (h : Orderly done (early ++ note :: late)) (hn : note.ends = true) :
    ∀ other ∈ late, other.isEcho = true := by
  generalize hall : early ++ note :: late = all at h
  cases h with
  | unended hnotes =>
      have hmem : note ∈ all := hall ▸ List.mem_append_right early List.mem_cons_self
      exact absurd ((hnotes note hmem).symm.trans hn) Bool.false_ne_true
  | ended hnotes _ hechoes =>
      intro other hother
      -- the note cannot lie among those before the last, so what follows it is a part of the echoes
      rcases List.append_eq_append_iff.mp hall with ⟨mid, rfl, hmid⟩ | ⟨mid, rfl, hmid⟩
      · cases mid with
        | nil =>
            obtain ⟨-, rfl⟩ := List.cons.inj hmid
            exact hechoes other hother
        | cons first mid =>
            obtain ⟨rfl, -⟩ := List.cons.inj hmid
            have hmem : note ∈ early ++ note :: mid := List.mem_append_right _ List.mem_cons_self
            exact absurd ((hnotes note hmem).symm.trans hn) Bool.false_ne_true
      · cases mid with
        | nil =>
            obtain ⟨-, rfl⟩ := List.cons.inj hmid
            exact hechoes other hother
        | cons first mid =>
            obtain ⟨-, rfl⟩ := List.cons.inj hmid
            exact hechoes other (List.mem_append_right _ (List.mem_cons_of_mem _ hother))

/-- A stream fails at most once. -/
theorem countP_isFailure_le (h : Orderly done notes) : notes.countP Note.isFailure ≤ 1 := by
  have hnone : ∀ {part : List (Note R)}, (∀ note ∈ part, note.isFailure = false) →
      part.countP Note.isFailure = 0 := by
    intro part hpart
    refine List.countP_eq_zero.mpr ?_
    intro note hmem hfailure
    exact absurd ((hpart note hmem).symm.trans hfailure) Bool.false_ne_true
  have hopen : ∀ {part : List (Note R)}, (∀ note ∈ part, note.ends = false) →
      part.countP Note.isFailure = 0 := by
    intro part hpart
    refine hnone fun note hmem => ?_
    cases hfailure : note.isFailure with
    | false => rfl
    | true => exact ((hpart note hmem).symm.trans (Note.ends_of_isFailure hfailure)).symm
  cases h with
  | unended hnotes => rw [hopen hnotes]; exact Nat.zero_le 1
  | ended hnotes _ hechoes =>
      have hlate := hnone fun note hmem => Note.not_isFailure_of_isEcho (hechoes note hmem)
      rw [List.countP_append, List.countP_cons, hopen hnotes, hlate]
      split <;> simp

end Orderly

/-! ## What a moment of a poll notes -/

namespace PollStage

variable {runtime : Bool} {reception : Reception} {st st' : RowStream Row R}
  {stage stage' : PollStage R}

/-- A poll of a stream that has ended gives the end; any other poll gives a
signal exactly if it ends the stream. -/
theorem Gives.told {next : Next R} (h : stage.Gives runtime reception st st' (done next))
    (hm : st.Midway stage) :
    (st.done = true ∧ st'.done = true ∧ next = .finished) ∨
      (st.done = false ∧ (Note.told next).ends = st'.done) := by
  cases h with
  | overAgain hd => exact Or.inl ⟨hd, hd, rfl⟩
  | turnsBack hd => exact Or.inr ⟨hd, rfl⟩
  | strands => exact Or.inr ⟨hm.2.1, rfl⟩
  | stops hl => exact Or.inr ⟨not_done_of_looksForClosing hm hl, rfl⟩
  | takesRow => exact Or.inr ⟨hm.2.1, hm.2.1.symm⟩
  | takesFinish => exact Or.inr ⟨hm.2.1, rfl⟩
  | findsNobody => exact Or.inr ⟨hm.2.1, rfl⟩
  | leavesBell => exact Or.inr ⟨hm.2.1, hm.2.1.symm⟩

/-- A poll that goes on leaves the stream open that it found open. -/
theorem Gives.done_eq (h : stage.Gives runtime reception st st' stage')
    (hne : ∀ next, stage' ≠ done next) : st'.done = st.done := by
  cases h with
  | goesToStart => rfl
  | goesToQueue => rfl
  | handsOver => exact st.handOver_done reception
  | goesOn => rfl
  | findsNothing => rfl
  | _ => exact absurd rfl (hne _)

/-- The moments of a poll that look at the closer before the queue. -/
def looksAhead : PollStage R → Bool
  | entering | checking => true
  | _ => false

/-- A reason that such a moment finds is what the poll gives, whatever is queued. -/
theorem Gives.refused (h : stage.Gives runtime reception st st' stage')
    (hl : stage.looksAhead = true) (hd : st.done = false) {reason : ClosureReason}
    (hr : st.reason = some reason) : stage' = done (.failed (.closed reason)) := by
  cases h with
  | overAgain hd' => exact absurd (hd.symm.trans hd') Bool.false_ne_true
  | turnsBack _ hr' => rw [Option.some.inj (hr.symm.trans hr')]
  | goesToStart _ hr' => exact nomatch hr.symm.trans hr'
  | goesToQueue _ hr' => exact nomatch hr.symm.trans hr'
  | goesOn hr' => exact nomatch hr.symm.trans hr'
  | stops _ hr' => rw [Option.some.inj (hr.symm.trans hr')]
  | _ => cases hl

end PollStage

namespace Invocation

section
variable {v v' : Invocation Row R} {move : Move Row}

/-- Nothing is struck out of a diary. -/
theorem diary_isPrefix (hv : v.Coherent) (hstep : v.step? move = some v') :
    v.diary <+: v'.diary := by
  cases move with
  | beginPoll =>
      obtain ⟨-, ⟨⟩⟩ := Option.ite_none_right_eq_some.mp hstep
      exact List.prefix_refl _
  | poll runtime reception =>
      obtain ⟨stage, hp, rfl⟩ := Option.map_eq_some_iff.mp hstep
      obtain ⟨stream, stage', -, heq⟩ := advance_eq hv hp runtime reception
      rw [heq]
      cases stage' with
      | done next => exact List.prefix_append _ _
      | _ => exact List.prefix_refl _
  | scan move =>
      obtain ⟨scan, -, rfl⟩ := Option.map_eq_some_iff.mp hstep
      exact List.prefix_refl _
  | cancel =>
      obtain ⟨-, ⟨⟩⟩ := Option.ite_none_right_eq_some.mp hstep
      exact List.prefix_append _ _
  | drop =>
      obtain ⟨-, ⟨⟩⟩ := Option.ite_none_right_eq_some.mp hstep
      exact List.prefix_refl _
  | close => cases hstep; exact List.prefix_refl _
  | pass => cases hstep; exact List.prefix_refl _

/-- Every move keeps the diary orderly. -/
theorem orderly_step (h : Orderly v.stream.done v.diary) (hv : v.Coherent)
    (hstep : v.step? move = some v') : Orderly v'.stream.done v'.diary := by
  cases move with
  | beginPoll =>
      obtain ⟨-, ⟨⟩⟩ := Option.ite_none_right_eq_some.mp hstep
      exact h
  | poll runtime reception =>
      obtain ⟨stage, hp, rfl⟩ := Option.map_eq_some_iff.mp hstep
      obtain ⟨stream, stage', hg, heq⟩ := advance_eq hv hp runtime reception
      rw [heq, goOn_stream]
      cases stage' with
      | done next =>
          rcases hg.told (hv.midway stage hp) with ⟨hd, hd', rfl⟩ | ⟨hd, hends⟩
          · rw [hd] at h
            rw [hd']
            exact h.concat_echo rfl
          · rw [hd] at h
            rw [← hends]
            cases hn : (Note.told next).ends with
            | false => exact h.goesOn hn
            | true => exact h.concat_last hn
      | _ =>
          rw [hg.done_eq nofun]
          exact h
  | scan move =>
      obtain ⟨scan, -, rfl⟩ := Option.map_eq_some_iff.mp hstep
      exact h
  | cancel =>
      obtain ⟨-, ⟨⟩⟩ := Option.ite_none_right_eq_some.mp hstep
      show Orderly true (v.diary ++ [.cancelled])
      cases hd : v.stream.done with
      | false => exact (hd ▸ h).concat_last rfl
      | true => exact (hd ▸ h).concat_echo rfl
  | drop =>
      obtain ⟨-, ⟨⟩⟩ := Option.ite_none_right_eq_some.mp hstep
      exact v.stream.drop_done.symm ▸ h
  | close => cases hstep; exact h
  | pass => cases hstep; exact h

/-! ## Answers that are settled in advance -/

/-- The poll under way gives this in its next moment, from wherever it is
called. -/
def Yields (v : Invocation Row R) (next : Next R) : Prop :=
  ∀ runtime reception, ∃ v', v.step? (.poll runtime reception) = some v' ∧ v'.poll = none ∧
    v'.diary = v.diary ++ [.told next]

/-- A poll whose next moment can only end it in one way. -/
theorem Coherent.yields (h : v.Coherent) {stage : PollStage R} (hp : v.poll = some stage)
    {next : Next R} (hgives : ∀ {runtime : Bool} {reception : Reception} {stream : RowStream Row R}
      {stage' : PollStage R}, stage.Gives runtime reception v.stream stream stage' →
      stage' = .done next) : v.Yields next := by
  intro runtime reception
  obtain ⟨stream, stage', hg, heq⟩ := advance_eq h hp runtime reception
  rw [hgives hg] at heq
  exact ⟨_, congrArg (Option.map _) hp, congrArg Invocation.poll heq,
    congrArg Invocation.diary heq⟩

/-- A poll of a stream that has ended gives the end at once. -/
theorem Coherent.yields_finished (h : v.Coherent) (hd : v.stream.done = true)
    {stage : PollStage R} (hp : v.poll = some stage) : v.Yields .finished := by
  have hm := h.midway stage hp
  have hopen : ∀ {P : Prop}, v.stream.done = false → P := by
    intro P ho
    exact absurd (ho.symm.trans hd) Bool.false_ne_true
  cases stage with
  | entering =>
      refine h.yields hp ?_
      intro _ _ stream stage' hg
      cases hg with
      | overAgain => rfl
      | turnsBack ho => exact hopen ho
      | goesToStart ho => exact hopen ho
      | goesToQueue ho => exact hopen ho
      | stops hl => cases hl
  | done next => exact hm.elim
  | _ => exact hopen hm.2.1

/-- A closing that is recorded before a poll looks at the closer is what the poll
gives, and after it there are only echoes of the end. -/
theorem answers_closing {u w : Invocation Row R} {later : List (Move Row)}
    {stage : PollStage R} {reason : ClosureReason} (hu : u.Coherent)
    (horderly : Orderly false u.diary) (hd : u.stream.done = false) (hp : u.poll = some stage)
    (hl : stage.looksAhead = true) (hr : u.session.reason = some reason)
    (hlater : play? step? u later = some w) :
    (w.diary = u.diary ∧ w.Yields (.failed (.closed reason))) ∨
      ∃ late, w.diary = u.diary ++ .told (.failed (.closed reason)) :: late ∧
        ∀ note ∈ late, note.isEcho = true := by
  have hyields : ∀ {v : Invocation Row R}, v.Coherent → v.stream.done = false →
      v.poll = some stage → v.session.reason = some reason →
      v.Yields (.failed (.closed reason)) := by
    intro v hv hdv hpv hrv
    exact hv.yields hpv fun hg => hg.refused hl hdv hrv
  -- the poll has not moved yet, or its answer is in the diary
  have hkeep : ∀ {v v' : Invocation Row R} {move : Move Row},
      (v.Coherent ∧ Orderly v.stream.done v.diary ∧
        ((v.poll = some stage ∧ v.stream.done = false ∧ v.session.reason = some reason ∧
            v.diary = u.diary) ∨
          u.diary ++ [.told (.failed (.closed reason))] <+: v.diary)) →
      v.step? move = some v' →
      (v'.Coherent ∧ Orderly v'.stream.done v'.diary ∧
        ((v'.poll = some stage ∧ v'.stream.done = false ∧ v'.session.reason = some reason ∧
            v'.diary = u.diary) ∨
          u.diary ++ [.told (.failed (.closed reason))] <+: v'.diary)) := by
    rintro v v' move ⟨hv, hov, hcase⟩ hstep
    refine ⟨hv.step hstep, orderly_step hov hv hstep, ?_⟩
    rcases hcase with ⟨hpv, hdv, hrv, hdiary⟩ | hnoted
    · have hbusy : v.isFree = false := by simp [isFree, hpv]
      have hrv' := reason_of_step hv hrv hstep
      cases move with
      | poll runtime reception =>
          obtain ⟨next, hnext, -, hnoted⟩ := hyields hv hdv hpv hrv runtime reception
          cases hstep.symm.trans hnext
          rw [hdiary] at hnoted
          exact Or.inr (hnoted ▸ List.prefix_refl _)
      | scan move =>
          obtain ⟨scan, -, rfl⟩ := Option.map_eq_some_iff.mp hstep
          exact Or.inl ⟨hpv, hdv, hrv', hdiary⟩
      | close => cases hstep; exact Or.inl ⟨hpv, hdv, hrv', hdiary⟩
      | pass => cases hstep; exact Or.inl ⟨hpv, hdv, hrv', hdiary⟩
      | _ =>
          obtain ⟨hf, -⟩ := Option.ite_none_right_eq_some.mp hstep
          exact absurd (hbusy.symm.trans hf) Bool.false_ne_true
    · exact Or.inr (hnoted.trans (diary_isPrefix hv hstep))
  obtain ⟨hw, how, hcase⟩ := play?_preserves hkeep
    ⟨hu, hd.symm ▸ horderly, Or.inl ⟨hp, hd, hr, rfl⟩⟩ hlater
  rcases hcase with ⟨hpw, hdw, hrw, hdiary⟩ | ⟨late, hnoted⟩
  · exact Or.inl ⟨hdiary, hyields hw hdw hpw hrw⟩
  · rw [List.append_assoc, List.singleton_append] at hnoted
    exact Or.inr ⟨late, hnoted.symm, (hnoted ▸ how).isEcho_of_mem rfl⟩

end

/-! ## The discipline of a stream -/

section
variable {plan : ScanPlan Row R} {capacity : Nat} {stream : RowStream Row R}
  {v : Invocation Row R} {moves : List (Move Row)}

theorem orderly_of_play (hopen : RowStream.open? plan capacity = .ok stream)
    (hplay : play? step? (start stream) moves = some v) :
    v.Coherent ∧ Orderly v.stream.done v.diary := by
  have hstart : (start stream).Coherent ∧ Orderly (start stream).stream.done (start stream).diary := by
    refine ⟨coherent_start hopen, ?_⟩
    cases RowStream.eq_fresh_of_open? hopen
    exact .unended nofun
  refine play?_preserves (P := fun u => u.Coherent ∧ Orderly u.stream.done u.diary) ?_ hstart hplay
  rintro u u' move ⟨hu, horderly⟩ hstep
  exact ⟨hu.step hstep, orderly_step horderly hu hstep⟩

/-- The poll that begins, or that has just handed the scan over, together with
the state in which it does. -/
def AtClosingLook (v u : Invocation Row R) : Prop :=
  v.step? .beginPoll = some u ∨ (v.poll = some .checking ∧ u = v)

/-- Whatever the parties to an invocation do and in whatever order:

* the stream gives at most one error, and after a signal each poll gives the end;
* a poll that begins when a reason is recorded, or that has handed the scan over
  when one is, gives this reason in its next moment, whatever is queued, and no
  row is given afterwards;
* each poll after a cancellation by the owner gives the end;
* the size hint says that the stream has ended exactly if a signal was given or
  the owner cancelled.

Whenever the stream has ended, a poll under way gives the end in its next
moment. -/
theorem terminal_discipline (hopen : RowStream.open? plan capacity = .ok stream)
    (hplay : play? step? (start stream) moves = some v) :
    (v.diary.countP Note.isFailure ≤ 1 ∧
      ∀ early signal late, v.diary = early ++ signal :: late → signal.isSignal = true →
        ∀ next, .told next ∈ late → next = .finished) ∧
    (∀ u reason, AtClosingLook v u → v.session.reason = some reason →
      (∀ note ∈ v.diary, note.ends = false) →
      ∀ later w, play? step? u later = some w →
        (w.diary = v.diary ∧ w.Yields (.failed (.closed reason))) ∨
          ∃ late, w.diary = v.diary ++ .told (.failed (.closed reason)) :: late ∧
            ∀ note ∈ late, note.isEcho = true) ∧
    (∀ early late, v.diary = early ++ .cancelled :: late →
      ∀ next, .told next ∈ late → next = .finished) ∧
    ((v.stream.sizeHint = (0, some 0) ↔ ∃ note ∈ v.diary, note.ends = true) ∧
      (v.stream.sizeHint = (0, none) ↔ ∀ note ∈ v.diary, note.ends = false)) ∧
    ((∃ note ∈ v.diary, note.ends = true) → ∀ stage, v.poll = some stage → v.Yields .finished) := by
  obtain ⟨hv, horderly⟩ := orderly_of_play hopen hplay
  have hafter : ∀ early note late, v.diary = early ++ note :: late → note.ends = true →
      ∀ next, .told next ∈ late → next = .finished := by
    intro early note late hdiary hends next hmem
    exact Note.eq_finished_of_isEcho ((hdiary ▸ horderly).isEcho_of_mem hends _ hmem)
  refine ⟨⟨horderly.countP_isFailure_le, ?_⟩, ?_, ?_, ⟨?_, ?_⟩, ?_⟩
  · intro early signal late hdiary hsignal
    exact hafter early signal late hdiary (Note.ends_of_isSignal hsignal)
  · intro u reason hlook hr hnone later w hlater
    have hd : v.stream.done = false := horderly.open_iff.mpr hnone
    rw [hd] at horderly
    rcases hlook with hbegin | ⟨hp, rfl⟩
    · have hu := hv.step hbegin
      obtain ⟨-, ⟨⟩⟩ := Option.ite_none_right_eq_some.mp hbegin
      have hsettled := answers_closing hu horderly hd rfl rfl hr hlater
      exact hsettled
    · exact answers_closing hv horderly hd hp rfl hr hlater
  · intro early late hdiary
    exact hafter early .cancelled late hdiary rfl
  · rw [← horderly.done_iff]
    cases hd : v.stream.done <;> simp [RowStream.sizeHint, hd]
  · rw [← horderly.open_iff]
    cases hd : v.stream.done <;> simp [RowStream.sizeHint, hd]
  · intro hends stage hp
    exact hv.yields_finished (horderly.done_iff.mpr hends) hp

end

/-- A row waits in the queue when a handle cancels. -/
def cancelledOverQueuedRow : List (Move Nat) :=
  [.beginPoll, .poll true .accepted, .poll true .accepted, .poll true .accepted,
    .poll true .accepted, .poll true .accepted, .scan .begin, .scan (.offer 7 0),
    .scan (.advance false), .scan (.advance false), .scan (.advance false), .scan (.advance false),
    .close .cancelled]

theorem terminal_discipline_over_queued_row :
    ∃ v u w : Invocation Nat Nat,
      play? step? (start (.fresh doubling (.fresh 1))) cancelledOverQueuedRow = some v ∧
      v.session.queue = [.value 14] ∧ v.step? .beginPoll = some u ∧
      play? step? u [.poll false .lost, .beginPoll, .poll true .accepted] = some w ∧
      ∃ late, w.diary = [.told .pending] ++ .told (.failed (.closed .cancelled)) :: late ∧
        ∀ note ∈ late, note.isEcho = true := by
  have hdiscipline := @terminal_discipline _ _ doubling 1 _ _ cancelledOverQueuedRow rfl rfl
  refine ⟨_, _, _, rfl, rfl, rfl, rfl, ?_⟩
  rcases hdiscipline.2.1 _ .cancelled (Or.inl rfl) rfl (by decide)
    [.poll false .lost, .beginPoll, .poll true .accepted] _ rfl with ⟨hsame, -⟩ | hnoted
  · exact nomatch hsame
  · exact hnoted

end Invocation
end RowBridge
