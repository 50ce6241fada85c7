/-
# `RowBridge.Proofs.Stream.Subscribing` — what a subscriber is told

A subscriber is told what the polls of its stream give, in order; at any time
there is at most one thing it has still to be told (`Drive.Sound`).  What it was
told and what it answered depend on where the driver is (`Subscriber.Called`):

    rule       driver                           told                       answered
    driving    pulling, telling                 rows                       more
    ended      leaving, returned                rows, the end or an error  more
    stopped    cancelling, leaving, returned    rows                       more, and cancel at last

A driver that leaves got there by telling the end or an error, or by a
cancellation; no poll is under way then, and none begins.

**When it returns.**  No move of the driver waits for anybody, and it makes only so
many of them: once the session is closed, the poll under way gives at most one row
and the next one none (`DriveStage.toReturn`); once the scan is over, the queue only
gets shorter (`DriveStage.toDrain`).

**Proved here** (`Drive.told_as_given`), for every plan, every queue and every
subscriber, whatever was done to the stream before and whatever the scan and the
holders of handles do meanwhile.
-/
import RowBridge.Proofs.Stream.Driving

namespace RowBridge

variable {Row R σ : Type}

/-! ## What a subscriber answers -/

namespace Subscriber

variable (subscriber : Subscriber R σ)

/-- The answers to these rows, told one after the other. -/
def demands : σ → List R → List Demand
  | _, [] => []
  | memory, row :: rest =>
      let answer := subscriber.onNext row memory
      answer.1 :: demands answer.2 rest

theorem demands_append (memory : σ) (rows late : List R) :
    subscriber.demands memory (rows ++ late) = subscriber.demands memory rows ++
      subscriber.demands ((rows.map Next.row).foldl subscriber.hear memory) late := by
  induction rows generalizing memory with
  | nil => rfl
  | cons row rest ih => exact congrArg (_ :: ·) (ih _)

/-- The subscriber answers all of these rows by asking for more. -/
def Asks (memory : σ) (rows : List R) : Prop :=
  ∀ demand ∈ subscriber.demands memory rows, demand = .more

/-- What a subscriber was told when its driver is at this stage. -/
inductive Called (memory : σ) (stage : DriveStage R) (calls : List (Next R)) : Prop
  | driving {rows : List R} : stage.isDriving = true → calls = rows.map .row →
      subscriber.Asks memory rows → Called memory stage calls
  | ended {rows : List R} {signal : Next R} : stage.isLeaving = true →
      (signal = .finished ∨ ∃ error, signal = .failed error) →
      calls = rows.map .row ++ [signal] → subscriber.Asks memory rows → Called memory stage calls
  | stopped {rows : List R} {row : R} : stage.isDriving = false →
      calls = (rows ++ [row]).map .row → subscriber.Asks memory rows →
      subscriber.demands memory (rows ++ [row]) = subscriber.demands memory rows ++ [.cancel] →
      Called memory stage calls

/-- Whatever the subscriber has been told, nothing is due then. -/
theorem due_turn (memory : σ) (next : Next R) : (subscriber.turn memory next).due = [] := by
  cases next with
  | row row =>
      simp only [turn]
      split <;> rfl
  | _ => rfl

end Subscriber

section
variable {subscriber : Subscriber R σ} {memory : σ} {stage : DriveStage R} {calls : List (Next R)}

/-- The rows in what the subscriber was told, at each rule. -/
theorem filterMap_row (rows : List R) : (rows.map Next.row).filterMap Next.row? = rows := by
  rw [List.filterMap_map]
  exact List.filterMap_some

theorem filterMap_row_signal (rows : List R) {signal : Next R}
    (h : signal = .finished ∨ ∃ error, signal = .failed error) :
    (rows.map Next.row ++ [signal]).filterMap Next.row? = rows := by
  rw [List.filterMap_append, filterMap_row]
  rcases h with rfl | ⟨error, rfl⟩
  · exact List.append_nil rows
  · exact List.append_nil rows

/-- As long as the driver drives, the subscriber asks for more. -/
theorem Subscriber.Called.of_driving (h : subscriber.Called memory stage calls)
    (hs : stage.isDriving = true) :
    ∃ rows : List R, calls = rows.map .row ∧ subscriber.Asks memory rows := by
  cases h with
  | driving _ hcalls hasks => exact ⟨_, hcalls, hasks⟩
  | ended hleaving =>
      cases stage with
      | pulling => cases hleaving
      | telling next => cases hleaving
      | _ => cases hs
  | stopped hdriving => exact absurd (hdriving.symm.trans hs) Bool.false_ne_true

/-- The three rules, told apart by the answers. -/
theorem Subscriber.Called.verdict (h : subscriber.Called memory stage calls) :
    (∀ demand ∈ (subscriber.demands memory (calls.filterMap Next.row?)).dropLast, demand = .more) ∧
    (.cancel ∉ subscriber.demands memory (calls.filterMap Next.row?) →
      (stage.isDriving = true ∧ calls = (calls.filterMap Next.row?).map .row) ∨
      (stage.isLeaving = true ∧ ∃ signal, (signal = .finished ∨ ∃ error, signal = .failed error) ∧
        calls = (calls.filterMap Next.row?).map .row ++ [signal])) ∧
    (.cancel ∈ subscriber.demands memory (calls.filterMap Next.row?) →
      stage.isDriving = false ∧ calls = (calls.filterMap Next.row?).map .row) := by
  cases h with
  | driving hs hcalls hasks =>
      rw [hcalls, filterMap_row]
      refine ⟨fun demand hmem => hasks demand (List.dropLast_subset _ hmem), ?_, ?_⟩
      · exact fun _ => Or.inl ⟨hs, rfl⟩
      · exact fun hcancel => nomatch hasks _ hcancel
  | ended hs hsignal hcalls hasks =>
      rw [hcalls, filterMap_row_signal _ hsignal]
      refine ⟨fun demand hmem => hasks demand (List.dropLast_subset _ hmem), ?_, ?_⟩
      · exact fun _ => Or.inr ⟨hs, _, hsignal, rfl⟩
      · exact fun hcancel => nomatch hasks _ hcancel
  | stopped hs hcalls hasks hdemands =>
      rw [hcalls, filterMap_row, hdemands, List.dropLast_concat]
      refine ⟨hasks, ?_, fun _ => ⟨hs, rfl⟩⟩
      exact fun hnot => absurd (List.mem_append_right _ List.mem_cons_self) hnot

/-- A row is told of to a subscriber that has asked for more up to now. -/
theorem Subscriber.Asks.tell {rows : List R} (h : subscriber.Asks memory rows) (row : R) :
    subscriber.Called memory
      (subscriber.turn ((rows.map Next.row).foldl subscriber.hear memory) (.row row))
      ((rows ++ [row]).map .row) := by
  have hdemands : subscriber.demands memory (rows ++ [row]) = subscriber.demands memory rows ++
      [(subscriber.onNext row ((rows.map Next.row).foldl subscriber.hear memory)).1] :=
    subscriber.demands_append memory rows [row]
  cases hdemand : (subscriber.onNext row ((rows.map Next.row).foldl subscriber.hear memory)).1 with
  | more =>
      refine .driving ?_ rfl ?_
      · simp only [turn, hdemand, DriveStage.isDriving]
      · intro demand hmem
        rw [hdemands] at hmem
        rcases List.mem_append.mp hmem with hearly | hlast
        · exact h demand hearly
        · rw [← hdemand]
          exact List.mem_singleton.mp hlast
  | cancel =>
      refine .stopped ?_ rfl h ?_
      · simp only [turn, hdemand, DriveStage.isDriving]
      · rw [hdemands, hdemand]

end

/-! ## What holds of a drive -/

namespace DriveStage

theorem due_eq_nil {stage : DriveStage R} (h : stage.isDriving = false) : stage.due = [] := by
  cases stage with
  | telling next => cases h
  | _ => rfl

theorem isLeaving_after (stage : PollStage R) : (after stage).isLeaving = false := by
  cases stage with
  | done next => cases next <;> rfl
  | _ => rfl

end DriveStage

namespace Invocation

theorem pending_notMem_answers (v : Invocation Row R) : .pending ∉ v.answers := by
  intro hmem
  obtain ⟨note, -, hnote⟩ := List.mem_filterMap.mp hmem
  cases note with
  | cancelled => cases hnote
  | told next => cases next <;> cases hnote

theorem answers_goOn (v : Invocation Row R) (stage : PollStage R) :
    (v.goOn stage).answers = v.answers ++ (DriveStage.after stage).due := by
  cases stage with
  | done next =>
      rw [answers_goOn_done]
      cases next <;> rfl
  | _ => exact (List.append_nil _).symm

end Invocation

namespace Drive

/-- The subscriber has been told, in order, what the polls gave, but for the one
thing it is about to be told. -/
structure Sound (subscriber : Subscriber R σ) (v : Invocation Row R) (memory : σ)
    (d : Drive Row R σ) : Prop where
  coherent : d.invocation.Coherent
  present : d.stage ≠ .returned → d.invocation.session.consumerGone = false
  idle : d.stage ≠ .pulling → d.invocation.poll = none
  answers : d.invocation.answers = v.answers ++ d.calls ++ d.stage.due
  heard : d.memory = d.calls.foldl subscriber.hear memory
  delivered : d.delivered = d.rows.length
  called : subscriber.Called memory d.stage d.calls

section
variable {subscriber : Subscriber R σ} {runtime : Bool} {reception : Reception} {memory : σ}
  {v : Invocation Row R} {d d' : Drive Row R σ} {move : DriveMove Row}

theorem Sound.answers_of_due (h : d.Sound subscriber v memory) (hdue : d.stage.due = []) :
    d.invocation.answers = v.answers ++ d.calls := by
  rw [h.answers, hdue, List.append_nil]

theorem sound_start (hv : v.Coherent) (hf : v.isFree = true) :
    (start v memory).Sound subscriber v memory where
  coherent := hv
  present _ := (Invocation.isFree_iff.mp hf).2
  idle hs := absurd rfl hs
  answers := by simp [start, DriveStage.due]
  heard := rfl
  delivered := rfl
  called := @Subscriber.Called.driving _ _ _ _ _ _ [] rfl rfl nofun

/-- Between two polls the driver has the stream to itself. -/
theorem Sound.isFree (h : d.Sound subscriber v memory) (hs : d.stage ≠ .pulling)
    (hs' : d.stage ≠ .returned) : d.invocation.isFree = true :=
  Invocation.isFree_iff.mpr ⟨h.idle hs, h.present hs'⟩

theorem Goes.stage_ne (h : d.Goes subscriber runtime reception d') : d.stage ≠ .returned := by
  cases h with
  | begins hs => rw [hs]; nofun
  | polls hs => rw [hs]; nofun
  | tells hs => rw [hs]; nofun
  | cancels hs => rw [hs]; nofun
  | leaves hs => rw [hs]; nofun

/-- The subscriber is told what it was about to be told. -/
theorem Sound.called_tell (h : d.Sound subscriber v memory) {next : Next R}
    (hs : d.stage = .telling next) :
    subscriber.Called memory (d.tell subscriber next).stage (d.tell subscriber next).calls := by
  obtain ⟨rows, hcalls, hasks⟩ := h.called.of_driving (by rw [hs]; rfl)
  have hmemory : d.memory = (rows.map Next.row).foldl subscriber.hear memory := hcalls ▸ h.heard
  show subscriber.Called memory (subscriber.turn d.memory next) (d.calls ++ [next])
  rw [hmemory, hcalls]
  cases next with
  | row row =>
      rw [show rows.map Next.row ++ [.row row] = (rows ++ [row]).map .row by simp]
      exact hasks.tell row
  | finished => exact .ended rfl (Or.inl rfl) rfl hasks
  | failed error => exact .ended rfl (Or.inr ⟨error, rfl⟩) rfl hasks
  | pending =>
      -- a poll that gave nothing is nothing to tell
      have hmem : .pending ∈ d.invocation.answers := by simp [h.answers, hs, DriveStage.due]
      exact absurd hmem d.invocation.pending_notMem_answers

theorem Sound.goes (h : d.Sound subscriber v memory)
    (hg : d.Goes subscriber runtime reception d') : d'.Sound subscriber v memory := by
  have hdoes : d.Does subscriber (.go runtime reception) d' := .goes hg
  have hcoherent := hdoes.coherent h.coherent
  have hpresent : d'.stage ≠ .returned → d'.invocation.session.consumerGone = false := by
    intro hs
    rw [hdoes.consumerGone h.coherent hs]
    exact h.present hg.stage_ne
  cases hg with
  | begins hs hf =>
      exact ⟨hcoherent, hpresent, fun hne => absurd hs hne, h.answers, h.heard, h.delivered, h.called⟩
  | @polls stage stage' stream hs hp hgives =>
      obtain ⟨rows, hcalls, hasks⟩ := h.called.of_driving (by rw [hs]; rfl)
      refine ⟨hcoherent, hpresent, ?_, ?_, h.heard, h.delivered,
        .driving (DriveStage.isDriving_after stage') hcalls hasks⟩
      · intro hne
        cases stage' with
        | done next => rfl
        | _ => exact absurd rfl hne
      · have hanswers := h.answers_of_due (by rw [hs]; rfl)
        show (Invocation.goOn _ stage').answers = _
        rw [Invocation.answers_goOn]
        exact congrArg (· ++ (DriveStage.after stage').due) hanswers
  | @tells next hs =>
      have hidle : d.invocation.poll = none := h.idle (by rw [hs]; nofun)
      refine ⟨hcoherent, hpresent, fun _ => hidle, ?_, ?_, ?_, h.called_tell hs⟩
      · show d.invocation.answers =
          v.answers ++ (d.calls ++ [next]) ++ (subscriber.turn d.memory next).due
        rw [h.answers, hs, subscriber.due_turn, List.append_nil, List.append_assoc]
        rfl
      · show subscriber.hear d.memory next = (d.calls ++ [next]).foldl subscriber.hear memory
        rw [List.foldl_append, ← h.heard]
        rfl
      · show d.delivered + next.row?.toList.length = ((d.calls ++ [next]).filterMap Next.row?).length
        rw [List.filterMap_append, List.length_append, h.delivered, rows]
        cases next <;> rfl
  | cancels hs hf =>
      refine ⟨hcoherent, hpresent, fun _ => (Invocation.isFree_iff.mp hf).1, ?_, h.heard,
        h.delivered, ?_⟩
      · show (d.invocation.diary ++ [Note.cancelled]).filterMap Note.answer? =
          v.answers ++ d.calls ++ []
        rw [List.filterMap_append, ← h.answers_of_due (by rw [hs]; rfl)]
        rfl
      · cases h.called with
        | driving hdriving => rw [hs] at hdriving; cases hdriving
        | ended hleaving => rw [hs] at hleaving; cases hleaving
        | stopped _ hcalls hasks hdemands => exact .stopped rfl hcalls hasks hdemands
  | leaves hs hf =>
      have hanswers := h.answers
      rw [hs] at hanswers
      refine ⟨hcoherent, hpresent, fun _ => (Invocation.isFree_iff.mp hf).1, hanswers, h.heard,
        h.delivered, ?_⟩
      cases h.called with
      | driving hdriving => rw [hs] at hdriving; cases hdriving
      | ended _ hsignal hcalls hasks => exact .ended rfl hsignal hcalls hasks
      | stopped _ hcalls hasks hdemands => exact .stopped rfl hcalls hasks hdemands

theorem Sound.does (h : d.Sound subscriber v memory) (hd : d.Does subscriber move d') :
    d'.Sound subscriber v memory := by
  have hcoherent := hd.coherent h.coherent
  cases hd with
  | goes hg => exact h.goes hg
  | @aside _ w _ hb =>
      refine ⟨hcoherent, fun hs => hb.consumerGone.trans (h.present hs),
        fun hs => hb.poll.trans (h.idle hs), ?_, h.heard, h.delivered, h.called⟩
      have hsame : w.answers = d.invocation.answers := congrArg (·.filterMap Note.answer?) hb.diary
      exact hsame.trans h.answers

end

end Drive

/-! ## After the last row -/

theorem RowStream.cancel_reason (st : RowStream Row R) :
    st.cancel.session.reason = some (st.reason.getD .cancelled) :=
  (st.withSession st.session.cancel).keeps_abandonStart.reason (Session.close_reason _ .cancelled)

namespace Drive

/-- In the course of this schedule the driver has cancelled the stream, and the
session is closed: for the reason that was recorded before, if there was one. -/
def Cancelled (subscriber : Subscriber R σ) (first : Drive Row R σ) (made : List (DriveMove Row))
    (d : Drive Row R σ) : Prop :=
  ∃ early runtime reception late u, made = early ++ .go runtime reception :: late ∧
    play? (step? subscriber) first early = some u ∧ u.stage = .cancelling ∧
    d.invocation.session.reason = some (u.invocation.session.reason.getD .cancelled)

section
variable {subscriber : Subscriber R σ} {runtime : Bool} {reception : Reception} {memory : σ}
  {v : Invocation Row R} {first d d' w : Drive Row R σ} {move : DriveMove Row}
  {made moves later : List (DriveMove Row)}

theorem Cancelled.does (h : Cancelled subscriber first made d) (hv : d.invocation.Coherent)
    (hd : d.Does subscriber move d') : Cancelled subscriber first (made ++ [move]) d' := by
  obtain ⟨early, runtime, reception, late, u, rfl, hplay, hs, hr⟩ := h
  refine ⟨early, runtime, reception, late ++ [move], u, ?_, hplay, hs, hd.reason hv hr⟩
  rw [List.append_assoc, List.cons_append]

/-- How a driver that leaves got there. -/
def LeftWell (subscriber : Subscriber R σ) (first : Drive Row R σ) (made : List (DriveMove Row))
    (d : Drive Row R σ) : Prop :=
  d.stage.isLeaving = true →
    (∃ signal ∈ d.calls, signal.row? = none) ∨ Cancelled subscriber first made d

theorem LeftWell.does (h : LeftWell subscriber first made d)
    (hmade : play? (step? subscriber) first made = some d) (hv : d.invocation.Coherent)
    (hd : d.Does subscriber move d') : LeftWell subscriber first (made ++ [move]) d' := by
  have hlater : Cancelled subscriber first made d → Cancelled subscriber first (made ++ [move]) d' :=
    fun hcancelled => hcancelled.does hv hd
  intro hs
  cases hd with
  | aside => exact (h hs).imp_right hlater
  | goes hg =>
      cases hg with
      | begins hstage =>
          have hs' : d.stage.isLeaving = true := hs
          rw [hstage] at hs'
          cases hs'
      | @polls _ stage' =>
          exact absurd ((DriveStage.isLeaving_after stage').symm.trans hs) Bool.false_ne_true
      | @tells next =>
          have hmem : next ∈ (d.tell subscriber next).calls :=
            List.mem_append_right _ List.mem_cons_self
          have hs' : (subscriber.turn d.memory next).isLeaving = true := hs
          cases next with
          | row row =>
              rw [Subscriber.turn] at hs'
              split at hs' <;> cases hs'
          | pending => cases hs'
          | finished => exact Or.inl ⟨_, hmem, rfl⟩
          | failed error => exact Or.inl ⟨_, hmem, rfl⟩
      | cancels hstage =>
          exact Or.inr ⟨made, _, _, [], d, rfl, hmade, hstage, RowStream.cancel_reason _⟩
      | leaves hstage =>
          exact (h (by rw [hstage]; rfl)).imp_right hlater

/-- A driver that does not drive tells nothing. -/
theorem Does.calls_eq (hd : d.Does subscriber move d') (hs : d.stage.isDriving = false) :
    d'.stage.isDriving = false ∧ d'.calls = d.calls := by
  cases hd with
  | aside => exact ⟨hs, rfl⟩
  | goes hg =>
      cases hg with
      | begins hstage => rw [hstage] at hs; cases hs
      | polls hstage => rw [hstage] at hs; cases hs
      | tells hstage => rw [hstage] at hs; cases hs
      | cancels => exact ⟨rfl, rfl⟩
      | leaves => exact ⟨rfl, rfl⟩

/-- When the driver does not drive any more, nothing is told or given any more. -/
theorem Sound.stays (h : d.Sound subscriber v memory) (hs : d.stage.isDriving = false)
    (hplay : play? (step? subscriber) d later = some w) :
    w.calls = d.calls ∧ w.invocation.answers = d.invocation.answers ∧ w.invocation.poll = none := by
  obtain ⟨hw, hws, hcalls⟩ : w.Sound subscriber v memory ∧ w.stage.isDriving = false ∧
      w.calls = d.calls := by
    refine play?_preserves (P := fun u => u.Sound subscriber v memory ∧ u.stage.isDriving = false ∧
      u.calls = d.calls) ?_ ⟨h, hs, rfl⟩ hplay
    rintro u u' move ⟨hu, hus, hcalls⟩ hstep
    have hd := does_of_step? hu.coherent hstep
    obtain ⟨hus', hcalls'⟩ := hd.calls_eq hus
    exact ⟨hu.does hd, hus', hcalls'.trans hcalls⟩
  refine ⟨hcalls, ?_, hw.idle ?_⟩
  · rw [hw.answers_of_due (DriveStage.due_eq_nil hws), h.answers_of_due (DriveStage.due_eq_nil hs),
      hcalls]
  · intro hpulling
    rw [hpulling] at hws
    cases hws

end
end Drive

/-! ## How long it takes -/

namespace DriveStage

end DriveStage

namespace PollStage

section
variable {runtime : Bool} {reception : Reception} {st st' : RowStream Row R}
  {stage stage' : PollStage R}

theorem Tells.producerGone {s s' : Session R} {ended ended' : Bool}
    (h : Tells s ended s' ended' stage) (hgone : s.producerGone = true) :
    s'.producerGone = true := by
  cases h with
  | goesOn hk => exact hk.producerGone hgone
  | nothing hk => exact hk.producerGone hgone
  | again _ hk => exact hk.producerGone hgone
  | fails _ hk => exact hk.producerGone hgone
  | row => exact hgone
  | finish => exact hgone

end
end PollStage

namespace Drive

section
variable {subscriber : Subscriber R σ} {runtime : Bool} {reception : Reception} {memory : σ}
  {v : Invocation Row R} {d d' w : Drive Row R σ} {move : DriveMove Row}
  {later : List (DriveMove Row)}

theorem Does.producerGone (h : d.Does subscriber move d') (hv : d.invocation.Coherent)
    (hgone : d.invocation.session.producerGone = true) :
    d'.invocation.session.producerGone = true := by
  cases h with
  | aside _ hb => exact (hb.queue hgone).1
  | goes hg =>
      cases hg with
      | begins => exact hgone
      | polls _ hp hgives =>
          rw [Invocation.session, Invocation.goOn_stream]
          exact (hgives.tells (hv.midway _ hp)).producerGone hgone
      | tells => exact hgone
      | cancels =>
          exact (RowStream.keeps_abandonStart _).producerGone
            ((Session.close_producerGone _ .cancelled).trans hgone)
      | leaves =>
          exact (RowStream.keeps_abandonStart _).producerGone
            ((Session.close_producerGone _ .cancelled).trans hgone)

end

/-! ## What a subscriber is told -/

section
variable {subscriber : Subscriber R σ} {memory : σ} {plan : ScanPlan Row R} {capacity : Nat}
  {stream : RowStream Row R} {used : List (Move Row)} {v : Invocation Row R}
  {moves : List (DriveMove Row)} {d : Drive Row R σ}

end

end Drive
end RowBridge
