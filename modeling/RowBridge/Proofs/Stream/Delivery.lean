/-
# `RowBridge.Proofs.Stream.Delivery` — from the row source to the consumer

The invariant that ties the two ends of an invocation together speaks of the
items that have been read, that is, taken out of the queue by polls
(`Delivers`):

* while the consumer is there, what was read and what is queued is what was
  enqueued, in order;
* the rows the consumer was given are the rows among the items read;
* a stream that has ended, or a poll that said so, has a cause: the end marker
  was read, an error was given before, or the consumer cancelled.

**Proved here**, for every plan, every queue and every schedule (`delivery`):
the rows given are an initial segment of the mapped rows, with the indices the
source used; and if the end is announced without an error or a cancellation
before it, the source returned well and every row was given.
-/
import RowBridge.Proofs.Stream.Invocation

namespace RowBridge.Invocation

variable {Row R : Type}

/-- Why a stream has ended. -/
def Explained (read : List (Item R)) (diary : List (Note R)) : Prop :=
  .finish ∈ read ∨ (∃ error, .told (.failed error) ∈ diary) ∨ .cancelled ∈ diary

/-- How what was read, enqueued and given belongs together. -/
structure Delivers (read : List (Item R)) (v : Invocation Row R) : Prop where
  flow : v.session.consumerGone = false → read ++ v.session.queue = v.ledger.enqueued
  read_enqueued : read <+: v.ledger.enqueued
  rows_read : v.rows = read.filterMap Item.toValue?
  marked : .finish ∈ read → v.stream.done = true
  ended : v.stream.done = true → Explained read v.diary
  announced : ∀ early late, v.diary = early ++ .told .finished :: late → Explained read early

theorem Explained.mono {read read' : List (Item R)} {diary diary' : List (Note R)}
    (h : Explained read diary) (hr : read ⊆ read') (hd : diary ⊆ diary') :
    Explained read' diary' := by
  obtain hf | ⟨error, he⟩ | hc := h
  · exact Or.inl (hr hf)
  · exact Or.inr (Or.inl ⟨error, hd he⟩)
  · exact Or.inr (Or.inr (hd hc))

/-- A diary grows by one entry. -/
theorem announced_concat {P : List (Note R) → Prop} {diary : List (Note R)} {note : Note R}
    (h : ∀ early late, diary = early ++ .told .finished :: late → P early)
    (hn : note = .told .finished → P diary) :
    ∀ early late, diary ++ [note] = early ++ .told .finished :: late → P early := by
  intro early late heq
  rcases List.eq_nil_or_concat late with rfl | ⟨late, last, rfl⟩
  · obtain ⟨rfl, hnote⟩ := List.append_inj' heq rfl
    exact hn (List.singleton_inj.mp hnote)
  · rw [List.concat_eq_append, ← List.cons_append, ← List.append_assoc] at heq
    exact h early late (List.append_inj' heq rfl).1

/-! ## Each move keeps it -/

section
variable {read : List (Item R)} {v v' : Invocation Row R} {move : Move Row}

theorem delivers_start {plan : ScanPlan Row R} {capacity : Nat} {stream : RowStream Row R}
    (hopen : RowStream.open? plan capacity = .ok stream) : Delivers [] (start stream) := by
  cases RowStream.eq_fresh_of_open? hopen
  exact {
    flow := fun _ => rfl
    read_enqueued := List.prefix_refl _
    rows_read := rfl
    marked := nofun
    ended := nofun
    announced := fun early late h => absurd h.symm (List.append_ne_nil_of_right_ne_nil _ nofun) }

/-- A move that takes nothing out of the queue and tells the consumer nothing. -/
theorem Delivers.silent (h : Delivers read v) {stream : RowStream Row R}
    {poll : Option (PollStage R)}
    (hflow : stream.session.consumerGone = false →
      v.session.consumerGone = false ∧ stream.session.queue = v.session.queue)
    (hdone : stream.done = v.stream.done) :
    Delivers read { v with stream := stream, poll := poll } where
  flow hg := by
    obtain ⟨hg', hq⟩ := hflow hg
    show read ++ stream.session.queue = v.ledger.enqueued
    rw [hq, h.flow hg']
  read_enqueued := h.read_enqueued
  rows_read := h.rows_read
  marked hf := hdone.trans (h.marked hf)
  ended hd := h.ended (hdone.symm.trans hd)
  announced := h.announced

/-- The consumer is told something, and what it is told has been read. -/
theorem Delivers.tells (h : Delivers read v) (hg : v.session.consumerGone = false)
    {stream : RowStream Row R} {next : Next R} {taken : List (Item R)}
    (hq : v.session.queue = taken ++ stream.session.queue)
    (hrow : (Note.row? (.told next)).toList = taken.filterMap Item.toValue?)
    (hmarked : .finish ∈ read ++ taken → stream.done = true)
    (hdone : stream.done = true →
      Explained (read ++ taken) (v.diary ++ [.told next]))
    (hfinished : next = .finished → Explained (read ++ taken) v.diary) :
    Delivers (read ++ taken) ({ v with stream := stream }.goOn (.done next)) := by
  have hflow : read ++ taken ++ stream.session.queue = v.ledger.enqueued := by
    rw [List.append_assoc, ← hq, h.flow hg]
  exact {
    flow := fun _ => hflow
    read_enqueued := ⟨_, hflow⟩
    rows_read := by
      rw [rows_goOn_done, List.filterMap_append, ← hrow]
      exact congrArg (· ++ _) h.rows_read
    marked := hmarked
    ended := hdone
    announced := by
      refine announced_concat ?_ fun hn => hfinished (by cases hn; rfl)
      intro early late hd
      exact (h.announced early late hd).mono (List.subset_append_left _ _) (List.Subset.refl _) }

/-- A moment of a poll. -/
theorem Delivers.polls (h : Delivers read v) (hg : v.session.consumerGone = false)
    {stream : RowStream Row R} {stage : PollStage R}
    (ht : stage.Tells v.session v.stream.done stream.session stream.done) :
    ∃ read', Delivers read' ({ v with stream := stream }.goOn stage) := by
  generalize hs : stream.session = session at ht
  generalize hd : stream.done = ended at ht
  have hended : v.stream.done = true → ∀ next,
      Explained (read ++ []) (v.diary ++ [.told next]) := by
    intro hw next
    exact (h.ended hw).mono (List.subset_append_left _ _) (List.subset_append_left _ _)
  have hmarked : ∀ {taken : List (Item R)}, .finish ∉ taken → .finish ∈ read ++ taken →
      v.stream.done = true := by
    intro taken htaken hf
    exact h.marked ((List.mem_append.mp hf).resolve_right htaken)
  cases ht with
  | goesOn hk hne =>
      rw [goOn_of_ne _ hne]
      refine ⟨read, h.silent (fun _ => ⟨hg, ?_⟩) hd⟩
      rw [hs, hk.queue]
  | nothing hk =>
      refine ⟨read ++ [], h.tells hg ?_ rfl (fun hf => hd.trans (hmarked List.not_mem_nil hf))
        (fun hw => hended (hd.symm.trans hw) _) nofun⟩
      rw [hs, hk.queue, List.nil_append]
  | again hw hk =>
      refine ⟨read ++ [], h.tells hg ?_ rfl (fun _ => hd.trans hw) (fun _ => hended hw _) ?_⟩
      · rw [hs, hk.queue, List.nil_append]
      · intro _
        rw [List.append_nil]
        exact h.ended hw
  | fails _ hk =>
      refine ⟨read ++ [], h.tells hg ?_ rfl (fun _ => hd) ?_ nofun⟩
      · rw [hs, hk.queue, List.nil_append]
      · intro _
        exact Or.inr (Or.inl ⟨_, List.mem_append_right _ (List.mem_singleton_self _)⟩)
  | @row row rest _ hq =>
      refine ⟨read ++ [.value row], h.tells hg ?_ rfl (fun hf => hd.trans (hmarked ?_ hf))
        ?_ nofun⟩
      · rw [hs]
        exact hq
      · exact fun hf => nomatch List.mem_singleton.mp hf
      · intro hw
        exact (h.ended (hd.symm.trans hw)).mono (List.subset_append_left _ _)
          (List.subset_append_left _ _)
  | @finish rest _ hq =>
      have hread : Item.finish ∈ read ++ [.finish] :=
        List.mem_append_right _ (List.mem_singleton_self _)
      refine ⟨read ++ [.finish], h.tells hg ?_ rfl (fun _ => hd) (fun _ => Or.inl hread)
        fun _ => Or.inl hread⟩
      rw [hs]
      exact hq

/-- Every move keeps what was read and what was given together. -/
theorem Delivers.step (h : Delivers read v) (hv : v.Coherent) (hstep : v.step? move = some v') :
    ∃ read', Delivers read' v' := by
  cases move with
  | pass => cases hstep; exact ⟨read, h⟩
  | beginPoll =>
      obtain ⟨-, ⟨⟩⟩ := Option.ite_none_right_eq_some.mp hstep
      exact ⟨read, h.silent (fun hg => ⟨hg, rfl⟩) rfl⟩
  | poll runtime reception =>
      obtain ⟨stage, hp, rfl⟩ := Option.map_eq_some_iff.mp hstep
      obtain ⟨stream, stage', hg, heq⟩ := advance_eq hv hp runtime reception
      rw [heq]
      exact h.polls (hv.present hp) (hg.tells (hv.midway stage hp))
  | scan move =>
      obtain ⟨scan, hs, rfl⟩ := Option.map_eq_some_iff.mp hstep
      have hd := Scan.does_of_step? hv.kept.accounts.sound hs
      have henq := enqueued_enter hd v.ledger
      have hqueue : scan.session.queue =
          v.session.queue ++ scan.session.queue.drop v.session.queue.length :=
        (List.prefix_iff_eq_append.mp hd.touches.queue).symm
      refine ⟨read, ?_, ?_, h.rows_read, h.marked, h.ended, h.announced⟩
      · intro hg
        show read ++ scan.session.queue = (v.ledger.enter v.session scan.session move).enqueued
        rw [hqueue, ← List.append_assoc, h.flow (hd.touches.frame.2.2.symm.trans hg)]
        exact henq.symm
      · exact h.read_enqueued.trans (henq ▸ List.prefix_append _ _)
  | close reason =>
      cases hstep
      have hk := v.session.keeps_close reason
      exact ⟨read, h.silent (fun hg => ⟨hk.consumerGone.symm.trans hg, hk.queue⟩) rfl⟩
  | cancel =>
      obtain ⟨-, ⟨⟩⟩ := Option.ite_none_right_eq_some.mp hstep
      have hcancelled : Explained read (v.diary ++ [.cancelled]) :=
        Or.inr (Or.inr (List.mem_append_right _ (List.mem_singleton_self _)))
      refine ⟨read, ?_, h.read_enqueued, ?_, fun _ => rfl, fun _ => hcancelled,
        announced_concat h.announced nofun⟩
      · intro hg
        show read ++ v.stream.cancel.session.queue = v.ledger.enqueued
        rw [v.stream.cancel_queue]
        exact h.flow (v.stream.cancel_consumerGone.symm.trans hg)
      · refine Eq.trans ?_ h.rows_read
        simp [rows, Note.row?]
  | drop =>
      obtain ⟨hf, ⟨⟩⟩ := Option.ite_none_right_eq_some.mp hstep
      refine ⟨read, h.silent ?_ v.stream.drop_done⟩
      intro hg
      exact absurd (hg.symm.trans v.stream.drop_consumerGone) Bool.false_ne_true

end

/-! ## Delivery -/

/-- What holds of every invocation of a plan. -/
structure Invariant (plan : ScanPlan Row R) (v : Invocation Row R) : Prop where
  coherent : v.Coherent
  plan_eq : v.stream.scan.plan = plan
  delivers : ∃ read, Delivers read v

section
variable {plan : ScanPlan Row R} {capacity : Nat} {stream : RowStream Row R}
  {v v' : Invocation Row R}

theorem invariant_start (hopen : RowStream.open? plan capacity = .ok stream) :
    Invariant plan (start stream) where
  coherent := coherent_start hopen
  plan_eq := by cases RowStream.eq_fresh_of_open? hopen; rfl
  delivers := ⟨[], delivers_start hopen⟩

theorem Invariant.step {move : Move Row} (h : Invariant plan v) (hstep : v.step? move = some v') :
    Invariant plan v' where
  coherent := h.coherent.step hstep
  plan_eq := (plan_eq_of_step h.coherent hstep).trans h.plan_eq
  delivers := by
    obtain ⟨read, hread⟩ := h.delivers
    exact hread.step h.coherent hstep

/-- The rows among the items read are mapped rows, in order and from the first
one on. -/
theorem Invariant.rows_isPrefix (h : Invariant plan v) :
    v.rows.map .ok <+: v.ledger.handed.map plan.result := by
  obtain ⟨read, hread⟩ := h.delivers
  obtain ⟨early, late, body, hhanded, hcar, henq⟩ := h.coherent.kept.accounts.stands.initial
  rw [h.plan_eq] at hcar
  have hbody : v.ledger.enqueued <+: body ++ [.finish] := by
    rcases henq with henq | ⟨-, -, henq⟩
    · exact henq ▸ List.prefix_append _ _
    · exact henq ▸ List.prefix_refl _
  have hvalues := ((hread.read_enqueued.trans hbody).filterMap Item.toValue?).map
    (Except.ok (ε := String))
  rw [List.filterMap_append, List.map_append, hcar.values] at hvalues
  rw [hread.rows_read, hhanded, List.map_append]
  exact (List.append_nil (early.map plan.result) ▸ hvalues).trans (List.prefix_append _ _)

/-- Once the end marker has been read, there is nothing left to give. -/
theorem Invariant.rows_eq (h : Invariant plan v) {read : List (Item R)} (hread : Delivers read v)
    (hf : .finish ∈ read) :
    v.ledger.returned = some .ok ∧ v.rows.map .ok = v.ledger.handed.map plan.result := by
  obtain ⟨early, late, body, hhanded, hcar, henq⟩ := h.coherent.kept.accounts.stands.initial
  rw [h.plan_eq] at hcar
  have hbody : Item.finish ∉ body := hcar.finish_notMem
  rcases henq with henq | ⟨rfl, hret, henq⟩
  · exact absurd (hread.read_enqueued.subset hf) (henq ▸ hbody)
  have hall : read = body ++ [.finish] := by
    rcases List.prefix_concat_iff.mp (henq ▸ hread.read_enqueued) with hall | hpart
    · exact hall
    · exact absurd (hpart.subset hf) hbody
  refine ⟨hret, ?_⟩
  rw [hread.rows_read, hall, hhanded, List.append_nil, List.filterMap_append, ← hcar.values]
  exact congrArg _ (List.append_nil _)

/-- Whatever the parties to an invocation do and in whatever order: the rows
given to the consumer are an initial segment of the mapped rows; and when the
end is announced without an error or a cancellation before it, the source has
returned well and every row was given. -/
theorem delivery (hopen : RowStream.open? plan capacity = .ok stream) {moves : List (Move Row)}
    (hplay : play? step? (start stream) moves = some v) :
    v.rows.map .ok <+: v.ledger.handed.map plan.result ∧
      ∀ early late, v.diary = early ++ .told .finished :: late →
        (∀ error, .told (.failed error) ∉ early) → .cancelled ∉ early →
        v.ledger.returned = some .ok ∧ v.rows.map .ok = v.ledger.handed.map plan.result := by
  have h : Invariant plan v :=
    play?_preserves (fun hu hs => hu.step hs) (invariant_start hopen) hplay
  refine ⟨h.rows_isPrefix, ?_⟩
  intro early late hd hfailed hcancelled
  obtain ⟨read, hread⟩ := h.delivers
  -- of the three causes of an end only the end marker is left
  rcases hread.announced early late hd with hf | ⟨error, he⟩ | hc
  · exact h.rows_eq hread hf
  · exact absurd he (hfailed error)
  · exact absurd hc hcancelled

end

/-- Rows are numbers, which the mapper doubles. -/
def doubling : ScanPlan Nat Nat where
  statement := "SELECT n"
  bindings := .empty
  mapper := fun row _ => .ok (2 * row)
  timeout := .ofMillis 5
  runtime := true

/-- A queue for one item: the end marker waits until the row before it has been
taken. -/
def throughOneSlot : List (Move Nat) :=
  [.beginPoll, .poll true .accepted, .poll true .accepted, .poll true .accepted,
    .poll true .accepted, .poll true .accepted, .scan .begin, .scan (.offer 7 0),
    .scan (.advance false), .scan (.advance false), .scan (.advance false), .scan (.advance false),
    .scan (.advance false), .scan (.conclude .ok), .scan (.advance false), .scan (.advance false),
    .scan (.advance false), .beginPoll, .poll true .accepted, .poll true .accepted,
    .scan (.advance false), .scan (.advance false), .beginPoll, .poll true .accepted,
    .poll true .accepted]

theorem delivery_through_one_slot :
    ∃ v : Invocation Nat Nat,
      play? step? (start (.fresh doubling (.fresh 1))) throughOneSlot = some v ∧
      v.diary = [.told .pending, .told (.row 14), .told .finished] ∧
      v.ledger.returned = some .ok ∧ v.rows.map .ok = v.ledger.handed.map doubling.result := by
  refine ⟨_, rfl, rfl, ?_⟩
  refine (@delivery _ _ doubling 1 _ _ rfl throughOneSlot rfl).2
    [.told .pending, .told (.row 14)] [] rfl ?_ ?_
  · intro error
    simp
  · simp

end RowBridge.Invocation
