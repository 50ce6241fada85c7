/-
# `RowBridge.Proofs.Stream.Wakeups` — neither side waits for the other in vain

The scan waits in an enqueue, the consumer waits for its bell.  Both wait for the
queue and for the closer, and each could wait for a move that only the other one
would make.

**The scan.**  An enqueue that waits is set going by a freed place, by a closing
and by its deadline.  It is *blocked* (`ScanPhase.isBlocked`) while there is none
of the first two.  Then the queue is full, and it stays so until a poll looks at
it: a poll that begins now finds something (`Heads`).

**The consumer.**  A poll that gives nothing has left two bells in two moments,
at the queue and then at the closer, and anything may happen in between.  The
invariant (`Session.Alert`) is that at any time after the look at the queue the
bell has been rung, or nothing has happened that could ring it:

    moment     bell not rung                                      rung by
    watching   empty, producer there, bell at the queue           enqueue, end of the scan
    pending    the same, and open, bell at the closer             the same, and a closing

A closing between the two moments need not ring: the look at the closer finds
it.  Without a bell at the closer in the second row a closing would be missed,
and without the hanging bell in the first an item would be.

**Proved here** (`never_stalls`), for every plan, every queue and every schedule:
a poll that begins while the scan is blocked does not give nothing, whatever
happens meanwhile; a poll that gives nothing leaves an empty queue, an open
session and a scan that is there and not blocked; and whoever was given nothing
has been woken once there is something to find.
-/
import RowBridge.Proofs.Stream.Terminal
import RowBridge.Proofs.Stream.Quiet

namespace RowBridge

variable {Row R : Type}

/-! ## Who waits -/

/-- The scan waits in an enqueue, and only its deadline would set it going. -/
def ScanPhase.isBlocked (s : Session R) : ScanPhase Row R → Bool
  | sending _ stage | ending stage => stage.isStuck false s
  | _ => false

namespace Invocation

/-- What the latest poll gave. -/
def latest (v : Invocation Row R) : Option (Next R) :=
  (v.diary.filterMap fun | .told next => some next | .cancelled => none).getLast?

def isBlocked (v : Invocation Row R) : Bool := v.phase.isBlocked v.session

end Invocation

/-- A blocked scan looks at a queue that is full. -/
theorem ScanPhase.hasRoom_of_isBlocked {s : Session R} {phase : ScanPhase Row R}
    (h : phase.isBlocked s = true) : s.hasRoom = false := by
  have hstuck : ∀ {stage : SendStage}, stage.isStuck false s = true → s.hasRoom = false := by
    intro stage hstage
    cases stage with
    | waiting => exact (by simpa [SendStage.isStuck] using hstage : _ ∧ _).2
    | _ => cases hstage
  cases phase with
  | sending item stage => exact hstuck h
  | ending stage => exact hstuck h
  | _ => cases h

/-- Nothing is full that is empty. -/
theorem Session.hasRoom_of_queue_nil {s : Session R} (hq : s.queue = []) (hc : 0 < s.capacity) :
    s.hasRoom = true := by
  rw [hasRoom, hq]
  exact decide_eq_true hc

/-! ## The bell -/

namespace Session

/-- Nothing has happened that a waiting consumer should know, and its bell hangs
at the queue; if it watches the closer too, the session is open and the bell
hangs there as well. -/
structure Silent (watched : Bool) (s : Session R) : Prop where
  queue : s.queue = []
  producerGone : s.producerGone = false
  refusing : s.refusing = false
  atQueue : s.bell.atQueue = true
  atCloser : watched = true → s.reason = none ∧ s.bell.atCloser = true

/-- The waiting consumer has been woken, or there was no need to. -/
def Alert (watched : Bool) (s : Session R) : Prop := s.bell.rung = true ∨ s.Silent watched

section
variable {watched : Bool} {s : Session R}

theorem Alert.enqueue (h : s.Alert watched) (item : Item R) : (s.enqueue item).Alert watched := by
  refine Or.inl ?_
  rcases h with hrung | hsilent
  · simp only [Session.enqueue, Bell.ringAtQueue]
    split
    · rfl
    · exact hrung
  · simp only [Session.enqueue, Bell.ringAtQueue, hsilent.atQueue, if_true]

/-- The end of the producer half rings where the bell hangs. -/
theorem Alert.dropProducer (h : s.Alert watched) : s.dropProducer.Alert watched := by
  refine Or.inl ?_
  rcases h with hrung | hsilent
  · unfold Session.dropProducer
    split
    · exact hrung
    · simp only [Bell.ringAtQueue]
      split
      · rfl
      · exact hrung
  · simp [Session.dropProducer, hsilent.producerGone, Bell.ringAtQueue, hsilent.atQueue]

theorem close_rung (h : s.bell.rung = true) (reason : ClosureReason) :
    (s.close reason).bell.rung = true := by
  unfold Session.close
  split
  · exact h
  · simp only [Bell.ringAtCloser]
    split
    · rfl
    · exact h

/-- A closing is heard by whoever watches the closer. -/
theorem Silent.rung_of_close (h : s.Silent true) (reason : ClosureReason) :
    (s.close reason).bell.rung = true := by
  obtain ⟨hr, hbell⟩ := h.atCloser rfl
  have ho : s.isClosed = false := Invocation.isClosed_of_reason_none hr
  simp [Session.close, ho, Bell.ringAtCloser, hbell]

/-- What a closing leaves is as alert as before: it rings, or nobody listened to
it yet. -/
theorem Alert.close (h : s.Alert watched) (reason : ClosureReason) :
    (s.close reason).Alert watched := by
  rcases h with hrung | hsilent
  · exact Or.inl (close_rung hrung reason)
  cases watched with
  | true => exact Or.inl (hsilent.rung_of_close reason)
  | false =>
      unfold Session.close
      split
      · exact Or.inr hsilent
      · simp only [Bell.ringAtCloser]
        split
        · exact Or.inl rfl
        · exact Or.inr ⟨hsilent.queue, hsilent.producerGone, hsilent.refusing, hsilent.atQueue,
            nofun⟩

/-- A closing wakes a consumer that was alert to it. -/
theorem Alert.rung_of_close (h : s.Alert true) (reason : ClosureReason) :
    (s.close reason).bell.rung = true :=
  h.elim (close_rung · reason) (·.rung_of_close reason)

theorem Alert.moves {runtime expired : Bool} {s' : Session R} {item : Item R}
    {stage stage' : SendStage} (h : s.Alert watched)
    (hm : stage.Moves runtime expired s item s' stage') : s'.Alert watched := by
  cases hm with
  | strands => exact h.close .sourceFailure
  | settles => exact h.close _
  | lands => exact h.enqueue item
  | _ => exact h

/-- Whatever the scan does, a waiting consumer hears of it. -/
theorem Alert.touches {runtime ended : Bool} {s' : Session R} (h : s.Alert watched)
    (ht : Scan.Touches runtime s s' ended) : s'.Alert watched := by
  cases ht with
  | leaves => exact h
  | givesUp => exact h.dropProducer
  | enqueues hm => exact h.moves hm
  | closes reason => exact (h.close reason).dropProducer

end

end Session

/-! ## One poll -/

namespace PollStage

/-- How many moments an undisturbed poll has left at most. -/
def toGo : PollStage R → Nat
  | entering => 5
  | starting => 4
  | checking => 3
  | taking => 2
  | watching => 1
  | done _ => 0

/-- A poll that cannot come back without having found something: it has not
looked at the queue, where there is an item, or it is over and gave something. -/
def Heads (st : RowStream Row R) (stage : PollStage R) : Prop :=
  (1 < stage.toGo ∧ st.session.queue ≠ []) ∨ ∃ next, stage = done next ∧ next ≠ .pending

/-- What the moments of a poll have found so far that comes back without
anything, if nobody acts in between. -/
def Missed (st : RowStream Row R) : PollStage R → Prop
  | watching => st.session.queue = [] ∧ st.session.producerGone = false
  | done .pending =>
      st.session.queue = [] ∧ st.session.producerGone = false ∧ st.reason = none
  | _ => True

/-- A poll of a started stream that finds nothing, as long as nobody acts. -/
structure Vain (st : RowStream Row R) (stage : PollStage R) : Prop where
  started : st.started = true
  unended : st.done = false
  reason : st.reason = none
  queue : st.session.queue = []
  producerGone : st.session.producerGone = false
  refusing : st.session.refusing = false
  notStarting : stage ≠ starting
  answers : ∀ next, stage = done next → next = .pending

section
variable {runtime : Bool} {reception : Reception} {st st' : RowStream Row R}
  {stage stage' : PollStage R}

theorem Gives.toGo_lt (h : Gives runtime reception st stage st' stage') :
    stage'.toGo < stage.toGo := by
  cases h with
  | stops hl => cases stage <;> first | exact Nat.zero_lt_succ _ | cases hl
  | _ => simp [toGo]

theorem Gives.capacity_eq (h : Gives runtime reception st stage st' stage') :
    st'.session.capacity = st.session.capacity := by
  cases h with
  | turnsBack => exact (st.withSession st.session.hush).keeps_abandonStart.capacity
  | strands =>
      exact (st.close .sourceFailure).keeps_abandonStart.capacity.trans
        (Session.close_capacity _ _)
  | handsOver => exact (st.keeps_handOver reception).capacity
  | _ => rfl

theorem Gives.heads (h : Gives runtime reception st stage st' stage') (hs : Heads st stage) :
    Heads st' stage' := by
  rcases hs with ⟨hlate, hq⟩ | ⟨next, rfl, -⟩
  · cases h with
    | overAgain => exact Or.inr ⟨_, rfl, nofun⟩
    | turnsBack => exact Or.inr ⟨_, rfl, nofun⟩
    | goesToStart => exact Or.inl ⟨by simp [toGo], hq⟩
    | goesToQueue => exact Or.inl ⟨by simp [toGo], hq⟩
    | strands => exact Or.inr ⟨_, rfl, nofun⟩
    | handsOver =>
        refine Or.inl ⟨by simp [toGo], ?_⟩
        rw [(st.keeps_handOver reception).queue]
        exact hq
    | goesOn => exact Or.inl ⟨by simp [toGo], hq⟩
    | stops => exact Or.inr ⟨_, rfl, nofun⟩
    | takesRow => exact Or.inr ⟨_, rfl, nofun⟩
    | takesFinish => exact Or.inr ⟨_, rfl, nofun⟩
    | findsNobody hnil => exact absurd hnil hq
    | findsNothing hnil => exact absurd hnil hq
    | leavesBell => exact absurd hlate (Nat.lt_irrefl 1)
  · exact absurd h.toGo_lt (Nat.not_lt_zero _)

theorem Gives.missed (h : Gives runtime reception st stage st' stage') (hs : Missed st stage) :
    Missed st' stage' := by
  cases h with
  | findsNothing hq hgone => exact ⟨hq, hgone⟩
  | leavesBell hr => exact ⟨hs.1, hs.2, hr⟩
  | _ => trivial

theorem Vain.gives (h : Vain st stage) (hg : Gives runtime reception st stage st' stage') :
    Vain st' stage' := by
  have hqueue : ∀ {item : Item R} {rest : List (Item R)}, st.session.queue ≠ item :: rest := by
    intro item rest hq
    exact nomatch h.queue.symm.trans hq
  cases hg with
  | overAgain hd => exact absurd (h.unended.symm.trans hd) Bool.false_ne_true
  | turnsBack _ hr => exact nomatch h.reason.symm.trans hr
  | goesToStart _ _ hs => exact absurd (hs.symm.trans h.started) Bool.false_ne_true
  | goesToQueue => exact { h with notStarting := nofun, answers := nofun }
  | strands => exact absurd rfl h.notStarting
  | handsOver => exact absurd rfl h.notStarting
  | goesOn => exact { h with notStarting := nofun, answers := nofun }
  | stops _ hr => exact nomatch h.reason.symm.trans hr
  | takesRow hq => exact absurd hq hqueue
  | takesFinish hq => exact absurd hq hqueue
  | findsNobody _ hnobody =>
      rcases hnobody with hgone | href
      · exact absurd (h.producerGone.symm.trans hgone) Bool.false_ne_true
      · exact absurd (h.refusing.symm.trans href) Bool.false_ne_true
  | findsNothing => exact { h with notStarting := nofun, answers := nofun }
  | leavesBell =>
      refine { h with notStarting := nofun, answers := ?_ }
      rintro next ⟨⟩
      rfl

/-- The only way to come back without anything. -/
theorem Gives.eq_watching (h : Gives runtime reception st stage st' (done .pending)) :
    stage = watching ∧ st.reason = none ∧ st' = st.withSession st.session.watchCloser := by
  cases h with
  | leavesBell hr => exact ⟨rfl, hr, rfl⟩

theorem Gives.eq_taking (h : Gives runtime reception st stage st' watching) : stage = taking := by
  cases h with
  | findsNothing => rfl

/-- The look at an empty queue leaves a bell there. -/
theorem silent_of_take (h : st.take.2 = watching) : st.take.1.session.Silent false := by
  unfold RowStream.take Session.poll at h ⊢
  cases hq : st.session.hush.queue with
  | cons item rest => cases item <;> simp [hq, RowStream.withSession] at h
  | nil =>
      cases hgone : st.session.hush.producerGone with
      | true => simp [hq, hgone, RowStream.finish] at h
      | false =>
          cases href : st.session.hush.refusing with
          | true => simp [hq, hgone, href, RowStream.finish] at h
          | false =>
              simp only [hq, hgone, href, if_false, Bool.false_eq_true]
              exact ⟨rfl, rfl, rfl, rfl, fun hrung => absurd hrung Bool.false_ne_true⟩

end

/-- What every moment of a poll keeps, the rest of an undisturbed poll keeps. -/
theorem run_preserves {P : RowStream Row R → PollStage R → Prop} (runtime : Bool)
    (reception : Reception)
    (hstep : ∀ {st st' : RowStream Row R} {stage stage' : PollStage R},
      P st stage → stage.Gives runtime reception st st' stage' → P st' stage') :
    ∀ (n : Nat) {st : RowStream Row R} {stage : PollStage R}, P st stage →
      P (run runtime reception n st stage).1 (run runtime reception n st stage).2 := by
  intro n
  induction n with
  | zero => intro st stage h; exact h
  | succ n ih =>
      intro st stage h
      by_cases hdone : ∃ next, stage = done next
      · obtain ⟨next, rfl⟩ := hdone
        exact ih h
      · exact ih (hstep h (gives_advance fun next hnext => hdone ⟨next, hnext⟩))

/-- A poll that nobody interrupts is over after its moments. -/
theorem exists_run_eq_done (runtime : Bool) (reception : Reception) :
    ∀ (n : Nat) (st : RowStream Row R) (stage : PollStage R), stage.toGo ≤ n →
      ∃ next, (run runtime reception n st stage).2 = done next := by
  intro n
  induction n with
  | zero =>
      intro st stage hn
      cases stage with
      | done next => exact ⟨next, rfl⟩
      | _ => exact absurd hn (by simp [toGo])
  | succ n ih =>
      intro st stage hn
      by_cases hdone : ∃ next, stage = done next
      · obtain ⟨next, rfl⟩ := hdone
        exact ih st (done next) (Nat.zero_le n)
      · have hg : Gives runtime reception st stage _ _ :=
          gives_advance fun next hnext => hdone ⟨next, hnext⟩
        exact ih _ _ (Nat.le_of_lt_succ (Nat.lt_of_lt_of_le hg.toGo_lt hn))

theorem toGo_le_moments (stage : PollStage R) : stage.toGo ≤ moments := by
  cases stage <;> simp [toGo, moments]

/-- What every moment of a poll keeps holds of the rest of a poll that nobody
interrupts, when it is over. -/
theorem exists_run_done {P : RowStream Row R → PollStage R → Prop} (runtime : Bool)
    (reception : Reception)
    (hstep : ∀ {st st' : RowStream Row R} {stage stage' : PollStage R},
      P st stage → stage.Gives runtime reception st st' stage' → P st' stage')
    {st : RowStream Row R} {stage : PollStage R} (h : P st stage) :
    ∃ next, (run runtime reception moments st stage).2 = done next ∧
      P (run runtime reception moments st stage).1 (done next) := by
  obtain ⟨next, hnext⟩ :=
    exists_run_eq_done runtime reception moments st stage stage.toGo_le_moments
  exact ⟨next, hnext, hnext ▸ run_preserves runtime reception hstep moments h⟩

/-- The rest of a poll that is bound to find something, if nobody acts in
between. -/
theorem Heads.answer_ne {st : RowStream Row R} {stage : PollStage R} (h : Heads st stage)
    (runtime : Bool) (reception : Reception) :
    (run runtime reception moments st stage).2.answer ≠ .pending := by
  obtain ⟨next, hnext, hlate | ⟨next', heq, hne⟩⟩ :=
    exists_run_done (P := Heads) runtime reception (fun hs hg => hg.heads hs) h
  · exact absurd hlate.1 (Nat.not_lt_zero _)
  · cases heq
    rw [hnext]
    exact hne

end PollStage

/-- What every moment of a poll keeps holds after a poll that nobody interrupts. -/
theorem RowStream.poll_preserves {P : RowStream Row R → PollStage R → Prop} (runtime : Bool)
    (reception : Reception)
    (hstep : ∀ {st st' : RowStream Row R} {stage stage' : PollStage R},
      P st stage → stage.Gives runtime reception st st' stage' → P st' stage')
    {st : RowStream Row R} (h : P st .entering) :
    P (st.poll runtime reception).1 (.done (st.poll runtime reception).2) := by
  obtain ⟨next, hnext, hdone⟩ := PollStage.exists_run_done runtime reception hstep h
  rw [RowStream.poll, hnext]
  exact hdone

/-- A poll that nobody interrupts and that gives nothing has found an empty
queue, a producer half and an open session. -/
theorem RowStream.poll_pending {runtime : Bool} {reception : Reception}
    {st st' : RowStream Row R} (h : st.poll runtime reception = (st', .pending)) :
    st'.session.queue = [] ∧ st'.session.producerGone = false ∧ st'.reason = none ∧
      st'.session.capacity = st.session.capacity := by
  have hmissed := RowStream.poll_preserves
    (P := fun u stage => PollStage.Missed u stage ∧ u.session.capacity = st.session.capacity)
    runtime reception (fun hs hg => ⟨hg.missed hs.1, hg.capacity_eq.trans hs.2⟩) ⟨trivial, rfl⟩
  rw [h] at hmissed
  obtain ⟨⟨hq, hgone, hr⟩, hc⟩ := hmissed
  exact ⟨hq, hgone, hr, hc⟩

/-- A poll that nobody interrupts gives nothing where nothing has happened. -/
theorem RowStream.answer_of_silent {st : RowStream Row R} (h : st.session.Silent true)
    (hs : st.started = true) (hd : st.done = false) (runtime : Bool) (reception : Reception) :
    (st.poll runtime reception).2 = .pending := by
  have hentering : PollStage.Vain st .entering :=
    ⟨hs, hd, (h.atCloser rfl).1, h.queue, h.producerGone, h.refusing, nofun, nofun⟩
  have hvain := RowStream.poll_preserves runtime reception (fun hu hg => hu.gives hg) hentering
  exact hvain.answers _ rfl

/-! ## Whoever waits is woken -/

namespace Invocation

/-- What a consumer that was given nothing can rely on. -/
structure Waits (v : Invocation Row R) : Prop where
  started : v.stream.started = true
  ended : v.stream.done = true → v.session.isClosed = true
  alert : v.session.Alert true

/-- The consumer hears of everything it waits for. -/
structure Attentive (v : Invocation Row R) : Prop where
  coherent : v.Coherent
  roomy : 0 < v.session.capacity
  /-- Whoever refuses items has closed the session. -/
  refusing : v.session.refusing = true → v.session.isClosed = true
  /-- The poll under way has looked at the queue in vain. -/
  watching : v.poll = some .watching → v.session.Alert false
  /-- The latest poll gave nothing. -/
  pending : v.poll = none → v.latest = some .pending → v.Waits

section
variable {v v' : Invocation Row R} {move : Move Row}

theorem latest_goOn_done (v : Invocation Row R) (next : Next R) :
    (v.goOn (.done next)).latest = some next := by
  simp [latest, goOn, List.filterMap_append]

/-- A poll that is still under way is at the stage it went on to. -/
theorem eq_of_poll_goOn {stage stage' : PollStage R} (h : (v.goOn stage').poll = some stage) :
    stage' = stage := by
  cases stage' with
  | done next => nomatch h
  | _ => exact Option.some.inj h

/-- A poll that is over has given the latest answer. -/
theorem eq_done_of_latest_goOn {stage' : PollStage R} {next : Next R}
    (hnone : (v.goOn stage').poll = none) (hlatest : (v.goOn stage').latest = some next) :
    stage' = .done next := by
  cases stage' with
  | done next' =>
      rw [latest_goOn_done] at hlatest
      rw [Option.some.inj hlatest]
  | _ => nomatch hnone

/-- A moment of a poll does to the session what the stage does. -/
theorem session_advance (v : Invocation Row R) (runtime : Bool) (reception : Reception)
    (stage : PollStage R) : (v.advance runtime reception stage).session =
      (stage.advance runtime reception v.stream).1.session := by
  rw [advance, session, goOn_stream]

theorem attentive_start {plan : ScanPlan Row R} {capacity : Nat} {stream : RowStream Row R}
    (hopen : RowStream.open? plan capacity = .ok stream) : Attentive (start stream) where
  coherent := coherent_start hopen
  roomy := by
    have hpos := RowStream.pos_of_open? hopen
    cases RowStream.eq_fresh_of_open? hopen
    exact hpos
  refusing := by
    cases RowStream.eq_fresh_of_open? hopen
    nofun
  watching := nofun
  pending _ := nofun

/-- A moment of a poll leaves a bell wherever it found nothing. -/
theorem Attentive.poll (h : v.Attentive) {runtime : Bool} {reception : Reception}
    {stage : PollStage R} (hp : v.poll = some stage) :
    (v.advance runtime reception stage).Attentive := by
  have hstep : v.step? (.poll runtime reception) = some (v.advance runtime reception stage) :=
    congrArg (Option.map _) hp
  have hne : ∀ next, stage ≠ .done next := by
    rintro next rfl
    exact h.coherent.midway _ hp
  have hg : stage.Gives runtime reception v.stream _ _ := PollStage.gives_advance hne
  have hsession := v.session_advance runtime reception stage
  have htells := hg.tells (h.coherent.midway stage hp)
  refine ⟨h.coherent.step hstep, ?_, ?_, ?_, ?_⟩
  · rw [hsession, hg.capacity_eq]
    exact h.roomy
  · rw [hsession, htells.frame.2.1]
    exact fun href => htells.isClosed (h.refusing href)
  · intro hw
    have hlast : (stage.advance runtime reception v.stream).2 = .watching := eq_of_poll_goOn hw
    rw [hlast] at hg
    cases hg.eq_taking
    rw [hsession]
    exact Or.inr (PollStage.silent_of_take hlast)
  · intro hnone hpending
    have hlast : (stage.advance runtime reception v.stream).2 = .done .pending :=
      eq_done_of_latest_goOn hnone hpending
    rw [hlast] at hg
    obtain ⟨rfl, hr, hst⟩ := hg.eq_watching
    obtain ⟨-, hdone, hstarted⟩ := h.coherent.midway _ hp
    have halert : v.session.watchCloser.Alert true := by
      rcases h.watching hp with hrung | hsilent
      · exact Or.inl hrung
      · exact Or.inr ⟨hsilent.queue, hsilent.producerGone, hsilent.refusing, hsilent.atQueue,
          fun _ => ⟨hr, rfl⟩⟩
    refine ⟨?_, ?_, hsession ▸ hst ▸ halert⟩
    · rw [advance, goOn_stream, hst]
      exact hstarted
    · rw [advance, goOn_stream, hst]
      exact fun hended => absurd (hdone.symm.trans hended) Bool.false_ne_true

/-- Every move keeps the consumer attentive. -/
theorem Attentive.step (h : v.Attentive) (hstep : v.step? move = some v') : v'.Attentive := by
  have hcoherent := h.coherent.step hstep
  have hroomy : 0 < v'.session.capacity := capacity_eq_of_step h.coherent hstep ▸ h.roomy
  cases move with
  | pass => cases hstep; exact h
  | beginPoll =>
      obtain ⟨-, ⟨⟩⟩ := Option.ite_none_right_eq_some.mp hstep
      exact ⟨hcoherent, hroomy, h.refusing, nofun, nofun⟩
  | poll runtime reception =>
      obtain ⟨stage, hp, rfl⟩ := Option.map_eq_some_iff.mp hstep
      exact h.poll hp
  | scan move =>
      obtain ⟨scan, hs, rfl⟩ := Option.map_eq_some_iff.mp hstep
      have ht := (Scan.does_of_step? h.coherent.kept.accounts.sound hs).touches
      refine ⟨hcoherent, hroomy, ?_, fun hw => (h.watching hw).touches ht, ?_⟩
      · intro href
        exact ht.isClosed (h.refusing (ht.frame.2.1.symm.trans href))
      · intro hnone hpending
        have hwaits := h.pending hnone hpending
        exact ⟨hwaits.started, fun hd => ht.isClosed (hwaits.ended hd), hwaits.alert.touches ht⟩
  | close reason =>
      cases hstep
      refine ⟨hcoherent, hroomy, fun _ => Session.close_isClosed _ _,
        fun hw => (h.watching hw).close reason, fun hnone hpending => ?_⟩
      have hwaits := h.pending hnone hpending
      exact ⟨hwaits.started, fun _ => Session.close_isClosed _ _, hwaits.alert.close reason⟩
  | cancel =>
      obtain ⟨hf, ⟨⟩⟩ := Option.ite_none_right_eq_some.mp hstep
      have hnone := (isFree_iff.mp hf).1
      have hkeeps := (v.stream.withSession v.session.cancel).keeps_abandonStart
      refine ⟨hcoherent, hroomy, fun _ => hkeeps.isClosed (Session.close_isClosed _ .cancelled),
        fun hw => (nomatch hnone.symm.trans hw), fun _ hpending => ?_⟩
      have hpending' : v.latest = some .pending := by
        simpa [latest, List.filterMap_append] using hpending
      have hwaits := h.pending hnone hpending'
      have hsame : v.stream.cancel = { v.stream.withSession v.session.cancel with done := true } :=
        congrArg (fun st : RowStream Row R => { st with done := true }) (if_pos hwaits.started)
      rw [hsame]
      exact ⟨hwaits.started, fun _ => Session.close_isClosed _ .cancelled,
        Or.inl (hwaits.alert.rung_of_close .cancelled)⟩
  | drop =>
      obtain ⟨hf, ⟨⟩⟩ := Option.ite_none_right_eq_some.mp hstep
      have hnone := (isFree_iff.mp hf).1
      have hkeeps := (v.stream.withSession v.session.dropConsumer).keeps_abandonStart
      refine ⟨hcoherent, hroomy, fun _ => hkeeps.isClosed (Session.close_isClosed _ .cancelled),
        fun hw => (nomatch hnone.symm.trans hw), fun _ hpending => ?_⟩
      have hwaits := h.pending hnone hpending
      have hsame : v.stream.drop = v.stream.withSession v.session.dropConsumer :=
        if_pos hwaits.started
      rw [hsame]
      exact ⟨hwaits.started, fun _ => Session.close_isClosed _ .cancelled,
        Or.inl (hwaits.alert.rung_of_close .cancelled)⟩

end

/-! ## No stall -/

section
variable {plan : ScanPlan Row R} {capacity : Nat} {stream : RowStream Row R}
  {u v w : Invocation Row R} {moves later : List (Move Row)}

/-- The diary says that the poll gave something, or the poll is under way and
bound to find something. -/
def Answers (before : List (Note R)) (w : Invocation Row R) : Prop :=
  (∃ next late, w.diary = before ++ .told next :: late ∧ next ≠ .pending) ∨
    (w.diary = before ∧ ∃ stage, w.poll = some stage ∧ stage.Heads w.stream)

/-- Nobody but the poll itself takes an item out of the queue while it is under
way. -/
theorem Answers.step {before : List (Note R)} {move : Move Row} (h : Answers before u)
    (hu : u.Coherent) (hstep : u.step? move = some v) : Answers before v := by
  rcases h with ⟨next, late, hdiary, hne⟩ | ⟨hdiary, stage, hp, hheads⟩
  · obtain ⟨more, hmore⟩ := diary_isPrefix hu hstep
    refine Or.inl ⟨next, late ++ more, ?_, hne⟩
    rw [← hmore, hdiary, List.append_assoc, List.cons_append]
  have hbusy : u.isFree = false := by simp [isFree, hp]
  -- the queue keeps what it has
  have hkept : ∀ {st : RowStream Row R}, u.session.queue <+: st.session.queue →
      stage.Heads st := by
    intro st hq
    refine hheads.imp_left fun hlate => ⟨hlate.1, fun hnil => hlate.2 ?_⟩
    exact List.prefix_nil.mp (hnil ▸ hq)
  cases move with
  | pass => cases hstep; exact Or.inr ⟨hdiary, stage, hp, hheads⟩
  | poll runtime reception =>
      obtain ⟨stage', hp', rfl⟩ := Option.map_eq_some_iff.mp hstep
      cases hp.symm.trans hp'
      obtain ⟨stream, next, hg, heq⟩ := advance_eq hu hp runtime reception
      rw [heq]
      have hheads' := hg.heads hheads
      cases next with
      | done next =>
          rcases hheads' with ⟨hlate, -⟩ | ⟨next', hnext, hne⟩
          · exact absurd hlate (Nat.not_lt_zero _)
          · cases hnext
            exact Or.inl ⟨next, [], congrArg (· ++ _) hdiary, hne⟩
      | _ => exact Or.inr ⟨hdiary, _, rfl, hheads'⟩
  | scan move =>
      obtain ⟨scan, hs, rfl⟩ := Option.map_eq_some_iff.mp hstep
      have ht := (Scan.does_of_step? hu.kept.accounts.sound hs).touches
      exact Or.inr ⟨hdiary, stage, hp, hkept ht.queue⟩
  | close reason =>
      cases hstep
      refine Or.inr ⟨hdiary, stage, hp, hkept ?_⟩
      exact (Session.close_queue u.session reason).symm ▸ List.prefix_refl _
  | _ =>
      obtain ⟨hf, -⟩ := Option.ite_none_right_eq_some.mp hstep
      exact absurd (hbusy.symm.trans hf) Bool.false_ne_true

theorem attentive_of_play (hopen : RowStream.open? plan capacity = .ok stream)
    (hplay : play? step? (start stream) moves = some v) : v.Attentive :=
  play?_preserves (fun hu hs => hu.step hs) (attentive_start hopen) hplay

/-- A scan that has found room is not blocked. -/
theorem not_isBlocked {s : Session R} (phase : ScanPhase Row R) (hq : s.queue = [])
    (hc : 0 < s.capacity) : phase.isBlocked s = false := by
  cases hb : phase.isBlocked s with
  | false => rfl
  | true =>
      have hfull := ScanPhase.hasRoom_of_isBlocked hb
      exact absurd (hfull.symm.trans (Session.hasRoom_of_queue_nil hq hc)) Bool.false_ne_true

/-- Whatever the parties to an invocation do and in whatever order, neither side
waits for the other in vain:

* a poll that begins while the scan is blocked in an enqueue gives something:
  whatever happens meanwhile, it has done so, or will do so if it is left alone;
* a poll that nobody interrupts and that gives nothing leaves an empty queue, an
  open session and a producer half that is there and not blocked;
* after any other poll that gave nothing this is so until the bell has been rung;
* if the latest poll gave nothing, and an item is queued, the session is closed
  or the producer half is gone, then the bell has been rung: in particular if
  there is a way for another poll to give something. -/
theorem never_stalls (hopen : RowStream.open? plan capacity = .ok stream)
    (hplay : play? step? (start stream) moves = some v) :
    (v.isBlocked = true → ∀ u, v.step? .beginPoll = some u →
      ∀ later w, play? step? u later = some w →
        (∃ next late, w.diary = v.diary ++ .told next :: late ∧ next ≠ .pending) ∨
          (w.diary = v.diary ∧ ∃ stage, w.poll = some stage ∧ ∀ runtime reception,
            (stage.run runtime reception PollStage.moments w.stream).2.answer ≠ .pending)) ∧
    (∀ runtime reception st, v.stream.poll runtime reception = (st, .pending) →
      st.session.queue = [] ∧ st.isClosed = false ∧ st.session.producerGone = false ∧
        st.scan.phase.isBlocked st.session = false) ∧
    (v.poll = none → v.latest = some .pending → v.session.bell.rung = false →
      v.session.queue = [] ∧ v.session.isClosed = false ∧ v.session.producerGone = false ∧
        v.isBlocked = false) ∧
    (v.poll = none → v.latest = some .pending →
      ((v.session.queue ≠ [] ∨ v.session.isClosed = true ∨ v.session.producerGone = true) ∨
        ∃ runtime reception, (v.stream.poll runtime reception).2 ≠ .pending) →
      v.session.bell.rung = true) := by
  have hv := attentive_of_play hopen hplay
  -- what rings in the second row of the table, read backwards
  have hidle : v.poll = none → v.latest = some .pending → v.session.bell.rung = false →
      v.Waits ∧ v.session.Silent true := by
    intro hnone hpending hrung
    have hwaits := hv.pending hnone hpending
    refine ⟨hwaits, hwaits.alert.resolve_left fun hr => ?_⟩
    exact absurd (hrung.symm.trans hr) Bool.false_ne_true
  refine ⟨?_, ?_, ?_, ?_⟩
  · intro hblocked u hbegin later w hlater
    have hu := hv.coherent.step hbegin
    obtain ⟨-, ⟨⟩⟩ := Option.ite_none_right_eq_some.mp hbegin
    have hq : v.session.queue ≠ [] := by
      intro hnil
      exact absurd (hblocked.symm.trans (not_isBlocked v.phase hnil hv.roomy)) Bool.noConfusion
    have hanswers : Answers v.diary { v with poll := some .entering } :=
      Or.inr ⟨rfl, .entering, rfl, Or.inl ⟨by simp [PollStage.toGo], hq⟩⟩
    obtain ⟨-, hw⟩ := play?_preserves (P := fun u => u.Coherent ∧ Answers v.diary u)
      (fun hx hs => ⟨hx.1.step hs, hx.2.step hx.1 hs⟩) ⟨hu, hanswers⟩ hlater
    refine hw.imp_right fun hway => ?_
    obtain ⟨hdiary, stage, hp, hheads⟩ := hway
    exact ⟨hdiary, stage, hp, fun runtime reception => hheads.answer_ne runtime reception⟩
  · intro runtime reception st hpoll
    obtain ⟨hq, hgone, hr, hc⟩ := RowStream.poll_pending hpoll
    have hroomy : 0 < st.session.capacity := hc ▸ hv.roomy
    exact ⟨hq, isClosed_of_reason_none hr, hgone, not_isBlocked st.scan.phase hq hroomy⟩
  · intro hnone hpending hrung
    obtain ⟨-, hsilent⟩ := hidle hnone hpending hrung
    exact ⟨hsilent.queue, isClosed_of_reason_none (hsilent.atCloser rfl).1, hsilent.producerGone,
      not_isBlocked v.phase hsilent.queue hv.roomy⟩
  · intro hnone hpending hready
    cases hrung : v.session.bell.rung with
    | true => rfl
    | false =>
        obtain ⟨hwaits, hsilent⟩ := hidle hnone hpending hrung
        have hopen' : v.session.isClosed = false :=
          isClosed_of_reason_none (hsilent.atCloser rfl).1
        rcases hready with (hq | hc | hgone) | ⟨runtime, reception, hpoll⟩
        · exact absurd hsilent.queue hq
        · exact absurd (hopen'.symm.trans hc) Bool.false_ne_true
        · exact absurd (hsilent.producerGone.symm.trans hgone) Bool.false_ne_true
        · have hd : v.stream.done = false := by
            cases hd : v.stream.done with
            | false => rfl
            | true => exact absurd (hopen'.symm.trans (hwaits.ended hd)) Bool.false_ne_true
          exact absurd (RowStream.answer_of_silent hsilent hwaits.started hd runtime reception) hpoll

end

/-- Room for one item: the consumer has been given nothing, then the row 7 was
queued, and the scan is blocked with the row 8. -/
def blockedBehindRow : List (Move Nat) :=
  [.beginPoll, .poll true .accepted, .poll true .accepted, .poll true .accepted,
    .poll true .accepted, .poll true .accepted, .scan .begin, .scan (.offer 7 0),
    .scan (.advance false), .scan (.advance false), .scan (.advance false), .scan (.advance false),
    .scan (.advance false), .scan (.offer 8 1), .scan (.advance false), .scan (.advance false),
    .scan (.advance false), .scan (.advance false)]

theorem never_stalls_behind_row :
    ∃ v u w : Invocation Nat Nat,
      play? step? (start (.fresh doubling (.fresh 1))) blockedBehindRow = some v ∧
      v.latest = some .pending ∧ v.session.bell.rung = true ∧ v.isBlocked = true ∧
      v.step? .beginPoll = some u ∧
      play? step? u [.poll true .accepted, .close .cancelled, .poll true .accepted] = some w ∧
      ∃ next late, w.diary = v.diary ++ .told next :: late ∧ next ≠ .pending := by
  obtain ⟨v, u, w, hplay, hnone, hpending, hq, hblocked, hbegin, hlater, hnotes⟩ :
      ∃ v u w : Invocation Nat Nat,
        play? step? (start (.fresh doubling (.fresh 1))) blockedBehindRow = some v ∧
        v.poll = none ∧ v.latest = some .pending ∧ v.session.queue ≠ [] ∧ v.isBlocked = true ∧
        v.step? .beginPoll = some u ∧
        play? step? u [.poll true .accepted, .close .cancelled, .poll true .accepted] = some w ∧
        w.diary.length ≠ v.diary.length :=
    ⟨_, _, _, rfl, rfl, rfl, nofun, rfl, rfl, rfl, nofun⟩
  have hstalls := @never_stalls _ _ doubling 1 _ v blockedBehindRow rfl hplay
  refine ⟨v, u, w, hplay, hpending, hstalls.2.2.2 hnone hpending (Or.inl (Or.inl hq)), hblocked,
    hbegin, hlater, ?_⟩
  rcases hstalls.1 hblocked u hbegin _ w hlater with hgiven | ⟨hsame, -⟩
  · exact hgiven
  · exact absurd (congrArg List.length hsame) hnotes

end Invocation
end RowBridge
