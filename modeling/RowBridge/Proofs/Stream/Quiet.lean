/-
# `RowBridge.Proofs.Stream.Quiet` — an invocation that nobody disturbs

A row source that is left to itself hands over its rows and returns, well or
with a failure (`Script`).  This module follows an invocation of such a source
while

* nobody cancels, drops or closes, the stream is started from inside a runtime,
  and the scheduler takes the scan on and does not lose it (`Undisturbed`);
* the source keeps to its script as long as the session is open (`Follows`);
* no deadline passes while the queue is full (`Timely`).

**Proved here** (`Quiet.step`): the session stays open until the scan is over.
It is over either with the end marker enqueued and the session open, or with
every row enqueued and the session closed for the failure of the script; and an
error given to the consumer is that closing.
-/
import RowBridge.Proofs.Stream.Delivery
import RowBridge.Proofs.Stream.Discipline

namespace RowBridge

variable {Row R : Type}

/-- What a row source does when it is left to itself. -/
structure Script (Row : Type) where
  rows : List (Row × Nat)
  ending : Ending

/-- A script that a plan can see through: there is a runtime to wait in, the
mapper has a value for every row, and the source does not give up. -/
structure Script.Suits (script : Script Row) (plan : ScanPlan Row R) : Prop where
  runtime : plan.runtime = true
  mapped : ∀ handed ∈ script.rows, ∃ value, plan.result handed = .ok value
  returns : ∀ text, script.ending ≠ .raised text

/-- An enqueue is looking for room. -/
def ScanPhase.looksForRoom : ScanPhase Row R → Bool
  | sending _ stage => stage.looksForRoom
  | ending stage => stage.looksForRoom
  | _ => false

/-- An enqueue that has found room or is still looking for it. -/
def SendStage.Calm : SendStage → Prop
  | settling _ => False
  | done outcome => outcome = .sent
  | _ => True

namespace Invocation

/-- Nobody but the scan and the polls makes the move, and the scan is started as
it should be. -/
def Undisturbed (v : Invocation Row R) : Move Row → Prop
  | .poll runtime reception => v.poll = some .starting → runtime = true ∧ reception = .accepted
  | .scan .lose | .close _ | .cancel | .drop => False
  | _ => True

/-- The source keeps to its script while the session is open. -/
def Follows (script : Script Row) (v : Invocation Row R) : Move Row → Prop
  | .scan (.offer row index) => v.session.isClosed = false →
      v.ledger.handed ++ [(row, index)] <+: script.rows
  | .scan (.conclude ending) => v.session.isClosed = false →
      v.ledger.handed = script.rows ∧ ending = script.ending
  | _ => True

/-- No deadline passes while the queue is full. -/
def Timely (v : Invocation Row R) : Move Row → Prop
  | .scan (.advance expired) =>
      v.phase.looksForRoom = true → expired = true → v.session.hasRoom = true
  | _ => True

instance [DecidableEq R] (v : Invocation Row R) (move : Move Row) :
    Decidable (Undisturbed v move) :=
  match move with
  | .poll runtime reception =>
      inferInstanceAs (Decidable (v.poll = some .starting → runtime = true ∧ reception = .accepted))
  | .scan .lose | .close _ | .cancel | .drop => inferInstanceAs (Decidable False)
  | .beginPoll | .pass | .scan .begin | .scan (.offer _ _) | .scan (.conclude _)
  | .scan (.advance _) | .scan .recheck => inferInstanceAs (Decidable True)

instance [DecidableEq Row] (script : Script Row) (v : Invocation Row R) (move : Move Row) :
    Decidable (Follows script v move) :=
  match move with
  | .scan (.offer row index) => inferInstanceAs (Decidable (v.session.isClosed = false →
      v.ledger.handed ++ [(row, index)] <+: script.rows))
  | .scan (.conclude ending) => inferInstanceAs (Decidable (v.session.isClosed = false →
      v.ledger.handed = script.rows ∧ ending = script.ending))
  | .poll _ _ | .close _ | .cancel | .drop | .beginPoll | .pass | .scan .begin | .scan .lose
  | .scan (.advance _) | .scan .recheck => inferInstanceAs (Decidable True)

instance (v : Invocation Row R) (move : Move Row) : Decidable (Timely v move) :=
  match move with
  | .scan (.advance expired) => inferInstanceAs (Decidable
      (v.phase.looksForRoom = true → expired = true → v.session.hasRoom = true))
  | .poll _ _ | .close _ | .cancel | .drop | .beginPoll | .pass | .scan .begin | .scan .lose
  | .scan (.offer _ _) | .scan (.conclude _) | .scan .recheck => inferInstanceAs (Decidable True)

/-- Where the scan stands: the session is open until the scan is over. -/
def Calm (plan : ScanPlan Row R) (script : Script Row) (reason : Option ClosureReason)
    (l : Ledger Row R) : ScanPhase Row R → Prop
  | .discarded => False
  | .sending _ stage | .ending stage => reason = none ∧ stage.Calm
  | .ended _ => (reason = none ∧ .finish ∈ l.enqueued) ∨
      ∃ failure, script.ending = .failed failure ∧ reason = some (Scan.closureOf failure) ∧
        l.returned = some script.ending ∧ Carries plan l.handed l.enqueued
  | _ => reason = none

/-- What holds of an invocation that nobody disturbs. -/
structure Quiet (plan : ScanPlan Row R) (script : Script Row) (v : Invocation Row R) : Prop
    extends Invariant plan v where
  disciplined : ∃ tail, Disciplined tail v
  calm : Calm plan script v.session.reason v.ledger v.phase
  refusing : v.session.refusing = false
  present : v.session.consumerGone = false
  handed : v.ledger.handed <+: script.rows
  returned : ∀ ending, v.ledger.returned = some ending →
    ending = script.ending ∧ v.ledger.handed = script.rows
  uncancelled : .cancelled ∉ v.diary
  failures : ∀ error, .told (.failed error) ∈ v.diary → v.session.isClosed = true ∧
    ∃ failure, script.ending = .failed failure ∧ error = .closed (Scan.closureOf failure)

theorem isClosed_of_reason_none {s : Session R} (h : s.reason = none) : s.isClosed = false := by
  rw [Session.isClosed_eq_isSome, h]
  rfl

/-! ## The scan -/

/-- In an open session an enqueue goes on until it finds room. -/
theorem calm_moves {runtime expired : Bool} {s s' : Session R} {item : Item R}
    {stage stage' : SendStage} (h : stage.Moves runtime expired s item s' stage')
    (hc : stage.Calm) (ho : s.reason = none) (href : s.refusing = false) (hr : runtime = true)
    (ht : stage.looksForRoom = true → expired = true → s.hasRoom = true) :
    s'.reason = none ∧ stage'.Calm := by
  have hopen := isClosed_of_reason_none ho
  cases h with
  | turnedAway hclosed => exact absurd (hopen.symm.trans hclosed) Bool.false_ne_true
  | strands _ hf => exact absurd (hf.symm.trans hr) Bool.false_ne_true
  | refused hre => exact absurd (href.symm.trans hre) Bool.false_ne_true
  | expires _ hroom he hl => exact absurd (hroom.symm.trans (ht hl he)) Bool.false_ne_true
  | lands => exact ⟨ho, rfl⟩
  | settles => exact hc.elim
  | _ => exact ⟨ho, trivial⟩

section
variable {plan : ScanPlan Row R} {script : Script Row} {v v' : Invocation Row R} {move : Move Row}

/-- Before the scan is over the session is open. -/
theorem Calm.open {reason : Option ClosureReason} {l : Ledger Row R} {phase : ScanPhase Row R}
    (h : Calm plan script reason l phase) (ho : phase.isOver = false) : reason = none := by
  cases phase with
  | sending item stage => exact h.1
  | ending stage => exact h.1
  | ended ending => cases ho
  | discarded => cases ho
  | _ => exact h

/-- A reason that was recorded is that of the script's failure. -/
theorem Calm.reason_eq {reason : ClosureReason} {l : Ledger Row R} {phase : ScanPhase Row R}
    (h : Calm plan script (some reason) l phase) :
    ∃ failure, script.ending = .failed failure ∧ reason = Scan.closureOf failure := by
  cases ho : phase.isOver with
  | false => cases h.open ho
  | true =>
      cases phase with
      | ended ending =>
          obtain ⟨hn, -⟩ | ⟨failure, hending, hreason, -⟩ := h
          · cases hn
          · exact ⟨failure, hending, Option.some.inj hreason⟩
      | discarded => exact h.elim
      | _ => cases ho

/-- An enqueue finds room when its deadline passes. -/
theorem Timely.room {expired : Bool} (h : Timely v (.scan (.advance expired))) {stage : SendStage}
    (hlooks : v.phase.looksForRoom = stage.looksForRoom) :
    stage.looksForRoom = true → expired = true → v.session.hasRoom = true := by
  intro hl
  exact h (hlooks.trans hl)

/-- A move of the scan, its source or its clock leaves the scan where it should
be. -/
theorem Quiet.calm_scan (h : Quiet plan script v) (hsuits : script.Suits plan)
    {move : ScanMove Row} {scan : Scan Row R} (hd : v.stream.scan.Does move scan)
    (hu : Undisturbed v (.scan move)) (hf : Follows script v (.scan move))
    (ht : Timely v (.scan move)) :
    Calm plan script scan.session.reason (v.ledger.enter v.session scan.session move)
      scan.phase := by
  have hcalm : Calm plan script v.session.reason v.ledger v.stream.scan.phase := h.calm
  have hst := h.coherent.kept.accounts.stands
  have hreason : v.session.reason = none := hcalm.open hd.isUnderWay.2
  have hopen : v.stream.scan.session.isClosed = false := isClosed_of_reason_none hreason
  have hclosed : v.stream.scan.session.isClosed = true → False := by
    intro hc
    exact absurd (hopen.symm.trans hc) Bool.false_ne_true
  -- the session is open, which rules out every way to end before the source returns
  cases hd with
  | skips _ hc => exact (hclosed hc).elim
  | begins => exact hreason
  | vanishes => exact hu.elim
  | turnsAway _ hc => exact (hclosed hc).elim
  | takesOn => exact hreason
  | comesToEnd => exact ⟨hreason, trivial⟩
  | fails => exact hreason
  | stops _ hc => exact (hclosed hc).elim
  | stopsFailing _ hc => exact (hclosed hc).elim
  | raises => exact absurd (hf hopen).2.symm (hsuits.returns _)
  | maps => exact ⟨hreason, trivial⟩
  | @givesUp expired row index text hp hm =>
      rw [hp] at hst
      obtain ⟨-, early, hhanded, -⟩ := hst
      have hmem : (row, index) ∈ script.rows :=
        h.handed.subset (hhanded ▸ List.mem_append_right _ (List.mem_singleton_self _))
      obtain ⟨value, hvalue⟩ := hsuits.mapped _ hmem
      rw [h.plan_eq] at hm
      exact nomatch hm.symm.trans hvalue
  | @sends expired item stage stage' session events hp hm =>
      rw [hp] at hcalm
      have hroom := ht.room (congrArg ScanPhase.looksForRoom hp)
      exact calm_moves hm hcalm.2 hreason h.refusing (h.plan_eq ▸ hsuits.runtime) hroom
  | settles => rw [Scan.settleRow_session, Scan.settleRow_phase]; exact hreason
  | @delivers expired stage stage' session events hp hm =>
      rw [hp] at hcalm
      have hroom := ht.room (congrArg ScanPhase.looksForRoom hp)
      exact calm_moves hm hcalm.2 hreason h.refusing (h.plan_eq ▸ hsuits.runtime) hroom
  | @completes expired outcome hp =>
      rw [hp] at hcalm hst
      obtain ⟨-, body, -, henq⟩ := hst
      cases hcalm.2
      rw [Scan.settleFinish_session, Scan.settleFinish_phase, Session.dropProducer_reason]
      refine Or.inl ⟨hreason, List.mem_append_left _ ?_⟩
      rw [henq]
      exact List.mem_append_right _ (List.mem_singleton_self _)
  | @closes expired failure hp =>
      rw [hp] at hst
      obtain ⟨hret, hcar⟩ := hst
      have hq : (v.stream.scan.session.close (Scan.closureOf failure)).dropProducer.queue =
          v.session.queue := (Session.dropProducer_queue _).trans (Session.close_queue _ _)
      rw [Scan.settleFailure_session, Scan.settleFailure_phase]
      have hending := (h.returned _ hret).1
      refine Or.inr ⟨failure, hending.symm, ?_, hending ▸ hret, ?_⟩
      · rw [Session.dropProducer_reason, Session.close_reason]
        exact congrArg some (congrArg (Option.getD · _) hreason)
      · show Carries plan (v.ledger.grow v.session _).handed (v.ledger.grow v.session _).enqueued
        rw [Ledger.grow_of_queue_eq _ hq]
        exact h.plan_eq ▸ hcar
  | looksAgain => exact ⟨hreason, trivial⟩
  | endsAgain => exact ⟨hreason, trivial⟩

/-- A move of the scan keeps the ledger to the script. -/
theorem Quiet.ledger_scan (h : Quiet plan script v) {move : ScanMove Row} {scan : Scan Row R}
    (hd : v.stream.scan.Does move scan) (hf : Follows script v (.scan move)) :
    (v.ledger.enter v.session scan.session move).handed <+: script.rows ∧
      ∀ ending, (v.ledger.enter v.session scan.session move).returned = some ending →
        ending = script.ending ∧
          (v.ledger.enter v.session scan.session move).handed = script.rows := by
  have hopen : v.session.isClosed = false :=
    isClosed_of_reason_none (h.calm.open hd.isUnderWay.2)
  cases move with
  | offer row index =>
      have hscanning : v.ledger.returned = none := by
        have hst := h.coherent.kept.accounts.stands
        cases hd with
        | turnsAway hp => rw [hp] at hst; exact hst.1
        | takesOn hp => rw [hp] at hst; exact hst.1
      refine ⟨hf hopen, ?_⟩
      intro ending he
      exact nomatch hscanning.symm.trans he
  | conclude result =>
      refine ⟨h.handed, ?_⟩
      intro ending he
      cases he
      exact ⟨(hf hopen).2, (hf hopen).1⟩
  | _ => exact ⟨h.handed, h.returned⟩

/-! ## The polls -/

/-- A moment of a poll leaves the scan where it should be. -/
theorem Quiet.calm_poll (h : Quiet plan script v) {runtime : Bool} {reception : Reception}
    {stage stage' : PollStage R} {stream : RowStream Row R} (hp : v.poll = some stage)
    (hu : Undisturbed v (.poll runtime reception))
    (hg : stage.Gives runtime reception v.stream stream stage') :
    Calm plan script stream.session.reason v.ledger stream.scan.phase := by
  have hcalm : Calm plan script v.stream.session.reason v.ledger v.stream.scan.phase := h.calm
  have hdeferred : v.stream.started = false → v.stream.reason = none := by
    intro hs
    rw [h.coherent.kept.deferred hs] at hcalm
    exact hcalm
  cases hg with
  | @turnsBack reason _ hr =>
      cases hs : v.stream.started with
      | false => exact nomatch (hdeferred hs).symm.trans hr
      | true =>
          have hsame : (v.stream.withSession v.stream.session.hush).abandonStart =
              v.stream.withSession v.stream.session.hush := if_pos hs
          rw [hsame]
          exact hcalm
  | strands hf => exact absurd (hf.symm.trans (hu hp).1) Bool.false_ne_true
  | handsOver =>
      rw [(hu hp).2]
      exact hdeferred (h.coherent.midway _ hp).2.2
  | _ => exact hcalm

/-- A scan that is over leaves an open stream nothing to wait for. -/
theorem Quiet.done_of_over (h : Quiet plan script v)
    (hover : v.phase.isOver = true) (hopen : v.session.isClosed = false)
    (hq : v.session.queue = []) : v.stream.done = true := by
  have hcalm := h.calm
  obtain ⟨read, hread⟩ := h.delivers
  have hall : read = v.ledger.enqueued := by
    rw [← hread.flow h.present, hq, List.append_nil]
  cases hp : v.phase with
  | ended ending =>
      rw [hp] at hcalm
      obtain ⟨-, hf⟩ | ⟨failure, -, hr, -, -⟩ := hcalm
      · exact hread.marked (hall ▸ hf)
      · exact absurd (hopen.symm.trans (Session.isClosed_of_reason hr)) Bool.false_ne_true
  | discarded => rw [hp] at hcalm; exact hcalm.elim
  | _ => rw [hp] at hover; cases hover

/-- An error that a poll gives is the closing for the failure of the script. -/
theorem Quiet.failed (h : Quiet plan script v) {runtime : Bool} {reception : Reception}
    {stage : PollStage R} {stream : RowStream Row R} {error : Error} (hp : v.poll = some stage)
    (hu : Undisturbed v (.poll runtime reception))
    (hg : stage.Gives runtime reception v.stream stream (.done (.failed error))) :
    v.session.isClosed = true ∧ ∃ failure, script.ending = .failed failure ∧
      error = .closed (Scan.closureOf failure) := by
  have hcalm : Calm plan script v.stream.session.reason v.ledger v.stream.scan.phase := h.calm
  have hrecorded : ∀ {reason : ClosureReason}, v.stream.reason = some reason →
      v.session.isClosed = true ∧ ∃ failure, script.ending = .failed failure ∧
        Error.closed reason = .closed (Scan.closureOf failure) := by
    intro reason hr
    rw [show v.stream.session.reason = some reason from hr] at hcalm
    obtain ⟨failure, hending, rfl⟩ := hcalm.reason_eq
    exact ⟨Session.isClosed_of_reason hr, failure, hending, rfl⟩
  cases hg with
  | turnsBack _ hr => exact hrecorded hr
  | strands hf => exact absurd (hf.symm.trans (hu hp).1) Bool.false_ne_true
  | stops _ hr => exact hrecorded hr
  | findsNobody hq hgone =>
      cases hr : v.stream.reason with
      | some reason => exact hrecorded hr
      | none =>
          have hgone : v.stream.session.producerGone = true :=
            hgone.resolve_right fun href => Bool.false_ne_true (h.refusing.symm.trans href)
          have hover : v.phase.isOver = true :=
            h.coherent.kept.accounts.gone.symm.trans hgone
          have hdone := h.done_of_over hover (isClosed_of_reason_none hr) hq
          exact absurd ((h.coherent.midway _ hp).2.1.symm.trans hdone) Bool.false_ne_true

/-- A moment of a poll keeps quiet. -/
theorem Quiet.poll (h : Quiet plan script v) {runtime : Bool} {reception : Reception}
    {stage stage' : PollStage R} {stream : RowStream Row R} (hp : v.poll = some stage)
    (hu : Undisturbed v (.poll runtime reception))
    (hg : stage.Gives runtime reception v.stream stream stage')
    (hinv : Invariant plan ({ v with stream := stream }.goOn stage')) :
    Quiet plan script ({ v with stream := stream }.goOn stage') := by
  have ht := hg.tells (h.coherent.midway stage hp)
  have hframe := ht.frame
  obtain ⟨tail, htail⟩ := h.disciplined
  have hcalm := h.calm_poll hp hu hg
  have hclosed : v.session.isClosed = true → stream.session.isClosed = true := ht.isClosed
  cases stage' with
  | done next =>
      exact {
        toInvariant := hinv
        disciplined := htail.polls ht
        calm := hcalm
        refusing := hframe.2.1.trans h.refusing
        present := hframe.2.2.trans h.present
        handed := h.handed
        returned := h.returned
        uncancelled := by
          intro hc
          rcases List.mem_append.mp hc with hc | hc
          · exact h.uncancelled hc
          · exact nomatch List.mem_singleton.mp hc
        failures := by
          intro error he
          rcases List.mem_append.mp he with he | he
          · exact (h.failures error he).imp_left hclosed
          · cases List.mem_singleton.mp he
            exact (h.failed hp hu hg).imp_left hclosed }
  | _ =>
      exact {
        toInvariant := hinv
        disciplined := htail.polls ht
        calm := hcalm
        refusing := hframe.2.1.trans h.refusing
        present := hframe.2.2.trans h.present
        handed := h.handed
        returned := h.returned
        uncancelled := h.uncancelled
        failures := fun error he => (h.failures error he).imp_left hclosed }

/-! ## Every move -/

/-- An invocation that nobody disturbs, with time enough, stays quiet. -/
theorem Quiet.step (h : Quiet plan script v) (hsuits : script.Suits plan)
    (hu : Undisturbed v move) (hf : Follows script v move) (ht : Timely v move)
    (hstep : v.step? move = some v') : Quiet plan script v' := by
  have hinv := h.toInvariant.step hstep
  cases move with
  | pass => cases hstep; exact h
  | beginPoll =>
      obtain ⟨-, ⟨⟩⟩ := Option.ite_none_right_eq_some.mp hstep
      obtain ⟨tail, htail⟩ := h.disciplined
      exact ⟨hinv, htail.step h.coherent hstep, h.calm, h.refusing, h.present, h.handed, h.returned,
        h.uncancelled, h.failures⟩
  | poll runtime reception =>
      obtain ⟨stage, hp, rfl⟩ := Option.map_eq_some_iff.mp hstep
      obtain ⟨stream, stage', hg, heq⟩ := advance_eq h.coherent hp runtime reception
      rw [heq] at hinv ⊢
      exact h.poll hp hu hg hinv
  | scan move =>
      obtain ⟨tail, htail⟩ := h.disciplined
      obtain ⟨scan, hs, rfl⟩ := Option.map_eq_some_iff.mp hstep
      have hd := Scan.does_of_step? h.coherent.kept.accounts.sound hs
      have hframe := hd.touches.frame
      have hledger := h.ledger_scan hd hf
      exact ⟨hinv, htail.step h.coherent hstep, h.calm_scan hsuits hd hu hf ht,
        hframe.2.1.trans h.refusing, hframe.2.2.trans h.present, hledger.1, hledger.2,
        h.uncancelled,
        fun error he => (h.failures error he).imp_left hd.touches.isClosed⟩
  | _ => exact hu.elim

theorem quiet_start {capacity : Nat} {stream : RowStream Row R}
    (hopen : RowStream.open? plan capacity = .ok stream) (script : Script Row) :
    Quiet plan script (start stream) := by
  have hinv := invariant_start hopen
  have hdisciplined := disciplined_start hopen
  cases RowStream.eq_fresh_of_open? hopen
  exact ⟨hinv, ⟨[], hdisciplined⟩, rfl, rfl, rfl, List.nil_prefix, nofun, List.not_mem_nil, nofun⟩

/-! ## What the consumer sees -/

/-- The rows given are the mapped rows of the script, from the first one on. -/
theorem Quiet.rows_isPrefix_script (h : Quiet plan script v) :
    v.rows.map .ok <+: script.rows.map plan.result :=
  h.rows_isPrefix.trans (h.handed.map plan.result)

/-- A stream that has not ended has given rows only. -/
theorem Quiet.answers_of_open (h : Quiet plan script v) (ho : v.stream.done = false) :
    v.answers = v.rows.map .row := by
  obtain ⟨tail, htail⟩ := h.disciplined
  cases htail.open_nil ho
  rw [htail.answers_eq, List.append_nil]

/-- A poll that gave something is in the diary. -/
theorem mem_diary_of_mem_answers {next : Next R} (h : next ∈ v.answers) : .told next ∈ v.diary := by
  obtain ⟨note, hnote, hanswer⟩ := List.mem_filterMap.mp h
  cases note with
  | told told =>
      cases told with
      | pending => cases hanswer
      | _ => cases hanswer; exact hnote
  | cancelled => cases hanswer

theorem mem_answers_of_mem_diary {error : Error} (h : .told (.failed error) ∈ v.diary) :
    .failed error ∈ v.answers :=
  List.mem_filterMap.mpr ⟨_, h, rfl⟩

/-- A stream that has ended gave the end after every row, or the closing for the
script's failure. -/
theorem Quiet.answers_of_done (h : Quiet plan script v) (hd : v.stream.done = true) :
    ∃ signal n, v.answers = v.rows.map .row ++ signal :: List.replicate n .finished ∧
      ((signal = .finished ∧ v.ledger.returned = some .ok ∧
          v.rows.map .ok = v.ledger.handed.map plan.result) ∨
        ∃ failure, script.ending = .failed failure ∧
          signal = .failed (.closed (Scan.closureOf failure))) := by
  obtain ⟨tail, htail⟩ := h.disciplined
  obtain ⟨read, hread⟩ := h.delivers
  have hanswers := htail.answers_eq
  rcases htail.terminal with rfl | ⟨signal, n, rfl, hsignal⟩
  · exact absurd (htail.cancelled hd rfl) h.uncancelled
  refine ⟨signal, n, hanswers, ?_⟩
  rcases hsignal with rfl | ⟨error, rfl⟩
  · refine Or.inl ⟨rfl, h.rows_eq hread ?_⟩
    rcases hread.ended hd with hf | ⟨error, he⟩ | hc
    · exact hf
    · have hmem := mem_answers_of_mem_diary he
      rw [hanswers] at hmem
      simp at hmem
    · exact absurd hc h.uncancelled
  · have hmem : .failed error ∈ v.answers := by
      rw [hanswers]
      exact List.mem_append_right _ List.mem_cons_self
    obtain ⟨-, failure, hending, rfl⟩ := h.failures error (mem_diary_of_mem_answers hmem)
    exact Or.inr ⟨failure, hending, rfl⟩

end

end Invocation
end RowBridge
