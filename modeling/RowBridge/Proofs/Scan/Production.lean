/-
# `RowBridge.Proofs.Scan.Production` — a scan and its consumer on one session

A scan feeds a session from which its consumer takes items, and which the consumer
may close at any time.  A `Production` is such a scan with what has passed between it
and its source: the ledger, and what the source was told after each row.  The two
parties move in any order (`Production.step?`).

In every state that a schedule leads to (`Kept`):

* the accounts of the scan are in order, and a session that refuses items, or whose
  consumer is gone, is closed;
* a source that was told to stop is at work for a closed session or is done (`Halted`);
* nothing is enqueued by a scan that was never begun.

**When the consumer closes.**  An enqueue looks for a closing and then for room, and
a scan looks for a closing and then acts on what its source returned.  A closing
between two such looks is seen by the second and not by the first.  `Timely` leaves
these moments out: it admits a closing before the scan, whenever the source is at
work, and while the end marker waits for room.

    phase                      a closing is
    deferred, queued           timely
    scanning, mapping          timely
    sending                    timely
    ending                     timely, but not at `reserving` and not once the marker is in
    failing                    too early to be the reason, too late to be looked for
    ended, discarded           after the scan

Where closings are timely, the end marker and a closing exclude each other (`Fair`).
-/
import RowBridge.Proofs.Run
import RowBridge.Proofs.Scan.Ledger
import RowBridge.Proofs.Session.Traffic
import RowBridge.Proofs.Stream.Ending
import RowBridge.Scenario.Scans

namespace RowBridge

open Scenario (ConsumerAct)

variable {Row R : Type}

/-! ## The consumer -/

/-- The act closes the session. -/
def Scenario.ConsumerAct.closes : ConsumerAct → Bool
  | .receive => false
  | _ => true

namespace Session

/-- The session after an act of its consumer, who does nothing once gone. -/
def attend (s : Session R) (act : ConsumerAct) : Session R :=
  if s.consumerGone then s
  else
    match act with
    | .receive => s.poll.1
    | .close reason => s.close reason
    | .cancel => s.cancel
    | .drop => s.dropConsumer

section
variable {s s' : Session R}

theorem poll_producerGone (s : Session R) : s.poll.1.producerGone = s.producerGone := by
  dsimp only [poll]
  split
  · rfl
  · split <;> rfl

/-- What an act of the consumer leaves alone, and what becomes of the reason. -/
structure Attended (act : ConsumerAct) (s s' : Session R) : Prop where
  producerGone : s'.producerGone = s.producerGone
  guarded : s'.Guarded
  kept : ∀ {reason : ClosureReason}, s.reason = some reason → s'.reason = some reason
  quiet : act.closes = false → s'.reason = s.reason
  closed : act.closes = true → s'.isClosed = true

theorem Guarded.attended (h : s.Guarded) (act : ConsumerAct) : Attended act s (s.attend act) := by
  unfold attend
  split
  · next hgone => exact ⟨rfl, h, id, fun _ => rfl, fun _ => h.gone hgone⟩
  have hclosed : ∀ (reason : ClosureReason) {t : Session R}, t.reason = (s.close reason).reason →
      t.isClosed = true := by
    intro reason t ht
    rw [isClosed_eq_isSome, ht, ← isClosed_eq_isSome]
    exact close_isClosed s reason
  have hkept : ∀ (closure : ClosureReason) {t : Session R}, t.reason = (s.close closure).reason →
      ∀ {reason : ClosureReason}, s.reason = some reason → t.reason = some reason :=
    fun closure _ ht _ hr => ht.trans ((s.keeps_close closure).reason hr)
  cases act with
  | receive =>
      have hl := Traffic.looked_poll s
      have hsame : s.poll.1.isClosed = s.isClosed := congrArg Option.isSome hl.reason
      exact ⟨poll_producerGone s, h.of_frame hsame.trans hl.refusing hl.consumerGone,
        hl.reason.trans, fun _ => hl.reason, nofun⟩
  | close reason =>
      have hc : (s.close reason).isClosed = true := hclosed reason rfl
      exact ⟨close_producerGone s reason, ⟨fun _ => hc, fun _ => hc⟩, hkept reason rfl, nofun,
        fun _ => hc⟩
  | cancel =>
      have hc : s.cancel.isClosed = true := hclosed .cancelled rfl
      exact ⟨close_producerGone s .cancelled, ⟨fun _ => hc, fun _ => hc⟩, hkept .cancelled rfl,
        nofun, fun _ => hc⟩
  | drop =>
      have hc : s.dropConsumer.isClosed = true := hclosed .cancelled rfl
      exact ⟨close_producerGone s .cancelled, ⟨fun _ => hc, fun _ => hc⟩, hkept .cancelled rfl,
        nofun, fun _ => hc⟩

end
end Session

/-- The consumer acts on the session and on nothing else of a scan. -/
theorem Scenario.Scans.act_eq (s : Scan Row R) (act : ConsumerAct) :
    (Scans.act s act).1 = { s with session := s.session.attend act } := by
  unfold Scans.act Session.attend
  split
  · rfl
  · cases act <;> rfl

namespace Scan

/-- The source of a closed session can do no more than hand over a row that is turned
away, or return. -/
theorem Does.of_shut {s s' : Scan Row R} {move : ScanMove Row} (hd : s.Does move s')
    (hp : s.phase = .scanning) (hc : s.session.isClosed = true) :
    (∃ row index, move = .offer row index ∧ s' = { s with answer := some .stop }) ∨
      (∃ ending, move = .conclude ending ∧ s'.phase.isOver = true ∧ s'.mapped = s.mapped) := by
  have hopen : ∀ {P : Prop}, s.session.isClosed = false → P :=
    fun ho => absurd (ho.symm.trans hc) Bool.false_ne_true
  cases hd with
  | turnsAway => exact Or.inl ⟨_, _, rfl, rfl⟩
  | takesOn _ ho => exact hopen ho
  | comesToEnd _ ho => exact hopen ho
  | fails _ ho => exact hopen ho
  | stops => exact Or.inr ⟨_, rfl, rfl, rfl⟩
  | stopsFailing => exact Or.inr ⟨_, rfl, rfl, rfl⟩
  | raises => exact Or.inr ⟨_, rfl, rfl, rfl⟩
  | _ hp' => exact nomatch hp.symm.trans hp'

/-- A scan with its end marker in hand has just got there, has been woken, or is in the
midst of the enqueue. -/
theorem Does.ending_cases {s s' : Scan Row R} {move : ScanMove Row} (hd : s.Does move s')
    {stage' : SendStage} (hp : s'.phase = .ending stage') :
    stage' = .entering ∨ (stage' = .polling ∧ s.phase = .ending .waiting) ∨
      ∃ expired stage, move = .advance expired ∧ s.phase = .ending stage ∧
        stage.Moves s.plan.runtime expired s.session .finish s'.session stage' := by
  cases hd with
  | comesToEnd => cases hp; exact Or.inl rfl
  | endsAgain hp' => cases hp; exact Or.inr (Or.inl ⟨rfl, hp'⟩)
  | delivers hp' hm => cases hp; exact Or.inr (Or.inr ⟨_, _, rfl, hp', hm⟩)
  | turnsAway hp' => exact nomatch hp'.symm.trans hp
  | settles => rw [settleRow_phase] at hp; cases hp
  | completes => rw [settleFinish_phase] at hp; cases hp
  | closes => rw [settleFailure_phase] at hp; cases hp
  | _ => cases hp

/-- A scan fails because its source has just returned to an open session. -/
theorem Does.failing_cases {s s' : Scan Row R} {move : ScanMove Row} (hd : s.Does move s')
    {failure : ScanError} (hp : s'.phase = .failing failure) :
    move = .conclude (.failed failure) ∧ s'.session.isClosed = false := by
  cases hd with
  | fails _ ho => cases hp; exact ⟨rfl, ho⟩
  | turnsAway hp' => exact nomatch hp'.symm.trans hp
  | settles => rw [settleRow_phase] at hp; cases hp
  | completes => rw [settleFinish_phase] at hp; cases hp
  | closes => rw [settleFailure_phase] at hp; cases hp
  | _ => cases hp

/-- A scan enqueues nothing in its last move. -/
theorem Touches.queue_of_over {runtime ended : Bool} {s s' : Session R}
    (h : Touches runtime s s' ended) (hover : ended = true) : s'.queue = s.queue := by
  cases h with
  | leaves => rfl
  | givesUp => exact Session.dropProducer_queue s
  | enqueues => cases hover
  | closes reason => exact (Session.dropProducer_queue _).trans (Session.close_queue s reason)

/-- What the source is told when it gets control back. -/
def told (s : Scan Row R) : List Flow := if s.isIdle then s.answer.toList else []

/-- A source that does not get control back is told nothing. -/
theorem told_of_isOver {s : Scan Row R} (h : s.phase.isOver = true) : s.told = [] := by
  unfold told isIdle
  cases hp : s.phase with
  | scanning => rw [hp] at h; cases h
  | _ => rfl

end Scan

/-- An enqueue that is about to look for room has just found the session open. -/
theorem SendStage.Moves.open_of_reserving {runtime expired : Bool} {s s' : Session R}
    {item : Item R} {stage : SendStage}
    (h : stage.Moves runtime expired s item s' .reserving) : s'.isClosed = false := by
  cases h with
  | goesOn ho => exact ho

/-- An end marker that is in has been enqueued by a scan that has nothing left to do. -/
theorem Stands.phase_of_marked {plan : ScanPlan Row R} {closed : Bool} {l : Ledger Row R}
    {phase : ScanPhase Row R} (h : Stands plan closed l phase) (hmarked : .finish ∈ l.enqueued) :
    phase = .ending (.done .sent) ∨ ∃ ending, phase = .ended ending := by
  cases phase with
  | scanning =>
      obtain ⟨-, early, late, -, hcar, -⟩ := h
      exact absurd hmarked hcar.finish_notMem
  | mapping row index =>
      obtain ⟨-, early, -, hcar⟩ := h
      exact absurd hmarked hcar.finish_notMem
  | sending item stage =>
      obtain ⟨-, early, row, index, value, body, -, -, rfl, hcar, henq⟩ := h
      rw [henq] at hmarked
      rcases List.mem_append.mp hmarked with hbody | hlanded
      · exact absurd hbody hcar.finish_notMem
      · unfold SendStage.landed at hlanded
        split at hlanded
        · exact nomatch List.mem_singleton.mp hlanded
        · cases hlanded
  | ending stage =>
      obtain ⟨-, body, hcar, henq⟩ := h
      by_cases hsent : stage = .done .sent
      · exact Or.inl (congrArg _ hsent)
      · rw [henq, SendStage.landed_of_ne _ hsent, List.append_nil] at hmarked
        exact absurd hmarked hcar.finish_notMem
  | failing failure => exact absurd hmarked h.2.finish_notMem
  | ended ending => exact Or.inr ⟨ending, rfl⟩
  | _ => rw [h] at hmarked; cases hmarked

/-- Whether a closing comes before the scan, while its source is at work, or while
the end marker waits for room. -/
def ScanPhase.admitsClosing : ScanPhase Row R → Bool
  | .ending .reserving | .ending (.done .sent) => false
  | .failing _ | .ended _ | .discarded => false
  | _ => true

/-! ## The two parties -/

/-- A scan at work, and what has passed between it and its source. -/
structure Production (Row R : Type) where
  scan : Scan Row R
  ledger : Ledger Row R
  /-- What the source was told after each of its rows. -/
  told : List Flow

/-- A move of the scan or of the consumer. -/
inductive ProductionMove (Row : Type)
  | scan (move : ScanMove Row)
  | act (act : ConsumerAct)

namespace Production

/-- A scan that is about to be run. -/
def start (plan : ScanPlan Row R) (session : Session R) : Production Row R where
  scan := { Scan.fresh plan session with phase := .queued }
  ledger := .empty
  told := []

def session (p : Production Row R) : Session R := p.scan.session

def phase (p : Production Row R) : ScanPhase Row R := p.scan.phase

/-- The scan has made a move. -/
def onScan (p : Production Row R) (move : ScanMove Row) (scan : Scan Row R) :
    Production Row R where
  scan := scan
  ledger := p.ledger.enter p.scan.session scan.session move
  told := p.told ++ scan.told

def step? (p : Production Row R) : ProductionMove Row → Option (Production Row R)
  | .scan move => (p.scan.step? move).map (p.onScan move)
  | .act act => some { p with scan := (Scenario.Scans.act p.scan act).1 }

/-! ## What always holds -/

/-- A source that was told to stop works for a closed session, or is done. -/
def Halted (p : Production Row R) : Prop :=
  p.session.isClosed = true ∧ (p.phase = .scanning ∨ p.phase.isOver = true)

/-- Neither the source nor the mapper has been called. -/
structure Untouched (p : Production Row R) : Prop where
  scans : p.scan.scans = 0
  mapped : p.scan.mapped = 0
  enqueued : p.ledger.enqueued = []

/-- Whether the scan was begun, and what there is to show for it. -/
inductive Begun (p : Production Row R) : Prop
  | once : p.scan.scans = 1 → p.phase ≠ .queued → Begun p
  | notYet : p.Untouched → p.phase = .queued → p.scan.answer = none → Begun p
  | never : p.Untouched → p.phase.isOver = true → Begun p

/-- What holds in every state of a scan and its consumer. -/
structure Kept (plan : ScanPlan Row R) (p : Production Row R) : Prop where
  plan : p.scan.plan = plan
  accounts : Accounts p.scan p.ledger
  guarded : p.session.Guarded
  halted : .stop ∈ p.told → p.Halted
  begun : p.Begun
  /-- A source that returned well has not spoilt the result. -/
  ended : ∀ ending, p.phase = .ended ending → p.ledger.returned = some .ok → ending = .ok

section
variable {plan : ScanPlan Row R} {p p' : Production Row R} {move : ProductionMove Row}

theorem kept_start {capacity : Nat} {session : Session R}
    (hopen : Session.open? capacity = .ok session) : Kept plan (start plan session) := by
  cases Session.eq_fresh_of_open? hopen
  exact ⟨rfl, ⟨trivial, rfl, rfl⟩, Session.guarded_fresh capacity, nofun,
    .notYet ⟨rfl, rfl, rfl⟩ rfl rfl, nofun⟩

/-- A move of the scan is one of its rules. -/
theorem Kept.does (h : Kept plan p) {m : ScanMove Row} (hstep : p.step? (.scan m) = some p') :
    ∃ scan, p.scan.step? m = some scan ∧ p.scan.Does m scan ∧ p' = p.onScan m scan := by
  obtain ⟨scan, hs, rfl⟩ := Option.map_eq_some_iff.mp hstep
  exact ⟨scan, hs, Scan.does_of_step? h.accounts.sound hs, rfl⟩

/-- An act of the consumer is one on the session. -/
theorem Kept.attends (h : Kept plan p) {act : ConsumerAct} (hstep : p.step? (.act act) = some p') :
    ∃ session, Session.Attended act p.session session ∧
      p' = { p with scan := { p.scan with session := session } } := by
  obtain rfl := Option.some.inj hstep
  exact ⟨_, h.guarded.attended act, by rw [Scenario.Scans.act_eq]; rfl⟩

/-- No move reopens a session or changes the reason of a closing. -/
theorem Kept.reason (h : Kept plan p) (hstep : p.step? move = some p') {reason : ClosureReason}
    (hr : p.session.reason = some reason) : p'.session.reason = some reason := by
  cases move with
  | scan m =>
      obtain ⟨scan, -, hd, rfl⟩ := h.does hstep
      exact hd.touches.reason hr
  | act act =>
      obtain ⟨session, ha, rfl⟩ := h.attends hstep
      exact ha.kept hr

theorem Kept.isClosed (h : Kept plan p) (hstep : p.step? move = some p')
    (hc : p.session.isClosed = true) : p'.session.isClosed = true := by
  obtain ⟨reason, hr⟩ := Option.isSome_iff_exists.mp hc
  exact Session.isClosed_of_reason (h.reason hstep hr)

/-- The source of a scan that gets control back at a row it handed over is told to
stop only if the session is closed. -/
theorem Kept.halts (h : Kept plan p) {m : ScanMove Row} {scan : Scan Row R}
    (hd : p.scan.Does m scan) (htold : .stop ∈ scan.told) :
    scan.session.isClosed = true ∧ scan.phase = .scanning := by
  unfold Scan.told at htold
  split at htold
  · next hidle =>
    have hanswer : scan.answer = some .stop := by
      rw [Option.mem_toList] at htold
      exact htold
    refine ⟨?_, Scan.phase_of_isIdle hidle⟩
    cases hd with
    | turnsAway _ hc => exact hc
    | begins hp =>
        cases h.begun with
        | once _ hne => exact absurd hp hne
        | notYet _ _ hnone => exact nomatch hnone.symm.trans hanswer
        | never _ hover =>
            rw [phase, hp] at hover
            cases hover
    | @settles expired item outcome hp =>
        have hsound := h.accounts.sound
        rw [hp] at hsound
        rw [Scan.settleRow_session]
        refine hsound.resolve_left ?_
        rintro rfl
        cases hanswer
    | completes => rw [Scan.isIdle, Scan.settleFinish_phase] at hidle; cases hidle
    | closes => rw [Scan.isIdle, Scan.settleFailure_phase] at hidle; cases hidle
    | _ => cases hidle
  · cases htold

/-- The source has handed over rows in vain: it was told to stop at each of them, and
none of them was mapped or enqueued. -/
structure InVain (p p' : Production Row R) : Prop where
  turned : ∃ rows, p'.ledger.handed = p.ledger.handed ++ rows ∧
    p'.told = p.told ++ List.replicate rows.length .stop
  mapped : p'.scan.mapped = p.scan.mapped
  enqueued : p'.ledger.enqueued = p.ledger.enqueued

theorem InVain.refl (p : Production Row R) : p.InVain p :=
  ⟨⟨[], (List.append_nil _).symm, (List.append_nil _).symm⟩, rfl, rfl⟩

theorem InVain.trans {p p' p'' : Production Row R} (h : p.InVain p') (h' : p'.InVain p'') :
    p.InVain p'' := by
  obtain ⟨rows, hrows, htold⟩ := h.turned
  obtain ⟨rows', hrows', htold'⟩ := h'.turned
  refine ⟨⟨rows ++ rows', ?_, ?_⟩, h'.mapped.trans h.mapped, h'.enqueued.trans h.enqueued⟩
  · rw [hrows', hrows, List.append_assoc]
  · rw [htold', htold, List.append_assoc, List.length_append,
      List.replicate_append_replicate]

/-- A source that was told to stop goes on in vain. -/
theorem Halted.step (h : p.Halted) (hk : Kept plan p) (hstep : p.step? move = some p') :
    p'.Halted ∧ p.InVain p' := by
  obtain ⟨hc, hphase⟩ := h
  have hc' := hk.isClosed hstep hc
  cases move with
  | act act =>
      obtain ⟨session, -, rfl⟩ := hk.attends hstep
      exact ⟨⟨hc', hphase⟩, ⟨⟨[], (List.append_nil _).symm, (List.append_nil _).symm⟩, rfl, rfl⟩⟩
  | scan m =>
      obtain ⟨scan, -, hd, rfl⟩ := hk.does hstep
      have hp : p.scan.phase = .scanning :=
        hphase.resolve_right fun hover => absurd (hover.symm.trans hd.isUnderWay.2) Bool.noConfusion
      rcases hd.of_shut hp hc with ⟨row, index, rfl, rfl⟩ | ⟨ending, rfl, hover, hmapped⟩
      · refine ⟨⟨hc, Or.inl hp⟩, ⟨⟨[(row, index)], rfl, ?_⟩, rfl, rfl⟩⟩
        simp [onScan, Scan.told, Scan.isIdle, hp]
      · refine ⟨⟨hc', Or.inr hover⟩, ⟨⟨[], (List.append_nil _).symm, ?_⟩, hmapped, rfl⟩⟩
        exact congrArg (p.told ++ ·) (Scan.told_of_isOver hover)

theorem Untouched.of_does (h : p.Untouched) {m : ScanMove Row} {scan : Scan Row R}
    (hd : p.scan.Does m scan) (hq : scan.session.queue = p.scan.session.queue)
    (hs : scan.scans = p.scan.scans) (hm : scan.mapped = p.scan.mapped) :
    (p.onScan m scan).Untouched := by
  refine ⟨hs.trans h.scans, hm.trans h.mapped, ?_⟩
  have henq := enqueued_enter hd p.ledger
  rw [hq, List.drop_length, List.append_nil] at henq
  exact henq.trans h.enqueued

theorem Begun.onScan (h : p.Begun) {m : ScanMove Row} {scan : Scan Row R}
    (hd : p.scan.Does m scan) : (p.onScan m scan).Begun := by
  have hne : (p.onScan m scan).phase ≠ .queued := hd.phase_ne_queued
  have hdropped := Session.dropProducer_queue p.scan.session
  have huntouched := fun hu : p.Untouched => hu.of_does hd
  cases h with
  | once hs hp =>
      have hsame := hd.scans_cases.resolve_right fun hbegun => hp hbegun.1
      exact .once (hsame.trans hs) hne
  | notYet hu hp hanswer =>
      cases hd with
      | skips => exact .never (huntouched hu hdropped rfl rfl) rfl
      | begins => exact .once (congrArg (· + 1) hu.scans) hne
      | vanishes => exact .never (huntouched hu hdropped rfl rfl) rfl
      | _ hp' => exact nomatch hp.symm.trans hp'
  | never hu hover => exact absurd (hover.symm.trans hd.isUnderWay.2) Bool.noConfusion

/-- A scan whose source returned well ends well. -/
theorem Kept.ending_eq_ok (h : Kept plan p) {m : ScanMove Row} {scan : Scan Row R}
    (hd : p.scan.Does m scan) {ending : Ending} (he : scan.phase = .ended ending)
    (hr : (p.onScan m scan).ledger.returned = some .ok) : ending = .ok := by
  have hst := h.accounts.stands
  cases hd with
  | raises => cases hr
  | givesUp hp =>
      rw [hp] at hst
      cases hst.1.symm.trans hr
  | closes hp =>
      rw [hp] at hst
      cases hst.1.symm.trans hr
  | completes =>
      rw [Scan.settleFinish_phase] at he
      cases he
      rfl
  | turnsAway hp => exact nomatch hp.symm.trans he
  | settles => rw [Scan.settleRow_phase] at he; cases he
  | skips => cases he; rfl
  | stops => cases he; rfl
  | stopsFailing => cases he; rfl
  | _ => cases he

theorem Kept.step (h : Kept plan p) (hstep : p.step? move = some p') : Kept plan p' := by
  cases move with
  | scan m =>
      obtain ⟨scan, hs, hd, rfl⟩ := h.does hstep
      have hframe := hd.touches.frame
      refine ⟨hd.plan_eq.trans h.plan, h.accounts.step hs, ?_, ?_, h.begun.onScan hd,
        fun _ => h.ending_eq_ok hd⟩
      · exact h.guarded.of_frame hd.touches.isClosed hframe.2.1 hframe.2.2
      · intro htold
        rcases List.mem_append.mp htold with htold | htold
        · exact ((h.halted htold).step h hstep).1
        · exact (h.halts hd htold).imp_right Or.inl
  | act act =>
      obtain ⟨session, ha, rfl⟩ := h.attends hstep
      have hc : p.session.isClosed = true → session.isClosed = true := h.isClosed hstep
      refine ⟨h.plan, h.accounts.onSession hc ha.producerGone, ha.guarded, ?_, ?_, h.ended⟩
      · intro htold
        exact (h.halted htold).imp hc id
      · cases h.begun with
        | once hs hp => exact .once hs hp
        | notYet hu hp hanswer => exact .notYet ⟨hu.scans, hu.mapped, hu.enqueued⟩ hp hanswer
        | never hu hover => exact .never ⟨hu.scans, hu.mapped, hu.enqueued⟩ hover

theorem kept_of_play {moves : List (ProductionMove Row)} (h : Kept plan p)
    (hplay : play? step? p moves = some p') : Kept plan p' :=
  play?_preserves (fun h hstep => h.step hstep) h hplay

end

/-! ## Where closings are timely -/

/-- The consumer closes the session only where a closing is timely. -/
def Timely (p : Production Row R) : ProductionMove Row → Prop
  | .scan _ => True
  | .act act => act.closes = true → p.phase.admitsClosing = true

instance (p : Production Row R) : DecidablePred p.Timely
  | .scan _ => inferInstanceAs (Decidable True)
  | .act act => inferInstanceAs (Decidable (act.closes = true → p.phase.admitsClosing = true))

/-- What holds where all closings are timely: the end marker and a closing exclude
each other, and a failure of the source finds the session open. -/
structure Fair (p : Production Row R) : Prop where
  reserving : p.phase = .ending .reserving → p.session.reason = none
  failing : ∀ failure, p.phase = .failing failure → p.session.reason = none
  marked : .finish ∈ p.ledger.enqueued → p.session.reason = none
  complete : p.phase = .ended .ok → p.session.reason = none → .finish ∈ p.ledger.enqueued
  shut : ∀ error, p.phase = .ended (.failed error) → p.session.isClosed = true

section
variable {plan : ScanPlan Row R} {p p' : Production Row R} {move : ProductionMove Row}

theorem fair_start {capacity : Nat} {session : Session R}
    (hopen : Session.open? capacity = .ok session) : (start plan session).Fair := by
  cases Session.eq_fresh_of_open? hopen
  exact ⟨nofun, nofun, nofun, nofun, nofun⟩

/-- A waiting enqueue of the end marker that finds room has looked for a closing
first. -/
theorem open_of_landing {expired : Bool} {scan : Scan Row R}
    (hp : p.scan.phase = .ending .waiting) (hstep : p.scan.step? (.advance expired) = some scan)
    (hsent : scan.phase = .ending (.done .sent)) : p.session.isClosed = false := by
  cases hc : p.session.isClosed with
  | false => rfl
  | true =>
      obtain ⟨-, hadvance⟩ := Option.ite_none_right_eq_some.mp hstep
      have hstage : scan.phase = .ending (.done .closed) := by
        have hc : p.scan.session.isClosed = true := hc
        rw [← Option.some.inj hadvance]
        simp [Scan.advance, hp, SendStage.advance, hc]
      cases hsent.symm.trans hstage

/-- An end marker that is in has just gone in, or was in before. -/
theorem Kept.marked_cases (hk : Kept plan p) {m : ScanMove Row} {scan : Scan Row R}
    (hs : p.scan.step? m = some scan) (hmarked : .finish ∈ (p.onScan m scan).ledger.enqueued) :
    scan.phase = .ending (.done .sent) ∨ .finish ∈ p.ledger.enqueued := by
  rcases (hk.accounts.step hs).stands.phase_of_marked hmarked with hp | ⟨ending, hp⟩
  · exact Or.inl hp
  · have hd := Scan.does_of_step? hk.accounts.sound hs
    have hover : scan.phase.isOver = true := congrArg ScanPhase.isOver hp
    have henq : (p.onScan m scan).ledger.enqueued = _ := enqueued_enter hd p.ledger
    rw [henq, hd.touches.queue_of_over hover, List.drop_length, List.append_nil] at hmarked
    exact Or.inr hmarked

/-- A scan whose end marker is in ends, and does nothing to its session but give up its
half. -/
theorem Fair.reason_of_delivered (h : p.Fair) {m : ScanMove Row} {scan : Scan Row R}
    (hd : p.scan.Does m scan) (hk : Kept plan p) (hmarked : .finish ∈ p.ledger.enqueued) :
    scan.session.reason = none := by
  have hreason := h.marked hmarked
  rcases hk.accounts.stands.phase_of_marked hmarked with hp | ⟨ending, hp⟩
  · cases hd with
    | completes =>
        rw [Scan.settleFinish_session, Session.dropProducer_reason]
        exact hreason
    | delivers hp' hm =>
        cases hp.symm.trans hp'
        cases hm.isDone_eq_false
    | _ hp' => exact nomatch hp.symm.trans hp'
  · have hover := hd.isUnderWay.2
    rw [hp] at hover
    cases hover

/-- The end marker goes in where the session is open. -/
theorem Fair.reason_of_landing (h : p.Fair) (hk : Kept plan p) {m : ScanMove Row}
    {scan : Scan Row R} (hs : p.scan.step? m = some scan)
    (hsent : scan.phase = .ending (.done .sent)) : scan.session.reason = none := by
  have hd := Scan.does_of_step? hk.accounts.sound hs
  rcases hd.ending_cases hsent with ⟨⟨⟩⟩ | ⟨⟨⟩, -⟩ | ⟨expired, stage, rfl, hp, hm⟩
  rcases hm.queue with ⟨-, hlooks, -, -, hlanded⟩ | ⟨hne, -⟩
  · rw [hlanded]
    show p.session.reason = none
    cases stage with
    | reserving => exact h.reserving hp
    | waiting => exact Session.reason_of_isOpen (open_of_landing hp hs hsent)
    | _ => cases hlooks
  · exact absurd rfl hne

theorem Fair.onScan (h : p.Fair) (hk : Kept plan p) {m : ScanMove Row} {scan : Scan Row R}
    (hs : p.scan.step? m = some scan) : (p.onScan m scan).Fair := by
  have hd := Scan.does_of_step? hk.accounts.sound hs
  refine ⟨?_, ?_, ?_, ?_, ?_⟩
  · intro hp
    rcases hd.ending_cases hp with ⟨⟨⟩⟩ | ⟨⟨⟩, -⟩ | ⟨expired, stage, -, -, hm⟩
    exact Session.reason_of_isOpen hm.open_of_reserving
  · exact fun failure hp => Session.reason_of_isOpen (hd.failing_cases hp).2
  · intro hmarked
    rcases hk.marked_cases hs hmarked with hp | hbefore
    · exact h.reason_of_landing hk hs hp
    · exact h.reason_of_delivered hd hk hbefore
  · exact hk.accounts.marked_of_open hd
  · exact fun error => hd.isClosed_of_failed

theorem Fair.step (h : p.Fair) (hk : Kept plan p) (hmove : p.Timely move)
    (hstep : p.step? move = some p') : p'.Fair := by
  cases move with
  | scan m =>
      obtain ⟨scan, hs, -, rfl⟩ := hk.does hstep
      exact h.onScan hk hs
  | act act =>
      obtain ⟨session, ha, rfl⟩ := hk.attends hstep
      have hc : p.session.isClosed = true → session.isClosed = true := hk.isClosed hstep
      cases hcloses : act.closes with
      | false =>
          have hr : session.reason = p.session.reason := ha.quiet hcloses
          exact ⟨hr.trans ∘ h.reserving, fun f hp => hr.trans (h.failing f hp), hr.trans ∘ h.marked,
            fun hp hnone => h.complete hp (hr.symm.trans hnone), fun e hp => hc (h.shut e hp)⟩
      | true =>
          have hadmits : p.phase.admitsClosing = true := hmove hcloses
          have hnot : ∀ {phase : ScanPhase Row R} {P : Prop}, p.phase = phase →
              phase.admitsClosing = false → P := by
            rintro _ _ rfl hfalse
            exact absurd (hfalse.symm.trans hadmits) Bool.false_ne_true
          refine ⟨fun hp => hnot hp rfl, fun f hp => hnot hp rfl, ?_, fun hp _ => hnot hp rfl,
            fun e hp => hc (h.shut e hp)⟩
          intro hmarked
          rcases hk.accounts.stands.phase_of_marked hmarked with hp | ⟨ending, hp⟩
          · exact hnot hp rfl
          · exact hnot hp rfl

/-- The states of a scan whose consumer closes only where that is timely. -/
theorem fair_of_play {capacity : Nat} {session : Session R}
    {moves : List (ProductionMove Row)} {t : Production Row R}
    (hopen : Session.open? capacity = .ok session)
    (hplay : play? step? (start plan session) moves = some t)
    (htimely : Along step? Timely (start plan session) moves) : t.Fair := by
  have hboth : Kept plan t ∧ t.Fair :=
    htimely.preserves (P := fun p => Kept plan p ∧ p.Fair)
      (fun h hmove hstep => ⟨h.1.step hstep, h.2.step h.1 hmove hstep⟩)
      ⟨kept_start hopen, fair_start hopen⟩ hplay
  exact hboth.2

end
end Production
end RowBridge
